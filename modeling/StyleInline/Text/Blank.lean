import StyleInline.Text.Basic

/-!
# Blank characters

Blanks are the characters with the Unicode property `White_Space`.  They separate
the words of a text and are what trimming takes away.  Attribute values divide
their words at the five ASCII blanks instead.

## Main definitions

* `Text.isBlank`, `Text.isAsciiBlank` — the two classes.
* `Text.trim` — a text without the blanks at its two ends.
* `Text.words`, `Text.asciiWords` — the maximal runs of characters that are not blank.
* `Text.spacedTokens` — the non-blank parts between single spaces, trimmed.
-/

namespace StyleInline.Text

/-! ## The classes -/

/-- The characters with the property `White_Space`. -/
def isBlank (c : Char) : Bool :=
  let n := c.toNat
  (0x09 ≤ n && n ≤ 0x0D) || n == 0x20 || n == 0x85 || n == 0xA0 || n == 0x1680 ||
    (0x2000 ≤ n && n ≤ 0x200A) || n == 0x2028 || n == 0x2029 || n == 0x202F ||
    n == 0x205F || n == 0x3000

/-- Space, tab, line feed, form feed and carriage return. -/
def isAsciiBlank (c : Char) : Bool :=
  c == ' ' || c == '\t' || c == '\n' || c == '\x0C' || c == '\r'

/-! ## Trimming -/

/-- The text without the blanks at its start. -/
def trimStart (text : Text) : Text := text.dropWhile isBlank

/-- The text without the blanks at its end. -/
def trimEnd : Text → Text
  | [] => []
  | c :: rest =>
    match trimEnd rest with
    | [] => if isBlank c then [] else [c]
    | kept => c :: kept

/-- The text without the blanks at its two ends. -/
def trim (text : Text) : Text := trimEnd (trimStart text)

@[simp] theorem trimStart_nil : trimStart [] = [] := rfl

@[simp] theorem trimEnd_nil : trimEnd [] = [] := rfl

@[simp] theorem trim_nil : trim [] = [] := rfl

/-! ## Words -/

/-- The words of a text: its maximal runs of characters that are not blank. -/
def words (text : Text) : List Text := nonEmptyFields isBlank text

/-- The words of an attribute value, divided at ASCII blanks. -/
def asciiWords (text : Text) : List Text := nonEmptyFields isAsciiBlank text

/-- The parts between single spaces, trimmed, less those that are blank. -/
def spacedTokens (text : Text) : List Text :=
  ((splitOn ' ' text).map trim).filter (!·.isEmpty)

@[simp] theorem words_nil : words [] = [] := rfl

end StyleInline.Text
