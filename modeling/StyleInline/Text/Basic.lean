/-!
# Text

A text is a list of characters.  All the small languages of this library — style
declarations, rules, selectors, markup — are read from such lists and written to
them, so that reading is recursion on the data.

## Main definitions

* `Text.fields` — the parts between separators, empty ones included.
* `Text.cut?`, `Text.cutLast?`, `Text.cutAtLast?` — a text cut in two around a mark.
* `Text.dropStart?`, `Text.dropEnd?` — a text less a given start or end.
* `Text.equalsIgnoringCase` — equality up to the case of ASCII letters.
-/

namespace StyleInline

/-- A text: its characters in order. -/
abbrev Text := List Char

namespace Text

/-- Texts that test equal are equal; every search for a text in a list rests on it. -/
instance : LawfulBEq Text := inferInstance

/-! ## Cutting at separators -/

/-- The parts of a text between the characters that satisfy `isSep`.  There is
always one part more than there are separators; parts may be empty. -/
def fields (isSep : Char → Bool) : Text → List Text
  | [] => [[]]
  | c :: rest =>
    if isSep c then [] :: fields isSep rest
    else
      match fields isSep rest with
      | [] => [[c]]
      | part :: parts => (c :: part) :: parts

/-- The parts of a text between the occurrences of one character. -/
def splitOn (sep : Char) (text : Text) : List Text := fields (· == sep) text

/-- The parts that are not empty. -/
def nonEmptyFields (isSep : Char → Bool) (text : Text) : List Text :=
  (fields isSep text).filter (!·.isEmpty)

@[simp] theorem fields_nil (isSep : Char → Bool) : fields isSep [] = [[]] := rfl

/-- Cutting at separators leaves at least one part. -/
theorem fields_ne_nil (isSep : Char → Bool) (text : Text) : fields isSep text ≠ [] := by
  cases text with
  | nil => simp
  | cons c rest =>
    rw [fields]
    split
    · simp
    · split <;> simp

/-! ## Cutting in two -/

/-- What stands before and after the first `sep`; nothing when there is none. -/
def cut? (sep : Char) : Text → Option (Text × Text)
  | [] => none
  | c :: rest =>
    if c = sep then some ([], rest)
    else (cut? sep rest).map fun (before, after) => (c :: before, after)

/-- What stands before and after the last `sep`; nothing when there is none. -/
def cutLast? (sep : Char) : Text → Option (Text × Text)
  | [] => none
  | c :: rest =>
    match cutLast? sep rest with
    | some (before, after) => some (c :: before, after)
    | none => if c = sep then some ([], rest) else none

/-- The text less `start`, if it begins with it. -/
def dropStart? : (start text : Text) → Option Text
  | [], text => some text
  | _ :: _, [] => none
  | c :: start, d :: text => if c = d then dropStart? start text else none

/-- The text less its last character, if that is `last`. -/
def dropEnd? (last : Char) : Text → Option Text
  | [] => none
  | [c] => if c = last then some [] else none
  | c :: d :: rest => (dropEnd? last (d :: rest)).map (c :: ·)

/-- What stands before and after the last occurrence of the text `mark`; nothing
when there is none. -/
def cutAtLast? (mark : Text) : Text → Option (Text × Text)
  | [] => if mark.isEmpty then some ([], []) else none
  | c :: rest =>
    match cutAtLast? mark rest with
    | some (before, after) => some (c :: before, after)
    | none => (dropStart? mark (c :: rest)).map fun after => ([], after)

@[simp] theorem dropStart?_nil (text : Text) : dropStart? [] text = some text := by
  cases text <;> rfl

/-- A text less its start, put behind that start, is the text. -/
theorem dropStart?_eq_some_iff {start text rest : Text} :
    dropStart? start text = some rest ↔ text = start ++ rest := by
  induction start generalizing text with
  | nil => simp
  | cons c start ih =>
    cases text with
    | nil => simp [dropStart?]
    | cons d text =>
      by_cases h : c = d
      · subst h; simp [dropStart?, ih]
      · simp [dropStart?, h, Ne.symm h]

/-- The two sides of a cut, with the mark between them, are the text, and the mark
does not occur before it. -/
theorem cut?_eq_some_iff {sep : Char} {text before after : Text} :
    cut? sep text = some (before, after) ↔
      text = before ++ sep :: after ∧ sep ∉ before := by
  induction text generalizing before with
  | nil => simp [cut?]
  | cons c rest ih =>
    by_cases h : c = sep
    · subst h
      cases before with
      | nil => simp [cut?, eq_comm]
      | cons b before => simp [cut?]; rintro rfl; simp
    · cases before with
      | nil => simp [cut?, h]
      | cons b before =>
        simp [cut?, h, ih, Prod.ext_iff]
        grind

/-- There is nothing to cut exactly when the mark does not occur. -/
theorem cut?_eq_none_iff {sep : Char} {text : Text} : cut? sep text = none ↔ sep ∉ text := by
  induction text with
  | nil => simp [cut?]
  | cons c rest ih =>
    by_cases h : c = sep
    · simp [cut?, h]
    · simp [cut?, h, ih, Ne.symm h]

/-! ## ASCII case -/

/-- The text with its ASCII letters in lower case. -/
def lower (text : Text) : Text := text.map Char.toLower

/-- Equality up to the case of ASCII letters. -/
def equalsIgnoringCase (a b : Text) : Bool := lower a == lower b

end Text

end StyleInline
