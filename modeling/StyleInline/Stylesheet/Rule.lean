import StyleInline.Declaration.Segment

/-!
# Rules

The text of a stylesheet is cut at its braces, in turn at the next opening and the
next closing one.  What stands between is first all cut, then read: preludes hold the
selectors of a rule, bodies its declarations.

## Main definitions

* `Section`, `Outline` — a prelude with its body, and the text cut into such pairs.
* `Rule` — the selectors that share a list of declarations.
* `Rule.parseAll` — the rules of a text, or what is wrong with it.
-/

namespace StyleInline

/-! ## The outline of a stylesheet -/

/-- The text before an opening brace, and the text from there to the closing one. -/
structure Section where
  prelude : Text
  body : Text
deriving Repr, DecidableEq

/-- What follows the last closed block. -/
inductive Ending where
  /-- Text without an opening brace. -/
  | trailing (text : Text)
  /-- A block, begun behind `prelude`, that is not closed. -/
  | unclosed (prelude : Text)
deriving Repr, DecidableEq

/-- A stylesheet cut at its braces. -/
structure Outline where
  sections : List Section
  ending : Ending
deriving Repr, DecidableEq

namespace Outline

/-- The brace that is due: a closing one inside a block, an opening one outside. -/
def brace : (inside : Bool) → Char
  | true => '}'
  | false => '{'

/-- The parts of a text between the next `{`, the next `}` behind it, the next `{`
behind that, and so on; `inside` says that a closing brace is due. -/
def chunks : (inside : Bool) → Text → List Text
  | _, [] => [[]]
  | inside, c :: rest =>
    if c = brace inside then [] :: chunks (!inside) rest
    else
      match chunks inside rest with
      | [] => [[c]]
      | chunk :: later => (c :: chunk) :: later

/-- Pairs up the parts: each prelude with its body. -/
def ofChunks : List Text → Outline
  | [] => ⟨[], .trailing []⟩
  | [text] => ⟨[], .trailing text⟩
  | [prelude, _] => ⟨[], .unclosed prelude⟩
  | prelude :: body :: rest =>
    let outline := ofChunks rest
    ⟨⟨prelude, body⟩ :: outline.sections, outline.ending⟩

/-- The outline of a text. -/
def ofText (text : Text) : Outline := ofChunks (chunks false text)

/-- Cutting leaves at least one part. -/
theorem chunks_ne_nil (inside : Bool) (text : Text) : chunks inside text ≠ [] := by
  cases text with
  | nil => simp [chunks]
  | cons c rest =>
    rw [chunks]
    split
    · simp
    · split <;> simp

end Outline

/-! ## Rules -/

/-- The selectors that share a list of declarations, as they are written. -/
structure Rule where
  selectors : List Text
  declarations : Declarations
deriving Repr, DecidableEq

namespace Rule

/-- The keyword of an at-rule: its text up to a blank or a semicolon. -/
def atKeyword (prelude : Text) : Text :=
  prelude.takeWhile fun c => !(Text.isBlank c || c == ';')

/-- What is wrong with a trimmed prelude, if anything: it closes a block that is not
open, begins an at-rule, or holds a semicolon. -/
def preludeError? (prelude : Text) : Option SyntaxError :=
  if prelude.contains '}' then
    some (.unsupportedConstruct ("unbalanced '\x7d' near '".toList ++ prelude ++ "'".toList))
  else if prelude.head? = some '@' then
    some (.unsupportedConstruct ("at-rule ".toList ++ atKeyword prelude))
  else if prelude.contains ';' then some (.straySemicolon prelude)
  else none

/-- The selectors of a prelude: its trimmed parts between commas that are not blank. -/
def selectorsOf (prelude : Text) : List Text :=
  ((Text.splitOn ',' prelude).map Text.trim).filter (!·.isEmpty)

/-- The rule of one section.  A section without a selector makes no rule, whatever
its body holds. -/
def ofSection? (s : Section) : Except SyntaxError (Option Rule) :=
  let prelude := Text.trim s.prelude
  match preludeError? prelude with
  | some e => .error e
  | none =>
    if s.body.contains '{' then
      .error (.unsupportedConstruct ("nested block inside '".toList ++ prelude ++ "'".toList))
    else
      match selectorsOf prelude with
      | [] => .ok none
      | selectors => (Declarations.parse s.body).map fun block => some ⟨selectors, block⟩

/-- What is wrong with the text behind the last closed block, if anything.  Only
blanks may stand there. -/
def endingError? : Ending → Option SyntaxError
  | .unclosed prelude => some (.unterminatedBlock (Text.trim prelude))
  | .trailing text =>
    match Text.trim text with
    | [] => none
    | rest => some ((preludeError? rest).getD (.unterminatedBlock rest))

/-- The rules of an outline, in order, or the first thing that is wrong with it. -/
def ofOutline : List Section → Ending → Except SyntaxError (List Rule)
  | [], ending =>
    match endingError? ending with
    | some e => .error e
    | none => .ok []
  | s :: rest, ending =>
    match ofSection? s with
    | .error e => .error e
    | .ok rule =>
      match ofOutline rest ending with
      | .error e => .error e
      | .ok rules => .ok (rule.toList ++ rules)

/-- The rules of a text without comments. -/
def parseAll (text : Text) : Except SyntaxError (List Rule) :=
  let outline := Outline.ofText text
  ofOutline outline.sections outline.ending

end Rule

end StyleInline
