import StyleInline.Selector.Compound
import StyleInline.Text.Blank

/-!
# Reading a selector

The words of a selector are compounds and combinators.  A combinator needs a compound
on either side; two compounds without one between them are tied by the descendant
combinator.

## Main definitions

* `Selector.parse` — one selector.
* `SelectorGroup.parse` — selectors with commas between them.
-/

namespace StyleInline

namespace Selector

/-- The combinator that a word is, if it is one. -/
def combinator? (word : Text) : Option Combinator :=
  if word = ['>'] then some .child else if word = ['+'] then some .adjacent else none

/-- The steps that follow a compound.  `pending` is the combinator that has been read
since. -/
def readSteps : (pending : Option Combinator) → List Text →
    Except SelectorError (List (Combinator × Compound))
  | none, [] => .ok []
  | some combinator, [] => .error (.danglingCombinator combinator)
  | pending, word :: rest =>
    match combinator? word, pending with
    | some combinator, none => readSteps (some combinator) rest
    | some combinator, some _ => .error (.danglingCombinator combinator)
    | none, _ =>
      match Compound.ofToken word with
      | .error e => .error e
      | .ok compound =>
        (readSteps none rest).map fun steps => (pending.getD .descendant, compound) :: steps

/-- The selector that a list of words states. -/
def ofWords : List Text → Except SelectorError Selector
  | [] => .error .empty
  | word :: rest =>
    match combinator? word with
    | some combinator => .error (.danglingCombinator combinator)
    | none =>
      match Compound.ofToken word with
      | .error e => .error e
      | .ok first => (readSteps none rest).map fun steps => ⟨first, steps⟩

/-- Reads a selector. -/
def parse (text : Text) : Except SelectorError Selector := ofWords (Text.words text)

@[simp] theorem readSteps_nil : readSteps none [] = .ok [] := rfl

@[simp] theorem parse_nil : parse [] = .error .empty := rfl

end Selector

namespace SelectorGroup

/-- The selectors that all branches state, or the first thing that is wrong. -/
def ofBranches : List Text → Except SelectorError SelectorGroup
  | [] => .ok []
  | branch :: rest =>
    match Selector.parse branch with
    | .error e => .error e
    | .ok selector => (ofBranches rest).map (selector :: ·)

/-- Reads the selectors between commas.  None of them may be blank. -/
def parse (text : Text) : Except SelectorError SelectorGroup :=
  ofBranches (Text.splitOn ',' text)

end SelectorGroup

end StyleInline
