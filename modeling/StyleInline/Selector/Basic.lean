import StyleInline.Text.Basic

/-!
# Selectors

A selector describes elements by a chain of compounds.  Each compound after the first
is tied to the one before it by a combinator; a group offers several selectors.

## Main definitions

* `Predicate`, `Compound` — conditions on one element.
* `Combinator` — how an element stands to the one matched before it.
* `Selector`, `SelectorGroup` — a chain of compounds; alternatives.
* `SelectorError` — why a text is no selector.
-/

namespace StyleInline

/-- A condition on one element, beside its tag. -/
inductive Predicate where
  /-- The attribute `id` is `value`. -/
  | id (value : Text)
  /-- The attribute `class` has the word `name`. -/
  | hasClass (name : Text)
  /-- The attribute is present. -/
  | present (name : Text)
  /-- The attribute is `value`. -/
  | equals (name value : Text)
  /-- The attribute has the word `value`. -/
  | word (name value : Text)
  /-- The attribute is `value`, or begins with `value` and a dash. -/
  | dash (name value : Text)
  /-- No element stands before it among its siblings. -/
  | firstChild
  /-- No element stands behind it among its siblings. -/
  | lastChild
deriving Repr, DecidableEq

/-- Whether a predicate speaks of the place among the siblings. -/
def Predicate.isPositional : Predicate → Bool
  | firstChild | lastChild => true
  | _ => false

/-- A tag, or any, and further predicates. -/
structure Compound where
  tag : Option Text
  predicates : List Predicate
deriving Repr, DecidableEq

/-- How an element stands to the one that the compound before it matched. -/
inductive Combinator where
  /-- Somewhere below it. -/
  | descendant
  /-- A child of it. -/
  | child
  /-- The next element behind it. -/
  | adjacent
deriving Repr, DecidableEq

/-- The mark of a combinator; the descendant combinator is written as a blank. -/
def Combinator.symbol : Combinator → Char
  | descendant => ' '
  | child => '>'
  | adjacent => '+'

/-- A chain of compounds. -/
structure Selector where
  first : Compound
  rest : List (Combinator × Compound)
deriving Repr, DecidableEq

/-- The compounds with their combinators; the first is sought among the descendants
of the context. -/
def Selector.steps (s : Selector) : List (Combinator × Compound) :=
  (.descendant, s.first) :: s.rest

/-- Selectors of which any may match. -/
abbrev SelectorGroup := List Selector

/-- Why a text is no selector. -/
inductive SelectorError where
  /-- A fragment has no reading. -/
  | malformed (fragment : Text)
  /-- A fragment belongs to a construct outside the language. -/
  | unsupported (fragment : Text)
  /-- There is nothing but blanks. -/
  | empty
  /-- A combinator lacks a compound before or behind it. -/
  | danglingCombinator (combinator : Combinator)
deriving Repr, DecidableEq

/-- The wording of an error. -/
def SelectorError.message : SelectorError → Text
  | malformed fragment => "invalid CSS selector syntax near '".toList ++ fragment ++ "'".toList
  | unsupported fragment => "unsupported CSS selector construct '".toList ++ fragment ++ "'".toList
  | empty => "empty selector".toList
  | danglingCombinator combinator =>
    "combinator '".toList ++ combinator.symbol :: "' is missing an operand".toList

end StyleInline
