import StyleInline.Proofs.Text.Cut
import StyleInline.Selector.Parser

/-!
# The grammar of selectors

Selectors are read from the end of a token, by one reader after the other.  The grammar
below says what is accepted without saying how: a token is a core, perhaps with a class
and an id behind it, and a selector is a list of tokens with combinators between them.

The marks of classes, ids and operators may also stand in the value of an attribute test.
Behind such a value stands a closing bracket, which no identifier holds; and of two
operators in one test the last occurrence of the one that is looked for first counts, so
some values are excluded.

## Main definitions

* `Compound.Test`, `Compound.Core`, `Compound.Written` — the grammar of a token.
* `Selector.Steps`, `Selector.Written` — the grammar of a selector, word by word.
-/

namespace StyleInline

/-! ## Tokens -/

namespace Compound

/-- How a value is written: as it stands, or between two quotation marks of one kind. -/
inductive Value : (written value : Text) → Prop
  | plain {c : Char} {rest : Text} (h : isQuote c = false) : Value (c :: rest) (c :: rest)
  | quoted {quote : Char} {value : Text} (h : isQuote quote = true) :
      Value (quote :: (value ++ [quote])) value

/-- What may stand between brackets. -/
inductive Test : (inner : Text) → Predicate → Prop
  | present {name : Text} (hname : Text.isIdent name = true) : Test name (.present name)
  | word {name written value : Text} (hname : Text.isIdent name = true)
      (hvalue : Value written value) (hword : ¬ ['~', '='] <:+: written) :
      Test (name ++ '~' :: '=' :: written) (.word name value)
  | dash {name written value : Text} (hname : Text.isIdent name = true)
      (hvalue : Value written value) (hdash : ¬ ['|', '='] <:+: written)
      (hword : ¬ ['~', '='] <:+: written ∨ ['~', '='] <:+ written) :
      Test (name ++ '|' :: '=' :: written) (.dash name value)
  | equals {name written value : Text} (hname : Text.isIdent name = true)
      (hvalue : Value written value) (hequals : '=' ∉ written) :
      Test (name ++ '=' :: written) (.equals name value)

/-- The pseudo-classes and what they ask for. -/
inductive Pseudo : Text → List Predicate → Prop
  | firstChild : Pseudo "first-child".toList [.firstChild]
  | lastChild : Pseudo "last-child".toList [.lastChild]
  | stateless {name : Text}
      (h : name ∈ ["link".toList, "hover".toList, "visit".toList, "active".toList]) :
      Pseudo name []

/-- A token without its class and id: the tag it asks for and its predicates. -/
inductive Core : Text → Option Text → List Predicate → Prop
  | blank : Core [] none []
  | any : Core ['*'] none []
  | tag {tag : Text} (htag : Text.isIdent tag = true) : Core tag (some tag) []
  | pseudo {tag pseudo : Text} {predicates : List Predicate} (htag : Text.isIdent tag = true)
      (hpseudo : Pseudo pseudo predicates) : Core (tag ++ ':' :: pseudo) (some tag) predicates
  | test {tag inner : Text} {predicate : Predicate} (htag : Text.isIdent tag = true)
      (hinner : ']' ∉ inner) (htest : Test inner predicate) :
      Core (tag ++ '[' :: (inner ++ [']'])) (some tag) [predicate]

/-- Nothing, or a mark with an identifier behind it. -/
inductive Suffix (mark : Char) (test : Text → Predicate) : Text → List Predicate → Prop
  | absent : Suffix mark test [] []
  | present {name : Text} (hname : Text.isIdent name = true) :
      Suffix mark test (mark :: name) [test name]

/-- The written form of a compound: a core, a class and an id, of which one is there.  The
predicates are those of the id, of the class and of the core. -/
inductive Written : Text → Compound → Prop
  | mk {core classText idText : Text} {tag : Option Text} {more classes ids : List Predicate}
      (hcore : Core core tag more) (hclass : Suffix '.' .hasClass classText classes)
      (hid : Suffix '#' .id idText ids) (hne : core ++ classText ++ idText ≠ []) :
      Written (core ++ classText ++ idText) ⟨tag, ids ++ classes ++ more⟩

end Compound

/-! ## Selectors -/

/-- The words of a combinator: its mark, or none for descendants. -/
def Combinator.words : Combinator → List Text
  | descendant => []
  | child => [['>']]
  | adjacent => [['+']]

namespace Selector

/-- The written form of the steps behind a compound: for each the combinator, then the
compound. -/
inductive Steps : List Text → List (Combinator × Compound) → Prop
  | nil : Steps [] []
  | cons {combinator : Combinator} {token : Text} {compound : Compound} {words : List Text}
      {steps : List (Combinator × Compound)} (htoken : compound.Written token)
      (hsteps : Steps words steps) :
      Steps (combinator.words ++ token :: words) ((combinator, compound) :: steps)

/-- The written form of a selector, word by word: a compound and the steps behind it. -/
inductive Written : List Text → Selector → Prop
  | mk {token : Text} {first : Compound} {words : List Text} {rest : List (Combinator × Compound)}
      (htoken : first.Written token) (hsteps : Steps words rest) :
      Written (token :: words) ⟨first, rest⟩

end Selector

/-! ## What the parts hold -/

namespace Compound

variable {name inner text core : Text} {p : Predicate} {predicates : List Predicate}
  {mark c : Char}

theorem Value.ne_nil {written value : Text} (h : Value written value) : written ≠ [] := by
  cases h <;> simp

theorem Test.ne_nil (h : Test inner p) : inner ≠ [] := by
  cases h with
  | present hname => exact Text.ne_nil_of_isIdent hname
  | word | dash | equals => simp

theorem Pseudo.isIdent (h : Pseudo name predicates) : Text.isIdent name = true := by
  cases h with
  | firstChild | lastChild => decide
  | stateless h =>
    simp only [List.mem_cons, List.not_mem_nil, or_false] at h
    rcases h with rfl | rfl | rfl | rfl <;> decide

/-- A character that stands in no identifier stands in a core only between brackets, but
for the colon of a pseudo-class and the star. -/
theorem Core.exists_test_of_mem {core : Text} {tag : Option Text} {more : List Predicate}
    (h : Core core tag more) (hc : Text.isIdentChar c = false) (hcolon : c ≠ ':') (hstar : c ≠ '*')
    (hmem : c ∈ core) :
    ∃ name inner p, Text.isIdent name = true ∧ ']' ∉ inner ∧ Test inner p ∧
      core = name ++ '[' :: (inner ++ [']']) ∧ tag = some name ∧ more = [p] := by
  cases h with
  | blank => simp at hmem
  | any => simp [hstar] at hmem
  | tag htag => exact absurd hmem (Text.notMem_of_isIdent htag hc)
  | pseudo htag hpseudo =>
    rw [List.mem_append, List.mem_cons] at hmem
    rcases hmem with hmem | hmem | hmem
    · exact absurd hmem (Text.notMem_of_isIdent htag hc)
    · exact absurd hmem hcolon
    · exact absurd hmem (Text.notMem_of_isIdent hpseudo.isIdent hc)
  | test htag hinner htest => exact ⟨_, _, _, htag, hinner, htest, rfl, rfl, rfl⟩

theorem Suffix.notMem {test : Text → Predicate} (h : Suffix mark test text predicates)
    (hc : Text.isIdentChar c = false) (hmark : c ≠ mark) : c ∉ text := by
  cases h with
  | absent => simp
  | present hname => simp [hmark, Text.notMem_of_isIdent hname hc]

end Compound

end StyleInline
