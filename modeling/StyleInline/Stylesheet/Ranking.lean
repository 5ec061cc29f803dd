import StyleInline.Declaration.Basic
import StyleInline.Selector.Specificity

/-!
# Ranking

The rules of a sheet are ranked by descending weight; rules of equal weight keep
their order.

## Main definitions

* `RankedRule` — one selector with its weight and its declarations.
* `RankedRule.rank` — the stable ranking of a list of entries.
-/

namespace StyleInline

/-- One selector, its weight and the declarations it is given. -/
structure RankedRule where
  selector : Text
  specificity : UInt32
  declarations : Declarations
deriving Repr, DecidableEq

namespace RankedRule

/-- The rule of one selector, weighed by its text. -/
def ofEntry (entry : Text × Declarations) : RankedRule :=
  ⟨entry.1, Specificity.ofSelector entry.1, entry.2⟩

@[simp] theorem selector_ofEntry (entry : Text × Declarations) :
    (ofEntry entry).selector = entry.1 := rfl

@[simp] theorem declarations_ofEntry (entry : Text × Declarations) :
    (ofEntry entry).declarations = entry.2 := rfl

/-- Puts a rule before the first rule that does not weigh more. -/
def place (rule : RankedRule) : List RankedRule → List RankedRule
  | [] => [rule]
  | other :: rest =>
    if rule.specificity < other.specificity then other :: place rule rest
    else rule :: other :: rest

/-- Sorts rules by descending weight.  Rules are placed from the last to the first,
so of two that weigh the same the earlier stays in front. -/
def sortByWeight (rules : List RankedRule) : List RankedRule := rules.foldr place []

/-- The entries as rules, by descending weight. -/
def rank (entries : List (Text × Declarations)) : List RankedRule :=
  sortByWeight (entries.map ofEntry)

@[simp] theorem rank_nil : rank [] = [] := rfl

/-- Placing a rule adds it and changes nothing else. -/
theorem place_perm (rule : RankedRule) (rules : List RankedRule) :
    (place rule rules).Perm (rule :: rules) := by
  induction rules with
  | nil => exact .refl _
  | cons other rest ih =>
    rw [place]
    split
    · exact (ih.cons other).trans (.swap ..)
    · exact .refl _

/-- Sorting loses no rule and adds none. -/
theorem sortByWeight_perm (rules : List RankedRule) : (sortByWeight rules).Perm rules := by
  induction rules with
  | nil => exact .refl _
  | cons rule rest ih => exact (place_perm _ _).trans (ih.cons rule)

end RankedRule

end StyleInline
