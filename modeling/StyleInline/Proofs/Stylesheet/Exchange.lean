import StyleInline.Proofs.Stylesheet.Gathering

/-!
# Rules that may change places

The order of a text counts in two ways: of the rules that list one selector the later one is
written over the earlier one, and of selectors that weigh the same the one that is listed first
ranks first.  Two neighbouring rules touch neither if no selector of the one weighs as much as a
selector of the other, since then they list no selector together; so they may change places.

What is in front of them and behind them does not matter, although it may list their selectors
again: a selector listed in front has its place from there, and of two selectors listed behind
neither gets its place from the rules exchanged.

## Main definitions

* `Rule.Independent` — two rules whose selectors have different weights.

## Main results

* `Stylesheet.precedes_exchange` — the order of ranking stays as it is.
* `Stylesheet.Gathers.exchange` — what gathers the rules in one order gathers them in the other.
* `Stylesheet.ofRules_exchange` — the sheet is the same.
-/

namespace StyleInline

/-- No selector of the one rule weighs as much as a selector of the other. -/
def Rule.Independent (a b : Rule) : Prop :=
  ∀ s ∈ a.selectors, ∀ s' ∈ b.selectors, Specificity.ofSelector s ≠ Specificity.ofSelector s'

instance (a b : Rule) : Decidable (a.Independent b) :=
  inferInstanceAs (Decidable (∀ s ∈ a.selectors, ∀ s' ∈ b.selectors,
    Specificity.ofSelector s ≠ Specificity.ofSelector s'))

variable {a b : Rule} {before after : List Rule} {selector x y : Text} {sheet : Stylesheet}

/-- Independent rules list no selector together. -/
theorem Rule.Independent.notMem (h : a.Independent b) (ha : selector ∈ a.selectors) :
    selector ∉ b.selectors :=
  fun hb => h selector ha selector hb rfl

namespace Stylesheet

theorem listed_append_cons_cons (before : List Rule) (a b : Rule) (after : List Rule) :
    listed (before ++ a :: b :: after) =
      listed before ++ (a.selectors ++ (b.selectors ++ listed after)) := by
  simp [listed]

/-- Of two selectors that weigh the same, at most one of two independent rules lists any. -/
theorem precedes_exchange (h : a.Independent b) :
    Precedes (listed (before ++ a :: b :: after)) x y ↔
      Precedes (listed (before ++ b :: a :: after)) x y := by
  rw [listed_append_cons_cons, listed_append_cons_cons]
  refine or_congr_right (and_congr_right fun hweight => ?_)
  have hneither : (x ∉ a.selectors ∧ y ∉ a.selectors) ∨ (x ∉ b.selectors ∧ y ∉ b.selectors) := by
    by_cases hx : x ∈ a.selectors
    · exact .inr ⟨h.notMem hx, fun hy => h x hx y hy hweight⟩
    · by_cases hy : y ∈ a.selectors
      · exact .inr ⟨fun hx => h y hy x hx hweight.symm, h.notMem hy⟩
      · exact .inl ⟨hx, hy⟩
  -- the rule that lists neither of them may stand anywhere
  rcases hneither with ⟨hx, hy⟩ | ⟨hx, hy⟩
  · exact idxOf_lt_idxOf_append_comm_iff hx hy
  · exact (idxOf_lt_idxOf_append_comm_iff hx hy).symm

/-- At most one of two independent rules says something of a selector. -/
theorem accumulated_exchange (h : a.Independent b) :
    accumulated (before ++ a :: b :: after) selector =
      accumulated (before ++ b :: a :: after) selector := by
  rw [accumulated, accumulated, List.filter_append, List.filter_append]
  by_cases ha : selector ∈ a.selectors
  · have hb : selector ∉ b.selectors := h.notMem ha
    simp [ha, hb]
  · by_cases hb : selector ∈ b.selectors <;> simp [ha, hb]

/-- What gathers rules gathers them also when independent neighbours have changed places. -/
theorem Gathers.exchange (h : a.Independent b)
    (hsheet : Gathers (before ++ a :: b :: after) sheet) :
    Gathers (before ++ b :: a :: after) sheet where
  nodup_selectors := hsheet.nodup_selectors
  mem_selectors_iff selector := by
    have hperm : (before ++ a :: b :: after).Perm (before ++ b :: a :: after) :=
      (List.Perm.swap b a after).append_left before
    simp only [hsheet.mem_selectors_iff, hperm.mem_iff]
  declarations_eq ranked hranked := by
    rw [hsheet.declarations_eq ranked hranked, accumulated_exchange h]
  specificity_eq := hsheet.specificity_eq
  pairwise_precedes := hsheet.pairwise_precedes.imp (precedes_exchange h).1

/-- **Independent neighbours may change places**, whatever is in front of them and behind them:
the sheet is the same. -/
theorem ofRules_exchange (h : a.Independent b) (before after : List Rule) :
    ofRules (before ++ a :: b :: after) = ofRules (before ++ b :: a :: after) :=
  ((gathers_ofRules _).exchange h).unique (gathers_ofRules _)

/-- A rule that gives its selectors a color. -/
def colorRule (selectors : List String) (color : String) : Rule :=
  ⟨selectors.map String.toList, ⟨[("color".toList, color.toList)]⟩⟩

/-- Rules for an id and a tag, and for two classes.  A rule in front lists a selector of each, and
one behind lists two of them again. -/
theorem ofRules_exchange_note :
    let topRule := colorRule ["#top", "p"] "blue"
    let noteRule := colorRule [".note", ".tip"] "green"
    let before := [colorRule ["p", ".note"] "red"]
    let after := [colorRule [".tip", "em", "#top"] "black"]
    topRule.Independent noteRule ∧
      ofRules (before ++ topRule :: noteRule :: after) =
        ofRules (before ++ noteRule :: topRule :: after) ∧
      (ofRules (before ++ noteRule :: topRule :: after)).rules.map (·.selector) =
        ["#top", ".note", ".tip", "p", "em"].map String.toList :=
  have hindependent : (colorRule ["#top", "p"] "blue").Independent
      (colorRule [".note", ".tip"] "green") := by decide +kernel
  ⟨hindependent, ofRules_exchange hindependent _ _, by decide +kernel⟩

end Stylesheet

end StyleInline
