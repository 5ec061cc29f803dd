import Mathlib.Data.List.Nodup
import StyleInline.Proofs.OrderedMap.Overlay
import StyleInline.Proofs.Stylesheet.Ranking

/-!
# What a sheet gathers

The sheet of a list of rules has one rule for each selector that they list.  It declares what
the rules that list the selector leave behind when their expanded declarations are written
over one another in order, and how often one of them lists it does not matter.  Rules stand
by descending weight and, where they weigh the same, in the order in which their selectors
are first listed.  This determines the sheet.

## Main definitions

* `Stylesheet.accumulated` — what rules say of one selector.
* `Stylesheet.Gathers` — the sheets that gather a list of rules.

## Main results

* `Stylesheet.gathers_iff_eq_ofRules` — there is one such sheet.
-/

namespace StyleInline.Stylesheet

variable {declarations : Declarations} {entries : OrderedMap Text Declarations} {rule : Rule}
  {rules : List Rule} {selector : Text} {sheet sheet' : Stylesheet}

/-! ## One selector -/

/-- The declarations of a selector while the rules are gathered: none as long as it has no
entry. -/
def present (entries : OrderedMap Text Declarations) (selector : Text) : Declarations :=
  (entries.get? selector).getD .empty

/-- What rules say of a selector: the expanded declarations of those that list it, written
over one another in order. -/
def accumulated (rules : List Rule) (selector : Text) : Declarations :=
  (rules.filter fun rule => selector ∈ rule.selectors).foldl
    (fun block rule => block.merge rule.declarations.expand) .empty

theorem distinct_expand (block : Declarations) : block.expand.Distinct :=
  OrderedMap.distinct_ofList _

theorem distinct_accumulated (rules : List Rule) (selector : Text) :
    (accumulated rules selector).Distinct := by
  rw [accumulated]
  exact List.foldlRecOn (motive := OrderedMap.Distinct) _ _ OrderedMap.distinct_empty
    fun _ hblock rule _ => OrderedMap.distinct_merge hblock rule.declarations.expand

/-- One write reaches the entry of one selector. -/
theorem present_gatherSelector (declarations : Declarations)
    (entries : OrderedMap Text Declarations) (listed selector : Text) :
    present (gatherSelector declarations entries listed) selector =
      if listed = selector then (present entries selector).merge declarations
      else present entries selector := by
  rw [present, gatherSelector, OrderedMap.upsert, OrderedMap.get?_insert]
  split
  · next h =>
    subst h
    rfl
  · rfl

/-- Writing the same declarations for several selectors reaches each of them once, however
often it is repeated. -/
theorem present_foldl_gatherSelector (hdeclarations : declarations.Distinct)
    (hpresent : (present entries selector).Distinct) (selectors : List Text) :
    present (selectors.foldl (gatherSelector declarations) entries) selector =
      if selector ∈ selectors then (present entries selector).merge declarations
      else present entries selector := by
  induction selectors generalizing entries with
  | nil => simp
  | cons listed later ih =>
    have hstep := present_gatherSelector declarations entries listed selector
    rw [List.foldl_cons]
    by_cases h : listed = selector
    · subst h
      rw [if_pos rfl] at hstep
      have hmerged : (present (gatherSelector declarations entries listed) listed).Distinct := by
        rw [hstep]
        exact OrderedMap.distinct_merge hpresent declarations
      rw [ih hmerged, hstep, if_pos List.mem_cons_self,
        OrderedMap.merge_merge_self hpresent hdeclarations, ite_self]
    · rw [if_neg h] at hstep
      rw [ih (by rwa [hstep]), hstep]
      simp only [List.mem_cons, Ne.symm h, false_or]

/-- What rules leave in the entry of a selector. -/
theorem present_foldl_gatherRule (hpresent : (present entries selector).Distinct)
    (rules : List Rule) :
    present (rules.foldl gatherRule entries) selector =
      (rules.filter fun rule => selector ∈ rule.selectors).foldl
        (fun block rule => block.merge rule.declarations.expand) (present entries selector) := by
  induction rules generalizing entries with
  | nil => rfl
  | cons rule later ih =>
    have hstep : present (gatherRule entries rule) selector =
        if selector ∈ rule.selectors then
          (present entries selector).merge rule.declarations.expand
        else present entries selector :=
      present_foldl_gatherSelector (distinct_expand _) hpresent rule.selectors
    rw [List.foldl_cons]
    by_cases h : selector ∈ rule.selectors
    · rw [if_pos h] at hstep
      have hmerged : (present (gatherRule entries rule) selector).Distinct := by
        rw [hstep]
        exact OrderedMap.distinct_merge hpresent _
      rw [ih hmerged, hstep, List.filter_cons_of_pos (by simpa using h), List.foldl_cons]
    · rw [if_neg h] at hstep
      rw [ih (by rwa [hstep]), hstep, List.filter_cons_of_neg (by simpa using h)]

/-- What is gathered for a selector is what the rules say of it. -/
theorem present_gather (rules : List Rule) (selector : Text) :
    present (gather rules) selector = accumulated rules selector := by
  have hempty : (present .empty selector).Distinct := OrderedMap.distinct_empty
  exact present_foldl_gatherRule hempty rules

/-- Every entry holds what the rules say of its selector. -/
theorem eq_accumulated_of_mem_gather {entry : Text × Declarations}
    (h : entry ∈ (gather rules).entries) : entry.2 = accumulated rules entry.1 := by
  have hdistinct : (gather rules).Distinct := by
    rw [OrderedMap.Distinct, keys_gather]
    exact nodup_eraseDups _
  rw [← present_gather, present, OrderedMap.get?_of_mem_entries hdistinct h, Option.getD_some]

/-! ## The sheet -/

/-- A sheet gathers rules when it has one rule for each selector that they list and for no
other, with what they say of it and with its weight, in the order of weights and first
appearances. -/
structure Gathers (rules : List Rule) (sheet : Stylesheet) : Prop where
  nodup_selectors : (sheet.rules.map (·.selector)).Nodup
  mem_selectors_iff : ∀ selector,
    selector ∈ sheet.rules.map (·.selector) ↔ ∃ rule ∈ rules, selector ∈ rule.selectors
  declarations_eq : ∀ ranked ∈ sheet.rules,
    ranked.declarations = accumulated rules ranked.selector
  specificity_eq : ∀ ranked ∈ sheet.rules,
    ranked.specificity = Specificity.ofSelector ranked.selector
  pairwise_precedes : (sheet.rules.map (·.selector)).Pairwise (Precedes (listed rules))

/-- The selectors of a sheet are those that its rules list. -/
theorem mem_selectors_ofRules :
    selector ∈ (ofRules rules).rules.map (·.selector) ↔
      ∃ rule ∈ rules, selector ∈ rule.selectors := by
  have hkeys : selector ∈ (ofRules rules).rules.map (·.selector) ↔
      selector ∈ (gather rules).keys := by
    rw [OrderedMap.keys, List.mem_map, List.mem_map]
    constructor
    · rintro ⟨ranked, hranked, rfl⟩
      exact ⟨_, (mem_rules_ofRules.1 hranked).1, rfl⟩
    · rintro ⟨entry, hentry, rfl⟩
      exact ⟨RankedRule.ofEntry entry, mem_rules_ofRules.2 ⟨hentry, rfl⟩, rfl⟩
  rw [hkeys, keys_gather, List.mem_eraseDups, listed, List.mem_flatMap]

/-- The sheet of a list of rules gathers them. -/
theorem gathers_ofRules (rules : List Rule) : Gathers rules (ofRules rules) where
  nodup_selectors := nodup_selectors_ofRules rules
  mem_selectors_iff _ := mem_selectors_ofRules
  declarations_eq _ h := eq_accumulated_of_mem_gather (mem_rules_ofRules.1 h).1
  specificity_eq _ h := (mem_rules_ofRules.1 h).2
  pairwise_precedes := Stylesheet.pairwise_precedes rules

/-- No rule of a sheet that gathers rules stands twice. -/
theorem Gathers.nodup (h : Gathers rules sheet) : sheet.rules.Nodup :=
  h.nodup_selectors.of_map _

/-- Two sheets that gather the same rules have the same rules. -/
theorem Gathers.subset (h : Gathers rules sheet) (h' : Gathers rules sheet') :
    sheet.rules ⊆ sheet'.rules := by
  intro ranked hranked
  have hselector : ranked.selector ∈ sheet'.rules.map (·.selector) :=
    (h'.mem_selectors_iff _).2 ((h.mem_selectors_iff _).1 (List.mem_map_of_mem hranked))
  obtain ⟨other, hother, heq⟩ := List.mem_map.1 hselector
  have hsame : other = ranked := by
    obtain ⟨selector, specificity, declarations⟩ := ranked
    obtain ⟨_, specificity', declarations'⟩ := other
    cases heq
    have hweight := (h'.specificity_eq _ hother).trans (h.specificity_eq _ hranked).symm
    have hblock := (h'.declarations_eq _ hother).trans (h.declarations_eq _ hranked).symm
    cases hweight
    cases hblock
    rfl
  exact hsame ▸ hother

/-- Two sheets that gather the same rules are equal. -/
theorem Gathers.unique (h : Gathers rules sheet) (h' : Gathers rules sheet') : sheet = sheet' := by
  have hperm : sheet.rules.Perm sheet'.rules := by
    rw [List.perm_ext_iff_of_nodup h.nodup h'.nodup]
    exact fun ranked => ⟨fun hr => h.subset h' hr, fun hr => h'.subset h hr⟩
  have hrules : sheet.rules = sheet'.rules := by
    refine List.Perm.eq_of_pairwise ?_ (List.pairwise_map.1 h.pairwise_precedes)
      (List.pairwise_map.1 h'.pairwise_precedes) hperm
    exact fun a b _ _ hab hba => absurd hba (Precedes.asymm hab)
  obtain ⟨rules⟩ := sheet
  obtain ⟨rules'⟩ := sheet'
  cases hrules
  rfl

/-- **A sheet gathers a list of rules exactly when it is the sheet of that list.** -/
theorem gathers_iff_eq_ofRules : Gathers rules sheet ↔ sheet = ofRules rules := by
  constructor
  · intro h
    exact h.unique (gathers_ofRules rules)
  · rintro rfl
    exact gathers_ofRules rules

end StyleInline.Stylesheet
