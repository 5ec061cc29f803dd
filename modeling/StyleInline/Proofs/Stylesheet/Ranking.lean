import StyleInline.Proofs.FirstAppearance
import StyleInline.Proofs.OrderedMap.Merge
import StyleInline.Proofs.Outcome
import StyleInline.Stylesheet.Compiled

/-!
# The order of a sheet

A sheet has one rule for each selector that is listed, whatever rule lists it.  Rules
stand by descending weight, and those of equal weight in the order in which their
selectors are first listed.

## Main definitions

* `Stylesheet.listed` — the selectors in the order of the text, repetitions included.
* `Stylesheet.Precedes` — the order of ranking, read off two selectors.

## Main results

* `Stylesheet.pairwise_precedes` — the rules of a sheet stand in this order.
-/

namespace StyleInline

/-! ## Stable sorting -/

namespace RankedRule

variable {R : RankedRule → RankedRule → Prop} {rule : RankedRule} {rules : List RankedRule}

/-- `a` weighs more than `b`, or as much and stands before it by `R`. -/
def Outweighs (R : RankedRule → RankedRule → Prop) (a b : RankedRule) : Prop :=
  b.specificity < a.specificity ∨ a.specificity = b.specificity ∧ R a b

/-- Placing a rule that stands before all others keeps the order. -/
theorem pairwise_place (hrule : ∀ other ∈ rules, R rule other)
    (h : rules.Pairwise (Outweighs R)) : (place rule rules).Pairwise (Outweighs R) := by
  induction rules with
  | nil => simp [place]
  | cons other rest ih =>
    obtain ⟨hother, hrest⟩ := List.pairwise_cons.1 h
    rw [place]
    split
    · next hlt =>
      refine List.pairwise_cons.2 ⟨fun b hb => ?_, ih (fun b hb => hrule b (by simp [hb])) hrest⟩
      rcases List.mem_cons.1 ((place_perm rule rest).mem_iff.1 hb) with rfl | hb
      · exact .inl hlt
      · exact hother b hb
    · next hle =>
      refine List.pairwise_cons.2 ⟨?_, h⟩
      intro b hb
      have hb_le : b.specificity ≤ other.specificity := by
        rcases List.mem_cons.1 hb with rfl | hb
        · exact UInt32.le_refl _
        · rcases hother b hb with hlt | ⟨heq, -⟩
          · exact UInt32.le_of_lt hlt
          · exact UInt32.le_of_eq heq.symm
      by_cases hlt : b.specificity < rule.specificity
      · exact .inl hlt
      · have hge : rule.specificity ≤ b.specificity := UInt32.not_lt.1 hlt
        have hle' : other.specificity ≤ rule.specificity := UInt32.not_lt.1 hle
        exact .inr ⟨UInt32.le_antisymm hge (UInt32.le_trans hb_le hle'), hrule b hb⟩

/-- Sorting orders by weight, and keeps the order of rules that weigh the same. -/
theorem pairwise_sortByWeight (h : rules.Pairwise R) :
    (sortByWeight rules).Pairwise (Outweighs R) := by
  induction rules with
  | nil => exact .nil
  | cons rule rest ih =>
    obtain ⟨hrule, hrest⟩ := List.pairwise_cons.1 h
    refine pairwise_place ?_ (ih hrest)
    intro other hother
    exact hrule other ((sortByWeight_perm rest).mem_iff.1 hother)

/-- Sorting leaves rules alone that stand by descending weight. -/
theorem sortByWeight_of_pairwise (h : rules.Pairwise fun a b => b.specificity ≤ a.specificity) :
    sortByWeight rules = rules := by
  induction rules with
  | nil => rfl
  | cons rule rest ih =>
    obtain ⟨hrule, hrest⟩ := List.pairwise_cons.1 h
    rw [sortByWeight, List.foldr_cons, ← sortByWeight, ih hrest]
    cases rest with
    | nil => rfl
    | cons other rest => rw [place, if_neg (UInt32.not_lt.2 (hrule other (by simp)))]

end RankedRule

/-! ## Gathering -/

namespace Stylesheet

/-- The selectors that rules list, repetitions included. -/
def listed (rules : List Rule) : List Text := rules.flatMap (·.selectors)

/-- A rule adds the selectors that have not been listed before. -/
theorem keys_gatherRule (rule : Rule) {entries : OrderedMap Text Declarations}
    {before : List Text} (h : entries.keys = before.eraseDups) :
    (gatherRule entries rule).keys = (before ++ rule.selectors).eraseDups := by
  rw [gatherRule]
  generalize rule.declarations.expand = declarations
  induction rule.selectors generalizing entries before with
  | nil => rw [List.foldl_nil, List.append_nil, h]
  | cons selector rest ih =>
    have hkeys : (gatherSelector declarations entries selector).keys
        = (before ++ [selector]).eraseDups := by
      rw [gatherSelector, OrderedMap.upsert, OrderedMap.keys_insert, h, eraseDups_append_singleton]
      simp only [List.mem_eraseDups]
    rw [List.foldl_cons, ih hkeys, List.append_assoc, List.singleton_append]

theorem keys_foldl_gatherRule (rules : List Rule) {entries : OrderedMap Text Declarations}
    {before : List Text} (h : entries.keys = before.eraseDups) :
    (rules.foldl gatherRule entries).keys = (before ++ listed rules).eraseDups := by
  induction rules generalizing entries before with
  | nil => simpa [listed] using h
  | cons rule rest ih =>
    rw [List.foldl_cons, ih (keys_gatherRule rule h), List.append_assoc]
    rfl

/-- The entries of a sheet are the selectors listed, in the order of first appearance. -/
theorem keys_gather (rules : List Rule) : (gather rules).keys = (listed rules).eraseDups := by
  have hnone : (OrderedMap.empty : OrderedMap Text Declarations).keys = [].eraseDups := rfl
  simpa [gather] using keys_foldl_gatherRule rules hnone

/-- What holds of no declarations and is kept when the declarations of a rule are written
over others holds of every entry. -/
theorem forall_mem_gather {P : Declarations → Prop} {rules : List Rule} (hempty : P .empty)
    (hmerge : ∀ rule ∈ rules, ∀ block, P block → P (block.merge rule.declarations.expand)) :
    ∀ entry ∈ (gather rules).entries, P entry.2 := by
  have hselector {declarations : Declarations}
      (hd : ∀ block, P block → P (block.merge declarations)) (selector : Text)
      {entries : OrderedMap Text Declarations} (h : ∀ entry ∈ entries.entries, P entry.2) :
      ∀ entry ∈ (gatherSelector declarations entries selector).entries, P entry.2 := by
    intro entry hentry
    rcases OrderedMap.mem_entries_insert hentry with rfl | hentry
    · refine hd _ ?_
      cases hpresent : entries.get? selector with
      | none => exact hempty
      | some block => exact h _ (OrderedMap.mem_entries_of_get? hpresent)
    · exact h entry hentry
  have hnone : ∀ entry ∈ (OrderedMap.empty : OrderedMap Text Declarations).entries, P entry.2 := by
    simp
  refine List.foldlRecOn (motive := fun entries => ∀ entry ∈ entries.entries, P entry.2)
    rules gatherRule hnone ?_
  intro entries hentries rule hrule
  refine List.foldlRecOn (motive := fun entries => ∀ entry ∈ entries.entries, P entry.2)
    rule.selectors (gatherSelector rule.declarations.expand) hentries ?_
  exact fun entries hentries selector _ => hselector (hmerge rule hrule) selector hentries

/-! ## Ranking -/

/-- `a` ranks before `b`: it weighs more, or it weighs as much and is listed first. -/
def Precedes (listed : List Text) (a b : Text) : Prop :=
  Specificity.ofSelector b < Specificity.ofSelector a ∨
    Specificity.ofSelector a = Specificity.ofSelector b ∧ listed.idxOf a < listed.idxOf b

/-- Of two selectors at most one ranks before the other. -/
theorem Precedes.asymm {listed : List Text} {a b : Text} (h : Precedes listed a b) :
    ¬ Precedes listed b a := by
  intro h'
  rcases h with hlt | ⟨heq, hidx⟩
  · rcases h' with hlt' | ⟨heq', -⟩
    · exact UInt32.lt_asymm hlt hlt'
    · exact UInt32.ne_of_lt hlt heq'
  · rcases h' with hlt' | ⟨-, hidx'⟩
    · exact UInt32.ne_of_lt hlt' heq
    · exact Nat.lt_asymm hidx hidx'

/-- A rule of a sheet is made of an entry. -/
theorem mem_rules_ofRules {rules : List Rule} {rule : RankedRule} :
    rule ∈ (ofRules rules).rules ↔
      (rule.selector, rule.declarations) ∈ (gather rules).entries ∧
        rule.specificity = Specificity.ofSelector rule.selector := by
  rw [rules_ofRules, RankedRule.rank, (RankedRule.sortByWeight_perm _).mem_iff, List.mem_map]
  constructor
  · rintro ⟨entry, hentry, rfl⟩
    exact ⟨hentry, rfl⟩
  · rintro ⟨hentry, hweight⟩
    exact ⟨_, hentry, by rw [RankedRule.ofEntry, ← hweight]⟩

/-- The rules of a sheet stand in the order of ranking. -/
theorem pairwise_precedes (rules : List Rule) :
    ((ofRules rules).rules.map (·.selector)).Pairwise (Precedes (listed rules)) := by
  have hkeys : ((gather rules).entries.map RankedRule.ofEntry).Pairwise fun a b =>
      (listed rules).idxOf a.selector < (listed rules).idxOf b.selector := by
    have h := pairwise_idxOf_eraseDups (listed rules)
    rw [← keys_gather, OrderedMap.keys, List.pairwise_map] at h
    exact List.pairwise_map.2 h
  rw [List.pairwise_map]
  refine (RankedRule.pairwise_sortByWeight hkeys).imp_of_mem ?_
  intro a b ha hb hab
  have hweight {rule : RankedRule} (h : rule ∈ (ofRules rules).rules) :=
    (mem_rules_ofRules.1 h).2
  rw [Precedes, ← hweight ha, ← hweight hb]
  exact hab

/-- No selector of a sheet stands twice. -/
theorem nodup_selectors_ofRules (rules : List Rule) :
    ((ofRules rules).rules.map (·.selector)).Nodup := by
  refine (pairwise_precedes rules).imp ?_
  rintro a b hab rfl
  exact hab.asymm hab

end Stylesheet

/-! ## Compiling -/

namespace CompiledSheet

/-- Reading the selectors changes neither them nor the declarations nor the order. -/
theorem map_compileRules {rules : List RankedRule} {compiled : List CompiledRule}
    (h : compileRules rules = .ok compiled) :
    compiled.map (fun rule => (rule.selector, rule.declarations))
      = rules.map fun rule => (rule.selector, rule.declarations) := by
  induction rules generalizing compiled with
  | nil =>
    cases h
    rfl
  | cons rule rest ih =>
    rw [compileRules] at h
    cases hparse : SelectorGroup.parse rule.selector with
    | error e => simp [hparse] at h
    | ok branches =>
      rw [hparse] at h
      obtain ⟨later, hrest, rfl⟩ := map_eq_ok_iff.1 h
      simp [ih hrest, compiledRule]

variable {rules : List Rule} {compiled : CompiledSheet}

/-- The rules of a compiled sheet are those of the sheet. -/
theorem map_rules_ofSheet {sheet : Stylesheet} (h : ofSheet sheet = .ok compiled) :
    compiled.rules.map (fun rule => (rule.selector, rule.declarations))
      = sheet.rules.map fun rule => (rule.selector, rule.declarations) := by
  obtain ⟨compiledRules, hrules, rfl⟩ := map_eq_ok_iff.1 h
  exact map_compileRules hrules

/-- The rules of a compiled sheet stand in the order of ranking. -/
theorem pairwise_precedes (h : ofSheet (Stylesheet.ofRules rules) = .ok compiled) :
    compiled.rules.Pairwise fun a b =>
      Stylesheet.Precedes (Stylesheet.listed rules) a.selector b.selector := by
  have hmap : compiled.rules.map (·.selector)
      = (Stylesheet.ofRules rules).rules.map (·.selector) := by
    have hpairs := congrArg (List.map Prod.fst) (map_rules_ofSheet h)
    rw [List.map_map, List.map_map] at hpairs
    exact hpairs
  have hpairwise := Stylesheet.pairwise_precedes rules
  rw [← hmap, List.pairwise_map] at hpairwise
  exact hpairwise

/-- A rule of a compiled sheet has the selector and the declarations of a rule of the sheet. -/
theorem exists_rankedRule {sheet : Stylesheet} (h : ofSheet sheet = .ok compiled)
    {rule : CompiledRule} (hrule : rule ∈ compiled.rules) :
    ∃ ranked ∈ sheet.rules, ranked.selector = rule.selector ∧
      ranked.declarations = rule.declarations := by
  have hmem : (rule.selector, rule.declarations) ∈
      sheet.rules.map fun rule => (rule.selector, rule.declarations) := by
    rw [← map_rules_ofSheet h]
    exact List.mem_map_of_mem hrule
  obtain ⟨ranked, hranked, heq⟩ := List.mem_map.1 hmem
  exact ⟨ranked, hranked, Prod.mk.inj heq⟩

/-- No rule of a compiled sheet declares a property twice. -/
theorem distinct_declarations (h : ofSheet (Stylesheet.ofRules rules) = .ok compiled) :
    ∀ rule ∈ compiled.rules, rule.declarations.Distinct := by
  intro rule hrule
  obtain ⟨ranked, hranked, -, hdeclarations⟩ := exists_rankedRule h hrule
  rw [← hdeclarations]
  exact Stylesheet.forall_mem_gather OrderedMap.distinct_empty
    (fun rule _ _ hblock => OrderedMap.distinct_merge hblock rule.declarations.expand) _
    (Stylesheet.mem_rules_ofRules.1 hranked).1

end CompiledSheet

end StyleInline
