import StyleInline.Proofs.FirstAppearance
import StyleInline.Proofs.Selector.Chain

/-!
# What a group selects

A group selects what its branches select, each element once.  The elements stand in the order
of the first branches that select them, and those that the same branch adds stand in document
order.

## Main definitions

* `SelectorGroup.firstBranch` — the first branch that selects an element.
* `SelectorGroup.Precedes` — the order of what a group selects.

## Main results

* `SelectorGroup.select_cons`, `SelectorGroup.pairwise_precedes` — one branch in front of
  others, and the order of them all.
* `SelectorGroup.select_union` — which elements a group selects, and in which order.
-/

namespace StyleInline

variable {T H : Type} [ElementTree T H] [DecidableEq H] {t : T} {container context a b : H}
  {elements : Forest H} {s : Selector} {group : SelectorGroup}

open Selector (rowDocument rowElements navigates_rowDocument)

namespace SelectorGroup

/-- The place in a group of the first branch that selects an element, and the length of the
group if none does. -/
def firstBranch (t : T) (group : SelectorGroup) (context e : H) : Nat :=
  group.findIdx fun s => e ∈ Selector.select t s context

/-- `a` stands before `b` in what a group selects: an earlier branch is the first to select it,
or the same branch is and it stands before `b` in the document. -/
def Precedes (t : T) (group : SelectorGroup) (context : H) (elements : Forest H) (a b : H) :
    Prop :=
  firstBranch t group context a < firstBranch t group context b ∨
    firstBranch t group context a = firstBranch t group context b ∧
      elements.preorder.idxOf a < elements.preorder.idxOf b

/-! ## One branch in front of others -/

theorem firstBranch_cons (t : T) (s : Selector) (group : SelectorGroup) (context e : H) :
    firstBranch t (s :: group) context e =
      if e ∈ Selector.select t s context then 0 else firstBranch t group context e + 1 := by
  rw [firstBranch, List.findIdx_cons, cond_eq_ite]
  simp only [decide_eq_true_eq, firstBranch]

/-- Elements that the first branch does not select stand as the other branches say. -/
theorem precedes_cons_iff (ha : a ∉ Selector.select t s context)
    (hb : b ∉ Selector.select t s context) :
    Precedes t (s :: group) context elements a b ↔ Precedes t group context elements a b := by
  rw [Precedes, Precedes, firstBranch_cons, firstBranch_cons, if_neg ha, if_neg hb,
    Nat.add_lt_add_iff_right, Nat.add_right_cancel_iff]

/-- The first branch selects what it selects alone, and the others add to that. -/
theorem select_cons (h : (Selector.select t s context).Nodup) (group : SelectorGroup) :
    select t (s :: group) context = Selector.select t s context ++
      (select t group context).filter fun e => e ∉ Selector.select t s context := by
  rw [select, List.flatMap_cons, eraseDups_append_of_nodup h, select]

/-! ## All branches -/

/-- What a group selects stands in its order, if every branch selects in document order. -/
theorem pairwise_precedes (hnodup : elements.preorder.Nodup)
    (h : ∀ s ∈ group, (Selector.select t s context).Sublist elements.preorder) :
    (select t group context).Pairwise (Precedes t group context elements) := by
  induction group with
  | nil => exact .nil
  | cons s group ih =>
    obtain ⟨hs, hlater⟩ := List.forall_mem_cons.1 h
    have hfirst {e : H} (he : e ∈ Selector.select t s context) :
        firstBranch t (s :: group) context e = 0 := by
      rw [firstBranch_cons, if_pos he]
    rw [select_cons (hnodup.sublist hs)]
    refine List.pairwise_append.2 ⟨?_, ?_, ?_⟩
    · refine ((pairwise_idxOf_of_nodup hnodup).sublist hs).imp_of_mem ?_
      intro a b ha hb hab
      exact .inr ⟨by rw [hfirst ha, hfirst hb], hab⟩
    · refine ((ih hlater).filter _).imp_of_mem ?_
      intro a b ha hb hab
      have hne {e : H} (he : e ∈ (select t group context).filter fun e =>
          e ∉ Selector.select t s context) : e ∉ Selector.select t s context := by
        simpa using (List.mem_filter.1 he).2
      exact (precedes_cons_iff (hne ha) (hne hb)).2 hab
    · intro a ha b hb
      have hne : b ∉ Selector.select t s context := by simpa using (List.mem_filter.1 hb).2
      refine .inl ?_
      rw [hfirst ha, firstBranch_cons, if_neg hne]
      exact Nat.succ_pos _

/-- Branches behind a group add what it does not select, in their own order. -/
theorem select_append (t : T) (group later : SelectorGroup) (context : H) :
    select t (group ++ later) context = select t group context ++
      (select t later context).filter fun e => e ∉ select t group context := by
  simp only [select, List.flatMap_append, eraseDups_append_eq, List.mem_eraseDups]

/-- **A group selects the union of its branches**, each element once, in the order of the first
branches that select them and, for the same branch, in document order; branches behind it add
what it does not select. -/
theorem select_union (h : Navigates t container elements)
    (hcontext : context = container ∨ context ∈ elements.preorder) (group : SelectorGroup) :
    (∀ e, e ∈ select t group context ↔ ∃ s ∈ group, e ∈ Selector.select t s context) ∧
      (select t group context).Nodup ∧
      (select t group context).Pairwise (Precedes t group context elements) ∧
      ∀ later, select t (group ++ later) context = select t group context ++
        (select t later context).filter fun e => e ∉ select t group context := by
  refine ⟨fun e => mem_select_iff, nodup_eraseDups _, ?_, fun later => select_append ..⟩
  exact pairwise_precedes h.nodup_elements fun s _ =>
    Selector.select_sublist_elements h hcontext s

/-! ## Two branches and a third -/

/-- The group `b, i`, in an order other than that of the row. -/
def rowGroup : SelectorGroup := [⟨⟨some ['b'], []⟩, []⟩, ⟨⟨some ['i'], []⟩, []⟩]

/-- A third branch, `*`, adds the `div` only, behind what the others select. -/
theorem select_union_row :
    Navigates rowDocument 0 rowElements ∧
      select rowDocument rowGroup 0 = [2, 4, 3] ∧
      (select rowDocument rowGroup 0).Pairwise (Precedes rowDocument rowGroup 0 rowElements) ∧
      select rowDocument (rowGroup ++ [⟨⟨none, []⟩, []⟩]) 0 = [2, 4, 3, 1] :=
  have hunion := select_union navigates_rowDocument (.inl rfl) rowGroup
  ⟨navigates_rowDocument, by decide, hunion.2.2.1, (hunion.2.2.2 _).trans (by decide)⟩

end SelectorGroup

end StyleInline
