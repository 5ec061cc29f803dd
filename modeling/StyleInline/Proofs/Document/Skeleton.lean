import StyleInline.Document.Navigation
import StyleInline.Proofs.Document.Subtree
import StyleInline.Proofs.ElementTree.Navigation

/-!
# The elements of a document

The steps between elements skip every other kind of node.  In a well-formed document they are
the steps of a forest, the one that the lists of element children unfold into: the next and
the previous element are neighbours in such a list, whatever stands between them.

## Main definitions

* `Document.elementChildren` — the elements among the children of a node.
* `Document.skeleton` — the elements that they lead to from the root.

## Main results

* `Document.WellFormed.nextElement_eq`, `Document.WellFormed.previousElement_eq` — the steps
  beside an element.
* `Document.WellFormed.navigates` — a well-formed document navigates its elements.
-/

namespace StyleInline.Document

open Relation Forest

variable {d : Document} {a b e n p : Handle} {before after : List Handle}
  {elements : Forest Handle}

/-- The elements among the children of a node, in order. -/
def elementChildren (d : Document) (n : Handle) : List Handle :=
  (d.children n).filter d.isElement

/-- The elements below the root that element children lead to. -/
def skeleton (d : Document) : Set Handle := {e | TransGen (Leads d.elementChildren) root e}

/-- An element of the skeleton is an element. -/
theorem isElement_of_mem_skeleton (h : e ∈ d.skeleton) : d.isElement e = true := by
  obtain ⟨p, -, hp⟩ := TransGen.tail'_iff.1 h
  exact (List.mem_filter.1 hp).2

theorem firstElementChild_eq (d : Document) (n : Handle) :
    d.firstElementChild n = (d.elementChildren n).head? := by
  rw [firstElementChild, elementChildren, List.head?_filter]

namespace WellFormed

variable (h : d.WellFormed)
include h

theorem parent_of_mem_elementChildren (hb : b ∈ d.elementChildren a) : d.Parent a b :=
  h.mem_children_iff.1 (List.mem_filter.1 hb).1

/-- Element children make up trees. -/
theorem branches : Branches d.elementChildren where
  nodup a := (h.nodup_children a).filter _
  unique ha hb := by
    have ha' := h.parent_of_mem_elementChildren ha
    exact Option.some.inj (ha'.symm.trans (h.parent_of_mem_elementChildren hb))
  acyclic a ha := by
    have hle : Leads d.elementChildren ≤ d.Parent := fun _ _ => h.parent_of_mem_elementChildren
    exact h.acyclic a (TransGen.mono hle a a ha)

/-! ## Steps beside an element -/

/-- The children around an element are cut at it. -/
theorem siblings_eq (hrow : d.elementChildren p = before ++ e :: after) :
    ∃ l r, d.siblings e = l ++ e :: r ∧ (∀ x ∈ l, (x != e) = true) ∧
      l.filter d.isElement = before ∧ r.filter d.isElement = after := by
  have he : e ∈ d.elementChildren p := by simp [hrow]
  obtain ⟨l, r, hlr⟩ := List.append_of_mem (List.mem_filter.1 he).1
  have hl : ∀ x ∈ l, (x != e) = true := by
    have hnodup := h.nodup_children p
    rw [hlr] at hnodup
    rintro x hx
    rw [bne_iff_ne]
    rintro rfl
    exact (List.nodup_middle.1 hnodup).notMem (List.mem_append_left r hx)
  have hrow' : d.elementChildren p = l.filter d.isElement ++ e :: r.filter d.isElement := by
    rw [elementChildren, hlr, List.filter_append, List.filter_cons_of_pos (List.mem_filter.1 he).2]
  obtain ⟨hbefore, hafter⟩ := row_unique (h.branches.nodup p) hrow' hrow
  refine ⟨l, r, ?_, hl, hbefore, hafter⟩
  have hparent : d.parent? e = some p := h.parent_of_mem_elementChildren he
  rw [siblings, hparent, ← hlr]

/-- The next element is the next one among the element children. -/
theorem nextElement_eq (hrow : d.elementChildren p = before ++ e :: after) :
    d.nextElement e = after.head? := by
  obtain ⟨l, r, hsiblings, hl, -, rfl⟩ := h.siblings_eq hrow
  have hdrop : (l ++ e :: r).dropWhile (· != e) = e :: r := by
    rw [List.dropWhile_append_of_pos hl]
    simp
  rw [nextElement, siblingsAfter, hsiblings, hdrop, List.tail_cons, List.head?_filter]

/-- The previous element is the previous one among the element children. -/
theorem previousElement_eq (hrow : d.elementChildren p = before ++ e :: after) :
    d.previousElement e = before.getLast? := by
  obtain ⟨l, r, hsiblings, hl, rfl, -⟩ := h.siblings_eq hrow
  have htake : (l ++ e :: r).takeWhile (· != e) = l := by
    rw [List.takeWhile_append_of_pos hl]
    simp
  rw [previousElement, siblingsBefore, hsiblings, htake, ← List.head?_filter, List.filter_reverse,
    List.head?_reverse]

/-! ## The forest of elements -/

/-- What the element children of a node unfold into is a part of the document. -/
theorem length_preorder_le (hunfolds : Unfolds d.elementChildren (d.elementChildren n) elements) :
    elements.preorder.length ≤ d.size := by
  refine length_le_size (hunfolds.nodup_preorder h.branches (List.suffix_refl _)) fun e he => ?_
  obtain ⟨p, -, hp⟩ := TransGen.tail'_iff.1 (hunfolds.mem_preorder_iff_transGen.1 he)
  exact (h.parent_of_mem_elementChildren hp).child_lt

/-- **A well-formed document navigates its elements**: the forest that the element children of a
node unfold into. -/
theorem navigates (hunfolds : Unfolds d.elementChildren (d.elementChildren n) elements) :
    Navigates d n elements where
  nodup := hunfolds.nodup_preorder_single h.branches
  firstChild_eq := by
    intro m below behind hp
    have hbelow : below.roots = d.elementChildren m := by
      rcases hp with ⟨rfl, rfl, -⟩ | hp | hp
      · exact hunfolds.roots_eq
      · exact hunfolds.below_eq hp
      · exact hp.elim
    rw [hbelow]
    exact firstElementChild_eq d m
  nextSibling_eq := by
    intro e below behind hp
    obtain ⟨p, -, before, hrow⟩ := hunfolds.exists_row hp
    exact h.nextElement_eq hrow
  previousSibling_eq_some_iff := by
    intro e he a
    have hprevious : ElementTree.previousSibling d e = d.previousElement e := rfl
    obtain ⟨below, behind, hp⟩ := mem_preorder_iff_place.1 he
    obtain ⟨p, hmem, before, hrow⟩ := hunfolds.exists_row hp
    rw [hprevious, hunfolds.adjacent_iff h.branches]
    constructor
    · intro ha
      rw [h.previousElement_eq hrow, List.getLast?_eq_some_iff] at ha
      obtain ⟨front, rfl⟩ := ha
      exact ⟨p, hmem, front, behind.roots, by rw [hrow, List.append_assoc]; rfl⟩
    · rintro ⟨q, -, front, after, hrow'⟩
      have hcut : d.elementChildren q = (front ++ [a]) ++ e :: after := by
        rw [hrow', List.append_assoc]; rfl
      rw [h.previousElement_eq hcut, List.getLast?_concat]
  reach_le_bound := (reach_le_length_preorder elements).trans (h.length_preorder_le hunfolds)

/-- The element children of a node unfold. -/
theorem exists_unfolds (n : Handle) :
    ∃ elements, Unfolds d.elementChildren (d.elementChildren n) elements := by
  obtain ⟨rank, hfall, -⟩ := h.exists_rank
  have hchild {a b : Handle} (hb : b ∈ d.elementChildren a) : rank b < rank a :=
    hfall (h.parent_of_mem_elementChildren hb)
  exact ⟨_, unfolds_unfold hchild fun r hr => hchild hr⟩

end WellFormed

end StyleInline.Document
