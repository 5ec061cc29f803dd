import Mathlib.Data.Finset.Card
import StyleInline.Proofs.Document.WellFormed
import StyleInline.Proofs.Forest.Unfold

/-!
# The nodes below a node

Walking down a document is given as many levels as there are nodes.  In a well-formed document
that is enough: every step down loses a descendant, so the walk comes to an end by itself, and
what it finds is the forest that the lists of children unfold into.

## Main results

* `Document.WellFormed.exists_rank` — a rank falls on the way down.
* `Document.WellFormed.unfolds_subtree` — the subtree of a node unfolds its children.
-/

namespace StyleInline.Document

open Relation Forest

variable {d : Document} {m n : Handle}

/-- Walking down a document is unfolding the lists of children. -/
theorem forestFrom_eq_unfold (d : Document) (depth : Nat) (handles : List Handle) :
    d.forestFrom depth handles = unfold d.children depth handles := by
  induction depth generalizing handles with
  | zero => rfl
  | succ depth ih => rw [forestFrom, unfold]; simp only [ih]

namespace WellFormed

variable (h : d.WellFormed)
include h

/-- The nodes below a node become fewer on the way down. -/
theorem exists_rank : ∃ rank : Handle → Nat,
    (∀ {a b}, d.Parent a b → rank b < rank a) ∧ ∀ n, rank n ≤ d.size := by
  classical
  let descendants (a : Handle) : Finset Handle := (Finset.range d.size).filter (d.Ancestor a)
  refine ⟨fun a => (descendants a).card, fun {a b} hab => ?_, fun n => ?_⟩
  · refine Finset.card_lt_card (Finset.ssubset_iff_subset_ne.2 ⟨fun c hc => ?_, fun heq => ?_⟩)
    · obtain ⟨hlt, hc⟩ := Finset.mem_filter.1 hc
      exact Finset.mem_filter.2 ⟨hlt, .head hab hc⟩
    · have hmem : b ∈ descendants a :=
        Finset.mem_filter.2 ⟨Finset.mem_range.2 hab.child_lt, .single hab⟩
      rw [← heq] at hmem
      exact h.acyclic b (Finset.mem_filter.1 hmem).2
  · have hcard := Finset.card_filter_le (Finset.range d.size) (d.Ancestor n)
    rwa [Finset.card_range] at hcard

/-- The subtree of a node unfolds its children: the walk is never cut off. -/
theorem unfolds_subtree (n : Handle) : Unfolds d.children (d.children n) (d.subtree n) := by
  obtain ⟨rank, hfall, hbound⟩ := h.exists_rank
  have hchild {a b : Handle} (hb : b ∈ d.children a) : rank b < rank a :=
    hfall (h.mem_children_iff.1 hb)
  rw [subtree, forestFrom_eq_unfold]
  exact unfolds_unfold hchild fun r hr => (hchild hr).trans_le (hbound n)

/-- The nodes of a subtree are the descendants. -/
theorem mem_preorder_subtree_iff : m ∈ (d.subtree n).preorder ↔ d.Ancestor n m := by
  have hleads : Leads d.children = d.Parent := by
    funext p c
    exact propext h.mem_children_iff
  rw [(h.unfolds_subtree n).mem_preorder_iff_transGen, hleads, Ancestor]

end WellFormed

end StyleInline.Document
