import StyleInline.Proofs.Document.WellFormed

/-!
# Appending

Appending takes a node away from where it is and puts it down behind the last child of its new
parent.  In a well-formed document it is refused only where the node would come to stand below
itself, and what it makes of the document is again well-formed.

## Main definitions

* `Document.Moved` — what appending makes of a document.

## Main results

* `Document.WellFormed.moved` — appending moves a node.
* `Document.WellFormed.append_of_not_ancestor`, `Document.WellFormed.append_eq_error_iff` — when it
  succeeds, and when it is refused.
* `Document.Moved.wellFormed` — a move leaves a document well-formed.
-/

namespace StyleInline.Document

open Relation

variable {d d' : Document} {a c m n p : Handle}

/-- What appending makes of a document: `c` is now the last child of `p`, and it has left its
former place. -/
structure Moved (d : Document) (p c : Handle) (d' : Document) : Prop where
  size_eq : d'.size = d.size
  content?_eq : ∀ n, d'.content? n = d.content? n
  parent?_eq : ∀ n, d'.parent? n = if n = c then some p else d.parent? n
  children_eq : ∀ n, d'.children n =
    if n = p then (d.children n).filter (· != c) ++ [c] else (d.children n).filter (· != c)

section Modify

variable {f : Node → Node}

theorem getElem?_modify : (d.modify n f).nodes[m]? =
    if n = m then d.nodes[m]?.map f else d.nodes[m]? :=
  Array.getElem?_modify ..

/-- Where a change to a node keeps its content, all contents are kept. -/
theorem content?_modify (hf : ∀ node, (f node).toContent = node.toContent) :
    (d.modify n f).content? m = d.content? m := by
  rw [content?, content?, getElem?_modify]
  split_ifs
  · cases d.nodes[m]? with
    | none => rfl
    | some node => exact congrArg some (hf node)
  · rfl

/-- Where a change to a node keeps its parent, all parents are kept. -/
theorem parent?_modify (hf : ∀ node, (f node).parent = node.parent) :
    (d.modify n f).parent? m = d.parent? m := by
  rw [parent?, parent?, getElem?_modify]
  split_ifs
  · cases d.nodes[m]? with
    | none => rfl
    | some node => exact hf node
  · rfl

/-- Where a change to a node keeps its children, all children are kept. -/
theorem children_modify (hf : ∀ node, (f node).children = node.children) :
    (d.modify n f).children m = d.children m := by
  rw [children, children, getElem?_modify]
  split_ifs
  · cases d.nodes[m]? with
    | none => rfl
    | some node => exact hf node
  · rfl

end Modify

/-! ## Taking a node away -/

theorem content?_detach (d : Document) (n m : Handle) :
    (d.detach n).content? m = d.content? m := by
  rw [detach]
  split
  · rfl
  · rw [content?_modify, content?_modify]
    all_goals exact fun _ => rfl

/-- A node that is taken away has no parent; the others keep theirs. -/
theorem parent?_detach (d : Document) (n m : Handle) :
    (d.detach n).parent? m = if m = n then none else d.parent? m := by
  rw [detach]
  cases hp : d.parent? n with
  | none =>
    split_ifs with hmn
    · rw [hmn, hp]
    · rfl
  | some p =>
    rw [parent?, getElem?_modify]
    by_cases hmn : m = n
    · rw [if_pos hmn.symm, if_pos hmn, Option.bind_map]
      cases (d.modify p _).nodes[m]? <;> rfl
    · rw [if_neg (Ne.symm hmn), if_neg hmn, ← parent?, parent?_modify]
      exact fun _ => rfl

/-- A node is found among the children of its parent only. -/
theorem WellFormed.filter_children_of_not_parent (h : d.WellFormed) (hm : ¬ d.Parent m n) :
    (d.children m).filter (· != n) = d.children m := by
  refine List.filter_eq_self.2 fun c hc => ?_
  rw [bne_iff_ne]
  rintro rfl
  exact hm (h.mem_children_iff.1 hc)

/-- A node that is taken away leaves the children of its parent, and stands nowhere else. -/
theorem WellFormed.children_detach (h : d.WellFormed) (n m : Handle) :
    (d.detach n).children m = (d.children m).filter (· != n) := by
  rw [detach]
  cases hp : d.parent? n with
  | none => exact (h.filter_children_of_not_parent (by simp [Parent, hp])).symm
  | some p =>
    rw [children_modify, children, getElem?_modify]
    · by_cases hpm : p = m
      · subst hpm
        rw [if_pos rfl, children]
        cases d.nodes[p]? <;> rfl
      · rw [if_neg hpm, ← children, h.filter_children_of_not_parent]
        simpa [Parent, hp] using hpm
    · exact fun _ => rfl

/-! ## Putting it down -/

theorem content?_attach (d : Document) (p c m : Handle) :
    (d.attach p c).content? m = d.content? m := by
  rw [attach, content?_modify, content?_modify]
  all_goals exact fun _ => rfl

theorem parent?_attach (hc : c < d.size) (p m : Handle) :
    (d.attach p c).parent? m = if m = c then some p else d.parent? m := by
  rw [attach, parent?, getElem?_modify]
  by_cases hmc : m = c
  · subst hmc
    obtain ⟨node, hnode⟩ : ∃ node, (d.modify p fun node =>
        { node with children := node.children ++ [m] }).nodes[m]? = some node :=
      ⟨_, Array.getElem?_eq_getElem (by rw [← size, size_modify]; exact hc)⟩
    rw [if_pos rfl, if_pos rfl, hnode]
    rfl
  · rw [if_neg (Ne.symm hmc), if_neg hmc, ← parent?, parent?_modify]
    exact fun _ => rfl

theorem children_attach (hp : p < d.size) (c m : Handle) :
    (d.attach p c).children m = if m = p then d.children m ++ [c] else d.children m := by
  rw [attach, children_modify, children, getElem?_modify]
  · by_cases hmp : m = p
    · subst hmp
      rw [if_pos rfl, if_pos rfl, children, Array.getElem?_eq_getElem hp]
      rfl
    · rw [if_neg (Ne.symm hmp), if_neg hmp, children]
  · exact fun _ => rfl

/-! ## The move -/

namespace WellFormed

/-- Taking a node away and putting it down moves it. -/
theorem moved (h : d.WellFormed) (hp : p < d.size) (hc : c < d.size) :
    Moved d p c ((d.detach c).attach p c) := by
  have hp' : p < (d.detach c).size := by rwa [size_detach]
  have hc' : c < (d.detach c).size := by rwa [size_detach]
  constructor
  · rw [size_attach, size_detach]
  · intro n
    rw [content?_attach, content?_detach]
  · intro n
    rw [parent?_attach hc', parent?_detach]
    split_ifs <;> rfl
  · intro n
    rw [children_attach hp', h.children_detach]

/-- Appending succeeds when the child is neither the parent nor above it. -/
theorem append_of_not_ancestor (h : d.WellFormed) (hcp : c ≠ p) (hanc : ¬ d.Ancestor c p) :
    d.append p c = ⟨.ok (), (d.detach c).attach p c⟩ := by
  rw [← h.mem_ancestors_iff] at hanc
  rw [append, if_neg hcp, if_neg hanc]

/-- Appending fails when the child is the parent or above it. -/
theorem append_eq_error_iff (h : d.WellFormed) {e : DocumentError} :
    (d.append p c).answer = .error e ↔
      (c = p ∧ e = .appendToItself) ∨ (c ≠ p ∧ d.Ancestor c p ∧ e = .appendToDescendant) := by
  rw [append, ← h.mem_ancestors_iff]
  by_cases hcp : c = p
  · simp [hcp, eq_comm]
  · by_cases hanc : c ∈ d.ancestors p <;> simp [hcp, hanc, eq_comm]

end WellFormed

/-- Where appending fails it leaves the document as it was. -/
theorem document_append_of_error {e : DocumentError} (h : (d.append p c).answer = .error e) :
    (d.append p c).document = d := by
  rw [append] at h ⊢
  split_ifs at h ⊢
  · rfl
  · rfl

namespace Moved

variable (hd : Moved d p c d')
include hd

/-- A chain of parents after a move runs as before, or over the new place of the child. -/
theorem ancestor_cases (h : d'.Ancestor a n) :
    d.Ancestor a n ∨ ReflTransGen d.Parent a p ∧ ReflTransGen d.Parent c n := by
  have hstep {x y : Handle} (hxy : d'.Parent x y) : d.Parent x y ∨ x = p ∧ y = c := by
    rw [Parent, hd.parent?_eq] at hxy
    split_ifs at hxy with hyc
    · exact .inr ⟨(Option.some.inj hxy).symm, hyc⟩
    · exact .inl hxy
  -- On the chain: behind the new step there is only what was below the child before.
  induction h with
  | single hxy =>
    rcases hstep hxy with hxy | ⟨rfl, rfl⟩
    · exact .inl (.single hxy)
    · exact .inr ⟨.refl, .refl⟩
  | tail _ hxy ih =>
    rcases hstep hxy with hxy | ⟨rfl, rfl⟩
    · exact ih.imp (·.tail hxy) (And.imp_right (·.tail hxy))
    · exact .inr ⟨ih.elim TransGen.to_reflTransGen And.left, .refl⟩

/-- A move leaves a document well-formed, unless the child is the new parent or above it. -/
theorem wellFormed (h : d.WellFormed) (hne : c ≠ p) (hanc : ¬ d.Ancestor c p) :
    d'.WellFormed where
  content?_root := by rw [hd.content?_eq, h.content?_root]
  mem_children_iff := by
    intro q n
    rw [hd.children_eq, Parent, hd.parent?_eq]
    by_cases hnc : n = c
    · by_cases hqp : q = p <;> simp [hnc, hqp, Ne.symm]
    · have hold : n ∈ (d.children q).filter (· != c) ↔ d.parent? n = some q := by
        simp [hnc, h.mem_children_iff, Parent]
      split_ifs
      · simp [hold, hnc]
      · exact hold
  nodup_children n := by
    have hfilter : ((d.children n).filter (· != c)).Nodup := (h.nodup_children n).filter _
    rw [hd.children_eq]
    split_ifs
    · rw [List.nodup_append]
      exact ⟨hfilter, List.pairwise_singleton _ c, by simp⟩
    · exact hfilter
  acyclic n hn := by
    rcases hd.ancestor_cases hn with hn | ⟨hnp, hcn⟩
    · exact h.acyclic n hn
    · rcases reflTransGen_iff_eq_or_transGen.1 (hcn.trans hnp) with heq | hcp
      · exact hne heq.symm
      · exact hanc hcp
  isSound hcontent := h.isSound ((hd.content?_eq _).symm.trans hcontent)

end Moved

end StyleInline.Document
