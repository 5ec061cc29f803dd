import StyleInline.Proofs.Document.Append
import StyleInline.Proofs.Document.Subtree
import StyleInline.Proofs.Forest.Operations

/-!
# Grafting

A forest of contents is grafted below a node when it is made of new nodes, created in document
order, that stand behind the children the node already has; nothing else is changed.  Grafts
are put together from smaller ones: a forest behind another, a new node above a forest, more
trees below that node.

## Main definitions

* `Document.Holds` — consecutive nodes hold a forest of contents.
* `Document.Grafted` — what grafting makes of a document.

## Main results

* `Document.Grafted.nil`, `Document.Grafted.append` — nothing, and one forest behind another.
* `Document.Grafted.under` — a forest that hangs below a new node, which is then appended.
* `Document.Grafted.exists_append` — appending it is never refused.
* `Document.Grafted.extend` — more trees below a node that has just been grafted.
-/

namespace StyleInline.Document

open Relation Forest

variable {d d' d₁ d₂ d₃ : Document} {a n p start : Handle} {content : Content}
  {forest other contents children : Forest (Option Content)}

/-! ## Forests in consecutive nodes -/

/-- The nodes from `start` on hold a forest in document order: they stand as its labels do, and
their contents are the labels. -/
structure Holds (d : Document) (start : Handle) (forest : Forest (Option Content)) : Prop where
  unfolds : Unfolds d.children (forest.number start).roots (forest.number start)
  map_content? : (forest.number start).map d.content? = forest

namespace Holds

theorem nil : Holds d start .nil where
  unfolds := unfolds_nil_iff.2 rfl
  map_content? := rfl

/-- A forest is held as long as its own nodes stay as they are. -/
theorem congr (h : Holds d start forest)
    (hnodes : ∀ n, start ≤ n → n < start + forest.size →
      d'.content? n = d.content? n ∧ d'.children n = d.children n) : Holds d' start forest where
  unfolds := h.unfolds.congr fun n hn =>
    have hrange := mem_preorder_number_iff.1 hn
    (hnodes n hrange.1 hrange.2).2
  map_content? := by
    refine (map_congr fun n hn => ?_).trans h.map_content?
    have hrange := mem_preorder_number_iff.1 hn
    exact (hnodes n hrange.1 hrange.2).1

/-- Two forests are held one behind the other. -/
theorem append (h : Holds d start forest) (h' : Holds d (start + forest.size) other) :
    Holds d start (forest.append other) where
  unfolds := by
    rw [number_append, roots_append]
    exact h.unfolds.append h'.unfolds
  map_content? := by
    rw [number_append, map_append, h.map_content?, h'.map_content?]

end Holds

/-- A tree is held where its root is and, behind that, what is below the root. -/
theorem holds_single_iff : Holds d start (single (some content) contents) ↔
    d.content? start = some content ∧ d.children start = (contents.number (start + 1)).roots ∧
      Holds d (start + 1) contents := by
  have hnumber : (single (some content) contents).number start =
      cons start (contents.number (start + 1)) .nil := rfl
  constructor
  · rintro ⟨hunfolds, hmap⟩
    rw [hnumber] at hunfolds hmap
    obtain ⟨hself, hcontents, -⟩ := Forest.cons.inj hmap
    have hroots : d.children start = (contents.number (start + 1)).roots :=
      hunfolds.children.roots_eq.symm
    have hchildren := hunfolds.children
    rw [hroots] at hchildren
    exact ⟨hself, hroots, hchildren, hcontents⟩
  · rintro ⟨hself, hroots, hchildren, hcontents⟩
    constructor
    · rw [hnumber, unfolds_cons_iff, hroots]
      exact ⟨rfl, hchildren, unfolds_nil_iff.2 rfl⟩
    · rw [hnumber, map, hself, hcontents]
      rfl

/-! ## Grafts -/

/-- What grafting a forest below `p` makes of a document: new nodes hold the forest, and the old
ones stay as they are, except that `p` has the roots as further children. -/
structure Grafted (d : Document) (p : Handle) (forest : Forest (Option Content)) (d' : Document) :
    Prop where
  wellFormed : d'.WellFormed
  size_eq : d'.size = d.size + forest.size
  content?_eq : ∀ n < d.size, d'.content? n = d.content? n
  parent?_eq : ∀ n < d.size, d'.parent? n = d.parent? n
  children_eq : ∀ n < d.size, d'.children n =
    if n = p then d.children n ++ (forest.number d.size).roots else d.children n
  holds : Holds d' d.size forest

/-- Above an old node stand old nodes only, if old nodes keep their parents. -/
theorem WellFormed.ancestor_lt_of_parent?_eq (h : d.WellFormed)
    (hparent : ∀ n < d.size, d'.parent? n = d.parent? n) (hn : n < d.size)
    (ha : d'.Ancestor a n) : a < d.size := by
  have hold {x y : Handle} (hy : y < d.size) (hxy : d'.Parent x y) : x < d.size := by
    rw [Parent, hparent y hy] at hxy
    exact h.parent_lt hxy
  induction ha with
  | single hxy => exact hold hn hxy
  | tail _ hxy ih => exact ih (hold hn hxy)

namespace Grafted

/-- A graft of nothing changes nothing. -/
theorem nil (h : d.WellFormed) : Grafted d p .nil d where
  wellFormed := h
  size_eq := rfl
  content?_eq _ _ := rfl
  parent?_eq _ _ := rfl
  children_eq n _ := by
    split
    · exact (List.append_nil _).symm
    · rfl
  holds := .nil

theorem lt_of_lt (h : Grafted d p forest d₁) (hn : n < d.size) : n < d₁.size := by
  rw [h.size_eq]
  exact Nat.lt_add_right _ hn

/-- A second graft below the same node comes behind the first. -/
theorem append (h : Grafted d p forest d₁) (h' : Grafted d₁ p other d₂) (hp : p < d.size) :
    Grafted d p (forest.append other) d₂ where
  wellFormed := h'.wellFormed
  size_eq := by rw [h'.size_eq, h.size_eq, size_append, Nat.add_assoc]
  content?_eq n hn := by rw [h'.content?_eq n (h.lt_of_lt hn), h.content?_eq n hn]
  parent?_eq n hn := by rw [h'.parent?_eq n (h.lt_of_lt hn), h.parent?_eq n hn]
  children_eq n hn := by
    rw [h'.children_eq n (h.lt_of_lt hn), h.children_eq n hn, number_append, roots_append,
      h.size_eq]
    split
    · exact List.append_assoc ..
    · rfl
  holds := by
    have hother := h'.holds
    rw [h.size_eq] at hother
    refine Holds.append (h.holds.congr fun n hge hlt => ?_) hother
    rw [← h.size_eq] at hlt
    have hne : n ≠ p := Nat.ne_of_gt (hp.trans_le hge)
    exact ⟨h'.content?_eq n hlt, by rw [h'.children_eq n hlt, if_neg hne]⟩

/-- A node that has been created, and got a graft of its own, is grafted by appending it. -/
theorem under (hp : p < d.size) (hcreated : Created d content d₁)
    (hcontents : Grafted d₁ d.size contents d₂) (hmoved : Moved d₂ p d.size d₃)
    (hd₃ : d₃.WellFormed) : Grafted d p (single (some content) contents) d₃ := by
  have hsize := hcreated.lt_size
  have hne {n : Handle} (hn : d.size ≤ n) : n ≠ p := Nat.ne_of_gt (hp.trans_le hn)
  have hparent : d₂.parent? d.size = none := by
    rw [hcontents.parent?_eq _ hsize, hcreated.parent?_eq, parent?_eq_none_of_le (Nat.le_refl _)]
  -- The new node had no parent, so appending takes it away from nowhere.
  have hfilter (m : Handle) : (d₂.children m).filter (· != d.size) = d₂.children m :=
    hcontents.wellFormed.filter_children_of_not_parent (by simp [Parent, hparent])
  have hself : d₃.content? d.size = some content := by
    rw [hmoved.content?_eq, hcontents.content?_eq _ hsize, hcreated.content?_eq, if_pos rfl]
  have hbelow : d₃.children d.size = (contents.number (d.size + 1)).roots := by
    rw [hmoved.children_eq, if_neg (hne (Nat.le_refl _)), hfilter, hcontents.children_eq _ hsize,
      if_pos rfl, hcreated.children_eq, children_eq_nil_of_le (Nat.le_refl _), List.nil_append,
      hcreated.size_eq]
  have hrest : Holds d₃ (d.size + 1) contents := by
    have hcontents' := hcontents.holds
    rw [hcreated.size_eq] at hcontents'
    refine hcontents'.congr fun n hge _ => ⟨hmoved.content?_eq n, ?_⟩
    rw [hmoved.children_eq, if_neg (hne (Nat.le_of_succ_le hge)), hfilter]
  exact {
    wellFormed := hd₃
    size_eq := by
      rw [hmoved.size_eq, hcontents.size_eq, hcreated.size_eq, size_single]
      omega
    content?_eq := fun n hn => by
      rw [hmoved.content?_eq, hcontents.content?_eq n (hn.trans hsize), hcreated.content?_eq,
        if_neg (Nat.ne_of_lt hn)]
    parent?_eq := fun n hn => by
      rw [hmoved.parent?_eq, if_neg (Nat.ne_of_lt hn), hcontents.parent?_eq n (hn.trans hsize),
        hcreated.parent?_eq]
    children_eq := fun n hn => by
      rw [hmoved.children_eq, hfilter, hcontents.children_eq n (hn.trans hsize),
        if_neg (Nat.ne_of_lt hn), hcreated.children_eq]
      rfl
    holds := holds_single_iff.2 ⟨hself, hbelow, hrest⟩ }

/-- A node that has been created is never refused a place: nothing that was there before is
below it. -/
theorem exists_append (h : d.WellFormed) (hp : p < d.size) (hcreated : Created d content d₁)
    (hcontents : Grafted d₁ d.size contents d₂) :
    ∃ d₃, d₂.append p d.size = ⟨.ok (), d₃⟩ ∧ Grafted d p (single (some content) contents) d₃ := by
  have hsize := hcreated.lt_size
  have hparent : ∀ n < d.size, d₂.parent? n = d.parent? n := fun n hn => by
    rw [hcontents.parent?_eq n (hn.trans hsize), hcreated.parent?_eq]
  have hne : d.size ≠ p := Nat.ne_of_gt hp
  have hanc : ¬ d₂.Ancestor d.size p := fun ha =>
    Nat.lt_irrefl _ (h.ancestor_lt_of_parent?_eq hparent hp ha)
  have hd₂ := hcontents.wellFormed
  have hmoved := hd₂.moved (hcontents.lt_of_lt (hp.trans hsize)) (hcontents.lt_of_lt hsize)
  have hd₃ := hmoved.wellFormed hd₂ hne hanc
  exact ⟨_, hd₂.append_of_not_ancestor hne hanc, under hp hcreated hcontents hmoved hd₃⟩

/-- A graft below the node grafted last comes behind what is already below that node. -/
theorem extend (h : Grafted d p (single (some content) contents) d₁)
    (hchildren : Grafted d₁ d.size children d₂) :
    Grafted d p (single (some content) (contents.append children)) d₂ := by
  obtain ⟨hself, hbelow, hcontents⟩ := holds_single_iff.1 h.holds
  have hsize : d₁.size = d.size + 1 + contents.size := by
    rw [h.size_eq, size_single]
    omega
  have hlt : d.size < d₁.size := by omega
  have hself' : d₂.content? d.size = some content := by rw [hchildren.content?_eq _ hlt, hself]
  have hbelow' : d₂.children d.size = ((contents.append children).number (d.size + 1)).roots := by
    rw [hchildren.children_eq _ hlt, if_pos rfl, hbelow, number_append, roots_append, hsize]
  have hrest : Holds d₂ (d.size + 1) (contents.append children) := by
    have hchildren' := hchildren.holds
    rw [hsize] at hchildren'
    refine Holds.append (hcontents.congr fun n hge hn => ?_) hchildren'
    rw [← hsize] at hn
    exact ⟨hchildren.content?_eq n hn,
      by rw [hchildren.children_eq n hn, if_neg (Nat.ne_of_gt hge)]⟩
  exact {
    wellFormed := hchildren.wellFormed
    size_eq := by
      rw [hchildren.size_eq, hsize, size_single, size_append]
      omega
    content?_eq := fun n hn => by rw [hchildren.content?_eq n (hn.trans hlt), h.content?_eq n hn]
    parent?_eq := fun n hn => by rw [hchildren.parent?_eq n (hn.trans hlt), h.parent?_eq n hn]
    children_eq := fun n hn => by
      rw [hchildren.children_eq n (hn.trans hlt), if_neg (Nat.ne_of_lt hn), h.children_eq n hn]
      rfl
    holds := holds_single_iff.2 ⟨hself', hbelow', hrest⟩ }

end Grafted

end StyleInline.Document
