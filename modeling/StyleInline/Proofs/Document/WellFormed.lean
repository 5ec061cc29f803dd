import Mathlib.Data.List.Nodup
import Mathlib.Data.List.Perm.Subperm
import Mathlib.Logic.Relation
import StyleInline.Proofs.Document.Attribute

/-!
# Well-formed documents

A document keeps parents and children apart, and both must tell the same story: a node stands
once among the children of its parent and nowhere else, and no chain of parents returns to its
start.  Then a document is a forest, and the ancestors that appending looks at are all there are.

Each change to a document is described by what it makes of contents, parents and children; that
a document stays well-formed is read off this.

## Main definitions

* `Document.Parent`, `Document.Ancestor` — how two nodes stand.
* `Document.WellFormed` — parents and children agree, and no node is above itself.
* `Document.Created` — what creating a node makes of a document.

## Main results

* `Document.WellFormed.mem_ancestors_iff` — the ancestors that appending looks at.
-/

namespace StyleInline

open Relation

/-- What a node may be: it has each attribute once, and only elements have any. -/
structure Content.IsSound (content : Content) : Prop where
  distinct : content.attributes.Distinct
  attributes_eq_empty : content.isElement = false → content.attributes = .empty

/-- A new node has no attributes. -/
theorem Content.isSound_ofKind (kind : NodeKind) : (ofKind kind).IsSound :=
  ⟨OrderedMap.distinct_empty, fun _ => rfl⟩

/-- An attribute is written to elements only, and in its place if it is there. -/
theorem Content.IsSound.setAttribute {content : Content} (h : content.IsSound)
    (name value : Text) : (content.setAttribute name value).IsSound := by
  rw [Content.setAttribute]
  split
  · next helement =>
    exact ⟨OrderedMap.distinct_insert h.distinct name value, fun hnot =>
      absurd (helement.symm.trans hnot) Bool.noConfusion⟩
  · exact h

namespace Document

variable {d d' : Document} {a c m n p : Handle} {content : Content} {name value : Text}

/-- The attributes of a node. -/
def attributes (d : Document) (n : Handle) : OrderedMap Text Text :=
  match d.content? n with
  | some content => content.attributes
  | none => .empty

/-- `p` is the parent of `c`. -/
def Parent (d : Document) (p c : Handle) : Prop := d.parent? c = some p

/-- `a` is the parent of `n`, or the parent of its parent, and so on. -/
def Ancestor (d : Document) : (a n : Handle) → Prop := TransGen d.Parent

/-- Parents and children agree, no node is above itself, no attribute is written twice, and only
elements have attributes. -/
structure WellFormed (d : Document) : Prop where
  content?_root : d.content? root = some (.ofKind .document)
  mem_children_iff : ∀ {p c}, c ∈ d.children p ↔ d.Parent p c
  nodup_children : ∀ p, (d.children p).Nodup
  acyclic : ∀ n, ¬ d.Ancestor n n
  isSound : ∀ {n content}, d.content? n = some content → content.IsSound

/-! ## Nodes that exist -/

theorem lt_size_of_content? (h : d.content? n = some content) : n < d.size := by
  rw [content?, Option.map_eq_some_iff] at h
  obtain ⟨node, hnode, -⟩ := h
  exact (Array.getElem?_eq_some_iff.1 hnode).1

theorem getElem?_eq_none_of_le (h : d.size ≤ n) : d.nodes[n]? = none :=
  Array.getElem?_eq_none h

theorem parent?_eq_none_of_le (h : d.size ≤ n) : d.parent? n = none := by
  rw [parent?, getElem?_eq_none_of_le h]
  rfl

theorem children_eq_nil_of_le (h : d.size ≤ n) : d.children n = [] := by
  rw [children, getElem?_eq_none_of_le h]

/-- A node with a parent exists. -/
theorem Parent.child_lt (h : d.Parent p c) : c < d.size := by
  by_contra hc
  rw [Parent, parent?_eq_none_of_le (Nat.le_of_not_lt hc)] at h
  cases h

/-- A node with children exists. -/
theorem lt_size_of_mem_children (h : c ∈ d.children p) : p < d.size := by
  by_contra hp
  rw [children_eq_nil_of_le (Nat.le_of_not_lt hp)] at h
  cases h

/-- Nodes that exist and are distinct are no more than have been created. -/
theorem length_le_size {handles : List Handle}
    (hnodup : handles.Nodup) (h : ∀ n ∈ handles, n < d.size) : handles.length ≤ d.size := by
  have hsub : handles ⊆ List.range d.size := fun n hn => List.mem_range.2 (h n hn)
  simpa using (List.subperm_of_subset hnodup hsub).length_le

namespace WellFormed

/-- A parent exists. -/
theorem parent_lt (h : d.WellFormed) (hp : d.Parent p c) : p < d.size :=
  lt_size_of_mem_children (h.mem_children_iff.2 hp)

/-- An ancestor exists. -/
theorem ancestor_lt (h : d.WellFormed) (ha : d.Ancestor a n) : a < d.size := by
  obtain ⟨b, hab, -⟩ := TransGen.head'_iff.1 ha
  exact h.parent_lt hab

theorem root_lt (h : d.WellFormed) : root < d.size := lt_size_of_content? h.content?_root

/-- A node stands once among the children of its parent, and nowhere else. -/
theorem count_children (h : d.WellFormed) (p c : Handle) :
    (d.children p).count c = if d.parent? c = some p then 1 else 0 := by
  split_ifs with hp
  · exact List.count_eq_one_of_mem (h.nodup_children p) (h.mem_children_iff.2 hp)
  · exact List.count_eq_zero.2 fun hc => hp (h.mem_children_iff.1 hc)

end WellFormed

/-! ## Ancestors -/

/-- The ancestors of a node are its parent and the ancestors of that. -/
theorem ancestor_iff : d.Ancestor a n ↔ ∃ p, d.Parent p n ∧ (a = p ∨ d.Ancestor a p) := by
  rw [Ancestor, TransGen.tail'_iff]
  refine exists_congr fun p => ?_
  rw [and_comm, reflTransGen_iff_eq_or_transGen, eq_comm]

/-- What following parents finds is an ancestor. -/
theorem ancestor_of_mem_ancestorsFrom {fuel : Nat} (h : a ∈ d.ancestorsFrom fuel n) :
    d.Ancestor a n := by
  induction fuel generalizing n with
  | zero => cases h
  | succ fuel ih =>
    rw [ancestorsFrom] at h
    cases hp : d.parent? n with
    | none => simp [hp] at h
    | some p =>
      rw [hp, List.mem_cons] at h
      exact ancestor_iff.2 ⟨p, hp, h.imp_right ih⟩

/-- Following parents finds every ancestor, if it comes to an end. -/
theorem mem_ancestorsFrom {fuel : Nat} (hlength : (d.ancestorsFrom fuel n).length < fuel)
    (h : d.Ancestor a n) : a ∈ d.ancestorsFrom fuel n := by
  induction fuel generalizing n with
  | zero => cases hlength
  | succ fuel ih =>
    obtain ⟨p, hp, ha⟩ := ancestor_iff.1 h
    rw [ancestorsFrom, hp] at hlength ⊢
    rcases ha with rfl | ha
    · exact List.mem_cons_self
    · exact List.mem_cons_of_mem p (ih (Nat.lt_of_succ_lt_succ hlength) ha)

namespace WellFormed

/-- No node is met twice when parents are followed. -/
theorem nodup_ancestorsFrom (h : d.WellFormed) (fuel : Nat) (n : Handle) :
    (n :: d.ancestorsFrom fuel n).Nodup := by
  induction fuel generalizing n with
  | zero => exact List.pairwise_singleton _ n
  | succ fuel ih =>
    refine List.nodup_cons.2 ⟨fun hmem => h.acyclic n (ancestor_of_mem_ancestorsFrom hmem), ?_⟩
    rw [ancestorsFrom]
    cases d.parent? n with
    | none => exact List.nodup_nil
    | some p => exact ih p

/-- The ancestors that appending looks at are all ancestors. -/
theorem mem_ancestors_iff (h : d.WellFormed) : a ∈ d.ancestors n ↔ d.Ancestor a n := by
  refine ⟨ancestor_of_mem_ancestorsFrom, fun ha => mem_ancestorsFrom ?_ ha⟩
  obtain ⟨p, hp, -⟩ := ancestor_iff.1 ha
  have hlength : (n :: d.ancestorsFrom d.size n).length ≤ d.size := by
    refine length_le_size (h.nodup_ancestorsFrom d.size n) fun m hm => ?_
    rcases List.mem_cons.1 hm with rfl | hm
    · exact hp.child_lt
    · exact h.ancestor_lt (ancestor_of_mem_ancestorsFrom hm)
  exact hlength

end WellFormed

/-! ## Creating -/

/-- What creating a node makes of a document: one more node, without parent and children. -/
structure Created (d : Document) (content : Content) (d' : Document) : Prop where
  size_eq : d'.size = d.size + 1
  content?_eq : ∀ n, d'.content? n = if n = d.size then some content else d.content? n
  parent?_eq : ∀ n, d'.parent? n = d.parent? n
  children_eq : ∀ n, d'.children n = d.children n

theorem created_create (d : Document) (kind : NodeKind) :
    Created d (.ofKind kind) (d.create kind).2 := by
  have hnodes (n : Handle) : (d.create kind).2.nodes[n]? =
      if n = d.size then some ⟨.ofKind kind, none, []⟩ else d.nodes[n]? :=
    Array.getElem?_push
  have hnone : d.nodes[d.size]? = none := getElem?_eq_none_of_le (Nat.le_refl _)
  constructor
  · exact size_create d kind
  · intro n
    rw [content?, hnodes, apply_ite (Option.map _)]
    rfl
  · intro n
    rw [parent?, parent?, hnodes]
    split_ifs with h
    · rw [h, hnone]; rfl
    · rfl
  · intro n
    rw [children, children, hnodes]
    split_ifs with h
    · rw [h, hnone]
    · rfl

/-- The node that has been created exists. -/
theorem Created.lt_size (h : Created d content d') : d.size < d'.size := by
  rw [h.size_eq]
  exact Nat.lt_succ_self _

/-- Documents with the same parents and children have the same ancestors. -/
theorem ancestor_congr (h : ∀ n, d'.parent? n = d.parent? n) :
    d'.Ancestor a n ↔ d.Ancestor a n := by
  have hparent : d'.Parent = d.Parent := by
    funext p c
    rw [Parent, Parent, h]
  rw [Ancestor, Ancestor, hparent]

namespace WellFormed

/-- No attribute of a node is written twice. -/
theorem distinct_attributes (h : d.WellFormed) (n : Handle) : (d.attributes n).Distinct := by
  rw [attributes]
  cases hcontent : d.content? n with
  | none => exact OrderedMap.distinct_empty
  | some content => exact (h.isSound hcontent).distinct

/-- A node that is no element has no attributes. -/
theorem attributes_eq_empty (h : d.WellFormed) (hn : d.isElement n = false) :
    d.attributes n = .empty := by
  rw [isElement] at hn
  rw [attributes]
  cases hcontent : d.content? n with
  | none => rfl
  | some content =>
    rw [hcontent] at hn
    exact (h.isSound hcontent).attributes_eq_empty hn

/-- What changes neither parents nor children leaves a document well-formed, if it looks after
the root and the attributes. -/
theorem of_parent?_eq (h : d.WellFormed) (hparent : ∀ n, d'.parent? n = d.parent? n)
    (hchildren : ∀ n, d'.children n = d.children n)
    (hroot : d'.content? root = some (.ofKind .document))
    (hsound : ∀ {n content}, d'.content? n = some content → content.IsSound) : d'.WellFormed where
  content?_root := hroot
  mem_children_iff := by
    intro p c
    rw [hchildren, h.mem_children_iff, Parent, Parent, hparent]
  nodup_children p := by
    rw [hchildren]
    exact h.nodup_children p
  acyclic n := by
    rw [ancestor_congr hparent]
    exact h.acyclic n
  isSound := hsound

/-- Creating a node leaves a document well-formed. -/
theorem created (h : d.WellFormed) (hd : Created d content d') (hcontent : content.IsSound) :
    d'.WellFormed := by
  refine h.of_parent?_eq hd.parent?_eq hd.children_eq ?_ fun {n found} hfound => ?_
  · rw [hd.content?_eq, if_neg (Nat.ne_of_lt h.root_lt), h.content?_root]
  · rw [hd.content?_eq] at hfound
    split_ifs at hfound
    · exact Option.some.inj hfound ▸ hcontent
    · exact h.isSound hfound

end WellFormed

/-! ## Writing attributes -/

/-- The attributes after one has been written to an element. -/
theorem attributes_writeAttribute (h : d.isElement n = true) :
    (d.writeAttribute n name value).attributes m =
      if n = m then (d.attributes m).insert name value else d.attributes m := by
  rw [attributes, attributes, content?_writeAttribute]
  split_ifs with hnm
  · subst hnm
    rw [isElement] at h
    cases hcontent : d.content? n with
    | none => simp [hcontent] at h
    | some content =>
      rw [hcontent] at h
      exact Content.attributes_setAttribute h
  · rfl

/-- An attribute is looked up among the attributes. -/
theorem attribute?_eq (d : Document) (n : Handle) (name : Text) :
    d.attribute? n name = (d.attributes n).get? name := by
  rw [attribute?, attributes]
  cases d.content? n <;> rfl

/-- A node that has just been created gets attributes if it is an element. -/
theorem Created.writeAttribute (h : Created d content d') (name value : Text) :
    Created d (content.setAttribute name value) (d'.writeAttribute d.size name value) where
  size_eq := by rw [size_writeAttribute, h.size_eq]
  content?_eq n := by
    rw [content?_writeAttribute, h.content?_eq]
    by_cases hn : n = d.size
    · rw [if_pos hn.symm, if_pos hn, if_pos hn]
      rfl
    · rw [if_neg (Ne.symm hn), if_neg hn, if_neg hn]
  parent?_eq n := by rw [parent?_writeAttribute, h.parent?_eq]
  children_eq n := by rw [children_writeAttribute, h.children_eq]

/-- The attributes of an element that has just been created are written one after the other, and
none is refused. -/
theorem Created.exists_setAttributes {tag : TagName} {attributes : OrderedMap Text Text}
    (h : Created d ⟨.element tag, attributes⟩ d') (written : List (Text × Text)) :
    ∃ d₂, d'.setAttributes d.size written = ⟨.ok (), d₂⟩ ∧
      Created d ⟨.element tag, attributes.insertAll written⟩ d₂ := by
  induction written generalizing attributes d' with
  | nil => exact ⟨d', rfl, h⟩
  | cons entry rest ih =>
    obtain ⟨name, value⟩ := entry
    have helement : d'.isElement d.size = true := by
      rw [isElement, h.content?_eq, if_pos rfl]
      rfl
    obtain ⟨d₂, hrest, h₂⟩ := ih (h.writeAttribute name value)
    refine ⟨d₂, ?_, h₂⟩
    rw [setAttributes, setAttribute_of_isElement helement, Outcome.andThen_ok, hrest]

/-- Writing an attribute leaves a document well-formed, whether it succeeds or not. -/
theorem WellFormed.writeAttribute (h : d.WellFormed) (n : Handle) (name value : Text) :
    (d.writeAttribute n name value).WellFormed := by
  refine h.of_parent?_eq (fun _ => parent?_writeAttribute) (fun _ => children_writeAttribute) ?_
    fun {m found} hfound => ?_
  · rw [content?_writeAttribute, h.content?_root]
    split_ifs <;> rfl
  · rw [content?_writeAttribute] at hfound
    split_ifs at hfound
    · obtain ⟨content, hcontent, rfl⟩ := Option.map_eq_some_iff.1 hfound
      exact (h.isSound hcontent).setAttribute name value
    · exact h.isSound hfound

end Document

end StyleInline
