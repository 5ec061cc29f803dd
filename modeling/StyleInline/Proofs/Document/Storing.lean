import StyleInline.Document.Markup
import StyleInline.Proofs.Document.Grafting
import StyleInline.Proofs.Document.History

/-!
# Storing markup

Markup can always be stored, whatever it looks like: attributes are written to elements only, and
a node is appended when nothing but its own contents is below it.  The document that comes out
has one node for each item that is kept, made in document order, and it is the forest of these
items.

## Main definitions

* `Markup.kept` — the items that are stored, as they will stand.
* `MarkupItem.content?` — what becomes of an item.
* `Markup.Grafts` — storing a forest below a node grafts it there.
* `Markup.Stores` — the document that markup makes.

## Main results

* `Markup.grafts` — every forest is grafted.
* `Markup.exists_stores` — markup of any kind is stored.
-/

namespace StyleInline

open Document Forest

/-! ## What is to be stored -/

/-- What becomes of an item; an element gets its attributes, of which the last of each name
counts. -/
def MarkupItem.content? : MarkupItem → Option Content
  | .document | .instruction => none
  | .doctype name => some (.ofKind (.doctype name))
  | .element name attributes =>
    some ⟨.element (TagName.ofQualified name), .ofList (attributes.map fun a => (a.name, a.value))⟩
  | .text run => some (.ofKind (.text run))
  | .comment run => some (.ofKind (.comment run))

/-- The items that are stored.  A document inside gives way to what is below it, and an instruction
is left out with all that is below it; what an item contains comes before its children. -/
def Markup.kept : Markup → Forest MarkupItem
  | nil => .nil
  | cons item contents children siblings =>
    match item with
    | .document => children.kept.append siblings.kept
    | .instruction => siblings.kept
    | item => .cons item (contents.kept.append children.kept) siblings.kept

/-! ## One item -/

variable {d d₁ : Document} {p : Handle} {item : MarkupItem} {content : Content}

namespace Markup

/-- An item that has a content becomes a node with that content. -/
theorem exists_created (h : item.content? = some content) (d : Document) :
    ∃ kind, kindOf? item = some kind ∧ ∃ d₁,
      (d.create kind).2.setAttributes d.size (attributesOf item) = ⟨.ok (), d₁⟩ ∧
        Created d content d₁ := by
  cases item with
  | document | instruction => cases h
  | doctype | text | comment =>
    cases h
    exact ⟨_, rfl, _, rfl, created_create d _⟩
  | element name written =>
    cases h
    exact ⟨_, rfl, (created_create d _).exists_setAttributes _⟩

theorem isSound_of_content?_eq_some (h : item.content? = some content) : content.IsSound := by
  cases item with
  | document | instruction => cases h
  | doctype | text | comment =>
    cases h
    exact Content.isSound_ofKind _
  | element name written =>
    cases h
    exact ⟨OrderedMap.distinct_ofList _, fun hnot => nomatch hnot⟩

/-! ## A forest of items -/

variable {contents children siblings : Markup}

/-- An item that becomes a node is kept. -/
theorem kept_cons (h : item.content? = some content) :
    (cons item contents children siblings).kept =
      .cons item (contents.kept.append children.kept) siblings.kept := by
  cases item with
  | document | instruction => cases h
  | doctype | element | text | comment => rfl

/-- An item that becomes a node is stored step by step. -/
theorem store_cons {kind : NodeKind} (h : kindOf? item = some kind) :
    (cons item contents children siblings).store p d =
      ((d.create kind).2.setAttributes d.size (attributesOf item)).andThen fun _ d₁ =>
        (contents.store d.size d₁).andThen fun _ d₂ =>
          (d₂.append p d.size).andThen fun _ d₃ =>
            (children.store d.size d₃).andThen fun _ d₄ => siblings.store p d₄ := by
  cases item with
  | document | instruction => cases h
  | doctype | element | text | comment =>
    cases h
    rfl

/-- Wherever it is stored, the forest is grafted there. -/
def Grafts (markup : Markup) : Prop :=
  ∀ {p : Handle} {d : Document}, d.WellFormed → p < d.size →
    ∃ d', markup.store p d = ⟨.ok (), d'⟩ ∧ Grafted d p (markup.kept.map MarkupItem.content?) d'

/-- An item that becomes a node is grafted with all that belongs to it, and what stands behind it
after that. -/
theorem grafts_cons (hitem : item.content? = some content) (hcontents : contents.Grafts)
    (hchildren : children.Grafts) (hsiblings : siblings.Grafts) :
    (cons item contents children siblings).Grafts := by
  intro p d hd hp
  obtain ⟨kind, hkind, d₁, hstore₁, hcreated⟩ := exists_created hitem d
  have hd₁ := hd.created hcreated (isSound_of_content?_eq_some hitem)
  -- The node of the item is `d.size`; its contents are there before it is appended.
  obtain ⟨d₂, hstore₂, h₂⟩ := hcontents hd₁ hcreated.lt_size
  obtain ⟨d₃, hstore₃, h₃⟩ := h₂.exists_append hd hp hcreated
  have hn₃ : d.size < d₃.size := by
    rw [h₃.size_eq, size_single]
    exact Nat.lt_add_of_pos_right (Nat.succ_pos _)
  obtain ⟨d₄, hstore₄, h₄⟩ := hchildren h₃.wellFormed hn₃
  have htree := h₃.extend h₄
  obtain ⟨d₅, hstore₅, h₅⟩ := hsiblings h₄.wellFormed (htree.lt_of_lt hp)
  refine ⟨d₅, ?_, ?_⟩
  · rw [store_cons hkind]
    simp only [hstore₁, hstore₂, hstore₃, hstore₄, hstore₅, Outcome.andThen_ok]
  · rw [kept_cons hitem, map, hitem, map_append]
    exact htree.append h₅ hp

/-- **Storing grafts the items that are kept**, and never fails. -/
theorem grafts (markup : Markup) : markup.Grafts := by
  induction markup with
  | nil => exact fun {p d} hd _ => ⟨d, rfl, .nil hd⟩
  | cons item contents children siblings hcontents hchildren hsiblings =>
    cases item with
    | document =>
      intro p d hd hp
      obtain ⟨d₁, hstore₁, h₁⟩ := hchildren hd hp
      obtain ⟨d₂, hstore₂, h₂⟩ := hsiblings h₁.wellFormed (h₁.lt_of_lt hp)
      refine ⟨d₂, ?_, ?_⟩
      · rw [store, hstore₁, Outcome.andThen_ok, hstore₂]
      · rw [kept, map_append]
        exact h₁.append h₂ hp
    | instruction => exact hsiblings
    | doctype | element | text | comment => exact grafts_cons rfl hcontents hchildren hsiblings

/-! ## The document of markup -/

/-- The document that holds markup: below its root stands the forest of the items that are kept,
with what becomes of each; the nodes are numbered in document order, and none is left without a
parent but the root. -/
structure Stores (markup : Markup) (d : Document) : Prop where
  wellFormed : d.WellFormed
  size_eq : d.size = markup.kept.size + 1
  map_content? : (d.subtree root).map d.content? = markup.kept.map MarkupItem.content?
  order_eq : d.order root = List.range d.size
  parent?_root : d.parent? root = none
  exists_parent : ∀ n, 0 < n → n < d.size → ∃ p, d.parent? n = some p

/-- Markup makes a document, in which the items that are kept are grafted below the root. -/
theorem exists_grafted (markup : Markup) :
    ∃ d, markup.toDocument = .ok d ∧
      Grafted empty root (markup.kept.map MarkupItem.content?) d := by
  have hroot : root < empty.size := Nat.one_pos
  obtain ⟨d, hstore, h⟩ := markup.grafts wellFormed_empty hroot
  exact ⟨d, by rw [toDocument, hstore]; rfl, h⟩

/-- **Markup is stored without fail**, whatever items it is made of. -/
theorem exists_stores (markup : Markup) : ∃ d, markup.toDocument = .ok d ∧ markup.Stores d := by
  have hroot : root < empty.size := Nat.one_pos
  obtain ⟨d, hdocument, h⟩ := markup.exists_grafted
  have hsize : d.size = markup.kept.size + 1 := by
    rw [h.size_eq, size_map, size_empty, Nat.add_comm]
  have hchildren : d.children root = ((markup.kept.map MarkupItem.content?).number 1).roots := by
    rw [h.children_eq root hroot, if_pos rfl]
    rfl
  have hsubtree : d.subtree root = (markup.kept.map MarkupItem.content?).number 1 := by
    have hunfolds := h.wellFormed.unfolds_subtree root
    rw [hchildren] at hunfolds
    exact hunfolds.unique h.holds.unfolds
  refine ⟨d, hdocument, h.wellFormed, hsize, ?_, ?_, ?_, fun n hn hlt => ?_⟩
  · rw [hsubtree]
    exact h.holds.map_content?
  · rw [order, hsubtree, preorder_number, size_map, hsize, List.range_eq_range', List.range'_succ]
    rfl
  · rw [h.parent?_eq root hroot]
    rfl
  · have hmem : n ∈ (d.subtree root).preorder := by
      rw [hsubtree, mem_preorder_number_iff, size_map]
      omega
    obtain ⟨p, hp, -⟩ := ancestor_iff.1 (h.wellFormed.mem_preorder_subtree_iff.1 hmem)
    exact ⟨p, hp⟩

/-- A comment, a template with a text in it and one below it, and a document inside a document: the
text that the template contains comes first. -/
example : (toDocument (.cons (.comment ['c']) .nil .nil (.cons (.element "template".toList [])
    (.cons (.text ['a']) .nil .nil .nil) (.cons (.text ['b']) .nil .nil .nil)
    (.cons .document .nil (.cons (.text ['d']) .nil .nil .nil) .nil)))).map
      (fun d => (d.children root, d.children 2, d.content? 3)) =
    .ok ([1, 2, 5], [3, 4], some (.ofKind (.text ['a']))) := by decide +kernel

end Markup

end StyleInline
