import Mathlib.Data.Set.Function
import StyleInline.Proofs.Document.History
import StyleInline.Proofs.Document.Skeleton
import StyleInline.Proofs.Selector.Renaming
import StyleInline.Proofs.Styling.Frame

/-!
# Styling sees elements only

Two documents may have the same elements and differ in everything else: in text, comments and
document types between the elements, in the qualifiers of tags, in the order in which nodes have
been created.  Selectors select the same elements in both, and a sheet writes the same
attributes.

A write to corresponding elements keeps the documents alike; so does a rule, because it selects
corresponding elements, and then a sheet.

## Main definitions

* `Document.SkeletonIso` — two documents with the same elements.

## Main results

* `Document.SkeletonIso.renames` — one is the other with new names.
* `Document.SkeletonIso.styleElements`, `Document.SkeletonIso.applyRules` — writes and
  rules keep them alike.
* `Document.SkeletonIso.select_and_apply` — what selectors and sheets make of them.
-/

namespace StyleInline.Document

open Relation Forest Styling

variable {d d' : Document} {e n : Handle} {f : Handle → Handle} {name value : Text}

/-- The elements of two documents correspond: names, attributes and element children are the
same, and those of the root too. -/
structure SkeletonIso (f : Handle → Handle) (d d' : Document) : Prop where
  bijOn : Set.BijOn f d.skeleton d'.skeleton
  roots_eq : d'.elementChildren root = (d.elementChildren root).map f
  elementChildren_eq : ∀ e ∈ d.skeleton, d'.elementChildren (f e) = (d.elementChildren e).map f
  localName_eq : ∀ e ∈ d.skeleton, d'.localName (f e) = d.localName e
  attributes_eq : ∀ e ∈ d.skeleton, d'.attributes (f e) = d.attributes e

/-! ## Selecting -/

/-- The root is not among the elements. -/
theorem WellFormed.root_notMem_skeleton (h : d.WellFormed) : root ∉ d.skeleton :=
  h.branches.acyclic root

/-- What the element children of the root unfold into are the elements. -/
theorem mem_preorder_iff_mem_skeleton {elements : Forest Handle}
    (h : Unfolds d.elementChildren (d.elementChildren root) elements) :
    e ∈ elements.preorder ↔ e ∈ d.skeleton :=
  h.mem_preorder_iff_transGen

/-- What a group selects below the root are elements. -/
theorem WellFormed.mem_skeleton_of_mem_select (h : d.WellFormed) {group : SelectorGroup}
    (he : e ∈ SelectorGroup.select d group root) : e ∈ d.skeleton := by
  obtain ⟨s, -, hs⟩ := SelectorGroup.mem_select_iff.1 he
  obtain ⟨elements, hunfolds⟩ := h.exists_unfolds root
  exact (mem_preorder_iff_mem_skeleton hunfolds).1 ((h.navigates hunfolds).mem_of_mem_select hs)

namespace SkeletonIso

/-- The second document is the first one with new names; the root keeps its own. -/
theorem renames (hf : SkeletonIso f d d') (h : d.WellFormed) (h' : d'.WellFormed) :
    ∃ elements, Renames (Function.update f root root) d d' root elements := by
  obtain ⟨elements, hunfolds⟩ := h.exists_unfolds root
  have hmem {e : Handle} (he : e ∈ elements.preorder) : e ∈ d.skeleton :=
    (mem_preorder_iff_mem_skeleton hunfolds).1 he
  have hne {e : Handle} (he : e ∈ d.skeleton) : e ≠ root :=
    fun heq => h.root_notMem_skeleton (heq ▸ he)
  have hupdate {e : Handle} (he : e ∈ d.skeleton) : Function.update f root root e = f e :=
    Function.update_of_ne (hne he) root f
  have hmap {es : List Handle} (hes : ∀ e ∈ es, e ∈ d.skeleton) :
      es.map (Function.update f root root) = es.map f :=
    List.map_congr_left fun e he => hupdate (hes e he)
  have hroots : ∀ e ∈ d.elementChildren root, e ∈ d.skeleton := fun e he => .single he
  have hchildren {e : Handle} (he : e ∈ d.skeleton) :
      ∀ b ∈ d.elementChildren e, b ∈ d.skeleton := fun b hb => he.tail hb
  have hunfolds' : Unfolds d'.elementChildren (d'.elementChildren root)
      (elements.map (Function.update f root root)) := by
    rw [hf.roots_eq, ← hmap hroots]
    refine hunfolds.map fun e he => ?_
    rw [hupdate (hmem he), hf.elementChildren_eq e (hmem he), hmap (hchildren (hmem he))]
  refine ⟨elements, h.navigates hunfolds, ?_, fun e he => ?_, fun e he name => ?_⟩
  · rw [Function.update_self]
    exact h'.navigates hunfolds'
  · rw [hupdate (hmem he)]
    exact hf.localName_eq e (hmem he)
  · rw [hupdate (hmem he)]
    change d'.attribute? (f e) name = d.attribute? e name
    rw [attribute?_eq, attribute?_eq, hf.attributes_eq e (hmem he)]

/-- A group selects corresponding elements, in the same order. -/
theorem select_eq (hf : SkeletonIso f d d') (h : d.WellFormed) (h' : d'.WellFormed)
    (group : SelectorGroup) :
    SelectorGroup.select d' group root = (SelectorGroup.select d group root).map f := by
  obtain ⟨elements, hrenames⟩ := hf.renames h h'
  have hselect := hrenames.select_eq group
  rw [Function.update_self] at hselect
  rw [hselect]
  refine List.map_congr_left fun e he => Function.update_of_ne ?_ root f
  rintro rfl
  exact h.root_notMem_skeleton (h.mem_skeleton_of_mem_select he)

end SkeletonIso

/-! ## Writing -/

theorem elementChildren_writeAttribute (d : Document) (n : Handle) (name value : Text) :
    (d.writeAttribute n name value).elementChildren = d.elementChildren := by
  funext m
  have hisElement : (d.writeAttribute n name value).isElement = d.isElement :=
    funext fun _ => isElement_writeAttribute
  rw [elementChildren, elementChildren, children_writeAttribute, hisElement]

theorem skeleton_writeAttribute (d : Document) (n : Handle) (name value : Text) :
    (d.writeAttribute n name value).skeleton = d.skeleton := by
  rw [skeleton, skeleton, elementChildren_writeAttribute]

namespace SkeletonIso

/-- An attribute is written to corresponding elements. -/
theorem writeAttribute (hf : SkeletonIso f d d') (he : e ∈ d.skeleton) (name value : Text) :
    SkeletonIso f (d.writeAttribute e name value) (d'.writeAttribute (f e) name value) := by
  have he' : f e ∈ d'.skeleton := hf.bijOn.mapsTo he
  constructor
  · rw [skeleton_writeAttribute, skeleton_writeAttribute]
    exact hf.bijOn
  · rw [elementChildren_writeAttribute, elementChildren_writeAttribute]
    exact hf.roots_eq
  · rw [skeleton_writeAttribute, elementChildren_writeAttribute, elementChildren_writeAttribute]
    exact hf.elementChildren_eq
  · intro m hm
    rw [skeleton_writeAttribute] at hm
    rw [localName_writeAttribute, localName_writeAttribute]
    exact hf.localName_eq m hm
  · intro m hm
    rw [skeleton_writeAttribute] at hm
    rw [attributes_writeAttribute (isElement_of_mem_skeleton he),
      attributes_writeAttribute (isElement_of_mem_skeleton he'), hf.attributes_eq m hm]
    simp only [hf.bijOn.injOn.eq_iff he hm]

/-- So declarations are: the `style` attributes that they are merged into are the same. -/
theorem styleElement (hf : SkeletonIso f d d') (he : e ∈ d.skeleton)
    (declarations : Declarations) :
    SkeletonIso f (styleElement declarations d e) (styleElement declarations d' (f e)) := by
  have hstyle : ElementTree.attribute? d' (f e) styleName
      = ElementTree.attribute? d e styleName := by
    change d'.attribute? (f e) styleName = d.attribute? e styleName
    rw [attribute?_eq, attribute?_eq, hf.attributes_eq e he]
  rw [Styling.styleElement, Styling.styleElement, hstyle]
  exact hf.writeAttribute he ..

/-- Declarations are written to corresponding elements, one after the other. -/
theorem styleElements {es : List Handle} (hf : SkeletonIso f d d') (h : d.WellFormed)
    (h' : d'.WellFormed) (hes : ∀ e ∈ es, e ∈ d.skeleton) (declarations : Declarations) :
    (styleElements declarations d es).WellFormed ∧
      (styleElements declarations d' (es.map f)).WellFormed ∧
        SkeletonIso f (styleElements declarations d es)
          (styleElements declarations d' (es.map f)) := by
  induction es generalizing d d' with
  | nil => exact ⟨h, h', hf⟩
  | cons e es ih =>
    have he : e ∈ d.skeleton := hes e List.mem_cons_self
    rw [List.map_cons, styleElements_cons, styleElements_cons]
    refine ih (hf.styleElement he declarations) (h.writeAttribute ..) (h'.writeAttribute ..)
      fun b hb => ?_
    have hskeleton : (Styling.styleElement declarations d e).skeleton = d.skeleton :=
      skeleton_writeAttribute ..
    rw [hskeleton]
    exact hes b (List.mem_cons_of_mem e hb)

/-- Rules select corresponding elements in turn, and keep the documents alike. -/
theorem applyRules (hf : SkeletonIso f d d') (h : d.WellFormed) (h' : d'.WellFormed)
    (rules : List CompiledRule) :
    SkeletonIso f (applyRules d rules) (applyRules d' rules) := by
  induction rules generalizing d d' with
  | nil => exact hf
  | cons rule later ih =>
    have hselected : selected rule d' = (selected rule d).map f := hf.select_eq h h' rule.branches
    obtain ⟨hrule, hrule', hfrule⟩ := hf.styleElements h h'
      (fun e he => h.mem_skeleton_of_mem_select he) rule.declarations
    rw [applyRules_cons, applyRules_cons, applyRule, applyRule, hselected]
    exact ih hfrule hrule hrule'

/-- **Selection and styling depend on the elements only.**  Where the elements of two documents
correspond, every group selects corresponding elements in the same order, and after every sheet
the same elements correspond, with the attributes they have then.  Documents that come from the
empty one by operations are well-formed. -/
theorem select_and_apply (hf : SkeletonIso f d d') (h : d.WellFormed) (h' : d'.WellFormed) :
    (∀ group : SelectorGroup,
      SelectorGroup.select d' group root = (SelectorGroup.select d group root).map f) ∧
    ∀ sheet : CompiledSheet, (sheet.apply d).skeleton = d.skeleton ∧
      SkeletonIso f (sheet.apply d) (sheet.apply d') := by
  refine ⟨hf.select_eq h h', fun sheet => ⟨?_, hf.applyRules h h' sheet.rules⟩⟩
  exact observe_applyRules skeleton (fun d e => skeleton_writeAttribute d e styleName) d sheet.rules

/-- Documents correspond when their elements unfold into one forest under two sets of names. -/
theorem of_unfolds (elements : Forest Handle)
    (h : Unfolds d.elementChildren (d.elementChildren root) elements)
    (h' : Unfolds d'.elementChildren (d'.elementChildren root) (elements.map f))
    (hnodup : (elements.map f).preorder.Nodup)
    (hname : ∀ e ∈ elements.preorder, d'.localName (f e) = d.localName e)
    (hattributes : ∀ e ∈ elements.preorder, d'.attributes (f e) = d.attributes e) :
    SkeletonIso f d d' := by
  have hskeleton {e : Handle} : e ∈ d.skeleton ↔ e ∈ elements.preorder :=
    (mem_preorder_iff_mem_skeleton h).symm
  have hskeleton' {e : Handle} : e ∈ d'.skeleton ↔ e ∈ elements.preorder.map f := by
    rw [← preorder_map, mem_preorder_iff_mem_skeleton h']
  rw [preorder_map] at hnodup
  constructor
  · refine ⟨fun e he => ?_, fun a ha b hb => ?_, fun e he => ?_⟩
    · exact hskeleton'.2 (List.mem_map_of_mem (hskeleton.1 he))
    · exact List.inj_on_of_nodup_map hnodup (hskeleton.1 ha) (hskeleton.1 hb)
    · obtain ⟨a, ha, rfl⟩ := List.mem_map.1 (hskeleton'.1 he)
      exact ⟨a, hskeleton.2 ha, rfl⟩
  · rw [← h'.roots_eq, roots_map, h.roots_eq]
  · intro e he
    obtain ⟨below, behind, hp⟩ := mem_preorder_iff_place.1 (hskeleton.1 he)
    rw [← h'.below_eq (hp.map f), roots_map, h.below_eq hp]
  · exact fun e he => hname e (hskeleton.1 he)
  · exact fun e he => hattributes e (hskeleton.1 he)

end SkeletonIso

/-- A list with two items. -/
def plainList : List Operation :=
  [.appendElement root ⟨none, "ul".toList⟩ [("class".toList, "menu".toList)],
    .appendElement 1 ⟨none, "li".toList⟩ [],
    .appendElement 1 ⟨none, "li".toList⟩ [("style".toList, "a:b".toList)]]

/-- The same list, written from inside out, with a document type, texts, a comment and qualified
tags. -/
def writtenList : List Operation :=
  [.createDoctype "html".toList, .append root 1, .createText "before".toList, .append root 2,
    .createElement ⟨some "x".toList, "li".toList⟩, .createElement ⟨none, "ul".toList⟩,
    .setAttribute 4 "class".toList "menu".toList, .append 4 3, .createComment "gap".toList,
    .append 4 5, .append root 4,
    .appendElement 4 ⟨some "y".toList, "li".toList⟩ [("style".toList, "a:b".toList)]]

theorem SkeletonIso.select_and_apply_list :
    let f (e : Handle) : Handle := [0, 4, 3, 6].getD e 0
    (SkeletonIso f (run plainList) (run writtenList) ∧ (run plainList).WellFormed ∧
      (run writtenList).WellFormed) ∧
    (∀ group : SelectorGroup, SelectorGroup.select (run writtenList) group root
      = (SelectorGroup.select (run plainList) group root).map f) ∧
    ∀ sheet : CompiledSheet, (sheet.apply (run plainList)).skeleton = (run plainList).skeleton ∧
      SkeletonIso f (sheet.apply (run plainList)) (sheet.apply (run writtenList)) := by
  intro f
  have hf : SkeletonIso f (run plainList) (run writtenList) := by
    refine .of_unfolds (.cons 1 (.cons 2 .nil (.cons 3 .nil .nil)) .nil) ?_ ?_ ?_ ?_ ?_
    all_goals decide +kernel
  have h : (run plainList).WellFormed := wellFormed_run (by decide +kernel)
  have h' : (run writtenList).WellFormed := wellFormed_run (by decide +kernel)
  exact ⟨⟨hf, h, h'⟩, hf.select_and_apply h h'⟩

end StyleInline.Document
