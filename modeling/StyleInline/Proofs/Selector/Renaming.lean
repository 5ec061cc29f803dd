import StyleInline.Proofs.FirstAppearance
import StyleInline.Proofs.Forest.Unfold
import StyleInline.Proofs.Selector.Chain

/-!
# Selection under renaming

Selection looks at an element only through its steps, its name and its attributes.  Where two
trees differ in nothing but the handles of their elements, a selector selects the same
elements in both, in the same order.

## Main definitions

* `Renames` — the second tree is the first one with other handles.

## Main results

* `Renames.nextSibling_eq`, `Renames.previousSibling_eq` — the steps are renamed.
* `Renames.walk_eq`, `Renames.step_eq` — so is what one step of a selector selects.
* `Renames.select_eq` — and what a group selects.
-/

namespace StyleInline

open ElementTree

variable {T H T' H' : Type} [ElementTree T H] [ElementTree T' H']

/-- What a selector selects is among the elements. -/
theorem Navigates.mem_of_mem_select [DecidableEq H] {t : T} {context n : H} {elements : Forest H}
    (h : Navigates t context elements) {s : Selector} (hn : n ∈ Selector.select t s context) :
    n ∈ elements.preorder :=
  (Selector.select_sublist_elements h (.inl rfl) s).subset hn

/-- The trees navigate the same forest under two sets of names, and the elements have the same
names and attributes. -/
structure Renames (f : H → H') (t : T) (t' : T') (context : H) (elements : Forest H) :
    Prop where
  navigates : Navigates t context elements
  navigates' : Navigates t' (f context) (elements.map f)
  localName_eq : ∀ e ∈ elements.preorder, localName t' (f e) = localName t e
  attribute?_eq : ∀ e ∈ elements.preorder, ∀ name, attribute? t' (f e) name = attribute? t e name

namespace Renames

variable {f : H → H'} {t : T} {t' : T'} {context e n : H} {elements : Forest H}
  (h : Renames f t t' context elements)
include h

/-! ## Steps -/

/-- Different nodes have different names. -/
theorem injOn {a b : H} (ha : a ∈ (Forest.single context elements).preorder)
    (hb : b ∈ (Forest.single context elements).preorder) (hab : f a = f b) : a = b := by
  have hnodup : ((Forest.single context elements).preorder.map f).Nodup := by
    rw [← Forest.preorder_map]
    exact h.navigates'.nodup
  exact List.inj_on_of_nodup_map hnodup ha hb hab

/-- What lies below the contexts is renamed. -/
theorem below_eq : below t' (f context) = (below t context).map f := by
  rw [h.navigates.below_eq (Forest.place_cons_self context elements .nil),
    h.navigates'.below_eq (Forest.place_cons_self (f context) (elements.map f) .nil)]

theorem nextSibling_eq (he : e ∈ elements.preorder) :
    nextSibling t' (f e) = (nextSibling t e).map f := by
  obtain ⟨below, behind, hp⟩ := Forest.mem_preorder_iff_place.1 he
  rw [h.navigates.nextSibling_eq hp, h.navigates'.nextSibling_eq (hp.map f), Forest.roots_map,
    List.head?_map]

theorem previousSibling_eq (he : e ∈ elements.preorder) :
    previousSibling t' (f e) = (previousSibling t e).map f := by
  have he' : f e ∈ (elements.map f).preorder := by
    rw [Forest.preorder_map]
    exact List.mem_map_of_mem he
  have hinj (x : H) (hx : x ∈ elements.preorder) (hxe : f x = f e) : x = e :=
    h.injOn (by simp [hx]) (by simp [he]) hxe
  ext a'
  rw [h.navigates'.previousSibling_eq_some_iff he', Forest.adjacent_map_iff hinj,
    Option.map_eq_some_iff]
  refine exists_congr fun a => ?_
  rw [h.navigates.previousSibling_eq_some_iff he, and_comm]

/-- An element before another is one of the elements. -/
theorem mem_of_previousSibling {a : H} (he : e ∈ elements.preorder)
    (ha : previousSibling t e = some a) : a ∈ elements.preorder := by
  obtain ⟨below, behind, hp, -⟩ := (h.navigates.previousSibling_eq_some_iff he a).1 ha
  exact hp.mem

/-! ## Matching one element -/

theorem predicate_holds_eq (he : e ∈ elements.preorder) (p : Predicate) :
    p.holds t' (f e) = p.holds t e := by
  cases p with
  | firstChild => rw [Predicate.holds, Predicate.holds, h.previousSibling_eq he, Option.isNone_map]
  | lastChild => rw [Predicate.holds, Predicate.holds, h.nextSibling_eq he, Option.isNone_map]
  | id | hasClass | present | equals | word | dash =>
    rw [Predicate.holds, Predicate.holds, h.attribute?_eq e he]

theorem compound_holds_eq (he : e ∈ elements.preorder) (compound : Compound) :
    compound.holds t' (f e) = compound.holds t e := by
  have hpredicates : Predicate.holds t' (f e) = Predicate.holds t e :=
    funext (h.predicate_holds_eq he)
  rw [Compound.holds, Compound.holds, Compound.tagHolds, Compound.tagHolds, h.localName_eq e he,
    hpredicates]

theorem compound_holdsAfter_eq (he : e ∈ elements.preorder) (combinator : Combinator)
    (compound : Compound) :
    compound.holdsAfter t' (f e) combinator = compound.holdsAfter t e combinator := by
  rw [Compound.holdsAfter, Compound.holdsAfter, Compound.holdsBeside, Compound.holdsBeside,
    h.compound_holds_eq he, h.compound_holds_eq he]

/-! ## Selecting -/

variable [DecidableEq H] [DecidableEq H'] {current : List H}

/-- A node is in a list when its name is among the names. -/
theorem contains_map (hcurrent : current ⊆ (Forest.single context elements).preorder)
    (hn : n ∈ (Forest.single context elements).preorder) :
    (current.map f).contains (f n) = current.contains n := by
  rw [Bool.eq_iff_iff, List.contains_iff_mem, List.contains_iff_mem, List.mem_map]
  constructor
  · rintro ⟨m, hm, hmn⟩
    exact h.injOn (hcurrent hm) hn hmn ▸ hm
  · exact fun hn => ⟨n, hn, rfl⟩

/-- Elements stand to renamed elements as they stood before. -/
theorem related_eq (hcurrent : current ⊆ (Forest.single context elements).preorder)
    (hn : n ∈ (Forest.single context elements).preorder) (he : e ∈ elements.preorder)
    (combinator : Combinator) (inside : Bool) :
    Selector.related t' combinator (current.map f) (f n) inside (f e)
      = Selector.related t combinator current n inside e := by
  cases combinator with
  | descendant => rfl
  | child => exact h.contains_map hcurrent hn
  | adjacent =>
    rw [Selector.related, Selector.related, h.previousSibling_eq he]
    cases ha : previousSibling t e with
    | none => rfl
    | some a =>
      have ha' : a ∈ (Forest.single context elements).preorder := by
        simp [h.mem_of_previousSibling he ha]
      exact h.contains_map hcurrent ha'

/-- A walk over renamed elements selects the renamed elements. -/
theorem walk_eq (hcurrent : current ⊆ (Forest.single context elements).preorder)
    (combinator : Combinator) (compound : Compound) {forest : Forest H} {inside : Bool}
    (hn : n ∈ (Forest.single context elements).preorder)
    (hforest : forest.preorder ⊆ elements.preorder) :
    Selector.walk t' combinator compound (current.map f) (f n) inside (forest.map f)
      = (Selector.walk t combinator compound current n inside forest).map f := by
  -- On the forest; the parent changes on the way down, and is always one of the nodes.
  induction forest generalizing n inside with
  | nil => rfl
  | cons e children siblings ihc ihs =>
    rw [Forest.preorder_cons, List.cons_subset, List.append_subset] at hforest
    obtain ⟨he, hchildren, hsiblings⟩ := hforest
    have he' : e ∈ (Forest.single context elements).preorder := by simp [he]
    rw [Forest.map, Selector.walk, Selector.walk, h.related_eq hcurrent hn he,
      h.compound_holdsAfter_eq he, h.contains_map hcurrent he', ihc he' hchildren,
      ihs hn hsiblings]
    split <;> simp

theorem step_eq (hcurrent : current ⊆ (Forest.single context elements).preorder)
    (next : Combinator × Compound) :
    Selector.step t' (f context) (elements.map f) (current.map f) next
      = (Selector.step t context elements current next).map f := by
  have hcontext : context ∈ (Forest.single context elements).preorder := by simp
  rw [Selector.step, Selector.step, h.contains_map hcurrent hcontext,
    h.walk_eq hcurrent next.1 next.2 hcontext (List.Subset.refl _)]

theorem foldl_step_eq (hcurrent : current ⊆ (Forest.single context elements).preorder)
    (steps : List (Combinator × Compound)) :
    steps.foldl (Selector.step t' (f context) (elements.map f)) (current.map f)
      = (steps.foldl (Selector.step t context elements) current).map f := by
  induction steps generalizing current with
  | nil => rfl
  | cons next later ih =>
    have hnext : Selector.step t context elements current next
        ⊆ (Forest.single context elements).preorder := by
      intro n hn
      have := (Selector.walk_sublist_preorder ..).subset hn
      simp [this]
    rw [List.foldl_cons, List.foldl_cons, h.step_eq hcurrent, ih hnext]

/-- A selector selects the renamed elements, in the same order. -/
theorem selector_select_eq (s : Selector) :
    Selector.select t' s (f context) = (Selector.select t s context).map f := by
  have hbelow := h.navigates.below_eq (Forest.place_cons_self context elements .nil)
  have hcontext : [context] ⊆ (Forest.single context elements).preorder := by
    simp
  rw [Selector.select, Selector.select, h.below_eq, hbelow]
  exact h.foldl_step_eq hcontext s.steps

/-- A group selects the renamed elements, in the same order. -/
theorem select_eq (group : SelectorGroup) :
    SelectorGroup.select t' group (f context) = (SelectorGroup.select t group context).map f := by
  have hmem {n : H} (hn : n ∈ group.flatMap fun s => Selector.select t s context) :
      n ∈ (Forest.single context elements).preorder := by
    obtain ⟨s, -, hs⟩ := List.mem_flatMap.1 hn
    simp [h.navigates.mem_of_mem_select hs]
  simp only [SelectorGroup.select, h.selector_select_eq]
  rw [← List.map_flatMap, eraseDups_map fun ha hb => h.injOn (hmem ha) (hmem hb)]

end Renames

end StyleInline
