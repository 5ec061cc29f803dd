import StyleInline.Proofs.Document.History
import StyleInline.Proofs.Document.Skeleton
import StyleInline.Proofs.FirstAppearance
import StyleInline.Proofs.Forest.Operations
import StyleInline.Proofs.Selector.Chain
import StyleInline.Selector.Parser

/-!
# Two traversals of a document

A query knows a document by its steps only: down to the first element child, and from there to
the next element and the next.  The document itself lists its elements by walking through all
nodes.  Both see the same elements in the same order, whatever other nodes stand among them, as
long as those have nothing below them; and a step forward is undone by a step back.

## Main definitions

* `ElementTree.Follows` — the elements that steps forward lead through.
* `Document.Regular` — only the root and elements have children.
* `Document.KeepsContract` — what queries can rely on.

## Main results

* `Document.WellFormed.follows_elementChildren` — steps forward lead through the element
  children, in order.
* `Document.WellFormed.nextElement_iff_previousElement` — steps forward and back.
* `Document.WellFormed.preorder_below_root` — in a regular document both walks find the same.
* `Document.keepsContract_run` — documents keep the contract, whatever the history.
-/

namespace StyleInline

open ElementTree

section Steps

variable {T H : Type} [ElementTree T H]

/-- From `start` the steps forward lead through the elements of a list, and no further. -/
def ElementTree.Follows (t : T) : (start : Option H) → List H → Prop
  | start, [] => start = none
  | start, e :: later => start = some e ∧ Follows t (nextSibling t e) later

namespace Selector

variable [DecidableEq H]

/-- Inside the context, a search among the descendants finds whatever satisfies the compound. -/
theorem walk_descendant_inside (t : T) (compound : Compound) (current : List H) (parent : H)
    (forest : Forest H) :
    walk t .descendant compound current parent true forest =
      forest.preorder.filter (compound.holds t ·) := by
  induction forest generalizing parent with
  | nil => rfl
  | cons e children siblings ihc ihs =>
    have htest : compound.holdsAfter t e .descendant = compound.holds t e := rfl
    simp only [walk, related, htest, Bool.true_and, Bool.true_or, ihc, ihs, Forest.preorder_cons,
      List.filter_cons, List.filter_append]

/-- A single compound selects what satisfies it. -/
theorem select_single (t : T) (compound : Compound) (context : H) :
    select t ⟨compound, []⟩ context =
      (ElementTree.below t context).preorder.filter (compound.holds t ·) := by
  have hinside : [context].contains context = true := by simp
  rw [select, steps, List.foldl_cons, List.foldl_nil, step, hinside, walk_descendant_inside]

end Selector

end Steps

namespace Document

open Relation Forest

variable {d : Document} {a b e n p : Handle}

/-! ## Steps among siblings -/

/-- Without a parent a node has no next element. -/
theorem nextElement_eq_none (he : d.parent? e = none) : d.nextElement e = none := by
  simp [nextElement, siblingsAfter, siblings, he]

/-- Without a parent a node has no previous element. -/
theorem previousElement_eq_none (he : d.parent? e = none) : d.previousElement e = none := by
  simp [previousElement, siblingsBefore, siblings, he]

namespace WellFormed

variable (h : d.WellFormed)
include h

/-- **Steps forward from the first element child** lead through all element children, in order,
and come to an end. -/
theorem follows_elementChildren (n : Handle) :
    Follows d (firstChild d n) (d.elementChildren n) := by
  have hfirst : firstChild d n = (d.elementChildren n).head? := firstElementChild_eq d n
  -- On the children that are left: those before are kept, so that the row stays the same.
  have hrest : ∀ later before, d.elementChildren n = before ++ later →
      Follows d later.head? later := by
    intro later
    induction later with
    | nil => exact fun _ _ => rfl
    | cons e later ih =>
      intro before hrow
      have hnext : nextSibling d e = later.head? := h.nextElement_eq hrow
      refine ⟨rfl, ?_⟩
      rw [hnext]
      exact ih (before ++ [e]) (by rw [hrow, List.append_assoc]; rfl)
  rw [hfirst]
  exact hrest _ [] rfl

/-- An element with a parent stands among its element children. -/
theorem exists_row_of_parent (he : d.isElement e = true) (hp : d.parent? e = some p) :
    ∃ before after, d.elementChildren p = before ++ e :: after := by
  have hmem : e ∈ d.elementChildren p := List.mem_filter.2 ⟨h.mem_children_iff.2 hp, he⟩
  exact List.append_of_mem hmem

/-- The next element is the one behind in a row of element children. -/
theorem nextElement_eq_some_iff (ha : d.isElement a = true) : d.nextElement a = some b ↔
    ∃ p before after, d.elementChildren p = before ++ a :: b :: after := by
  constructor
  · intro hb
    cases hp : d.parent? a with
    | none =>
      rw [nextElement_eq_none hp] at hb
      cases hb
    | some p =>
      obtain ⟨before, after, hrow⟩ := h.exists_row_of_parent ha hp
      rw [h.nextElement_eq hrow, List.head?_eq_some_iff] at hb
      obtain ⟨later, rfl⟩ := hb
      exact ⟨p, before, later, hrow⟩
  · rintro ⟨p, before, after, hrow⟩
    rw [h.nextElement_eq hrow, List.head?_cons]

/-- The previous element is the one before in a row of element children. -/
theorem previousElement_eq_some_iff (hb : d.isElement b = true) : d.previousElement b = some a ↔
    ∃ p before after, d.elementChildren p = before ++ a :: b :: after := by
  constructor
  · intro ha
    cases hp : d.parent? b with
    | none =>
      rw [previousElement_eq_none hp] at ha
      cases ha
    | some p =>
      obtain ⟨before, after, hrow⟩ := h.exists_row_of_parent hb hp
      rw [h.previousElement_eq hrow, List.getLast?_eq_some_iff] at ha
      obtain ⟨front, rfl⟩ := ha
      exact ⟨p, front, after, by rw [hrow, List.append_assoc]; rfl⟩
  · rintro ⟨p, before, after, hrow⟩
    have hcut : d.elementChildren p = (before ++ [a]) ++ b :: after := by
      rw [hrow, List.append_assoc]; rfl
    rw [h.previousElement_eq hcut, List.getLast?_concat]

/-- A step forward is undone by a step back, and the other way round. -/
theorem nextElement_iff_previousElement (ha : d.isElement a = true) (hb : d.isElement b = true) :
    d.nextElement a = some b ↔ d.previousElement b = some a := by
  rw [h.nextElement_eq_some_iff ha, h.previousElement_eq_some_iff hb]

end WellFormed

/-! ## All elements -/

/-- Only the root and elements have children. -/
def Regular (d : Document) : Prop :=
  ∀ n < d.size, d.children n ≠ [] → n = root ∨ d.isElement n = true

instance : Decidable d.Regular := inferInstanceAs (Decidable (∀ n < d.size, _))

namespace WellFormed

variable (h : d.WellFormed)
include h

theorem isElement_root : d.isElement root = false := by
  rw [isElement, h.content?_root]
  rfl

/-- The elements of a document are the elements below its root. -/
theorem elements_eq : d.elements = (d.subtree root).preorder.filter d.isElement := by
  rw [elements, order, List.filter_cons, h.isElement_root, if_neg Bool.false_ne_true]

/-- In a regular document, what stands below the root without being an element has no children. -/
theorem eq_nil_of_not_isElement (hregular : d.Regular) {below behind : Forest Handle}
    (hp : (d.subtree root).Place n below behind) (hn : d.isElement n = false) : below = .nil := by
  have hbelow : below.roots = d.children n := (h.unfolds_subtree root).below_eq hp
  have hroot : n ≠ root := by
    rintro rfl
    exact h.acyclic root (h.mem_preorder_subtree_iff.1 hp.mem)
  have hchildren : d.children n = [] := by
    by_contra hne
    obtain ⟨c, hc⟩ := List.exists_mem_of_ne_nil _ hne
    rcases hregular n (lt_size_of_mem_children hc) hne with heq | helement
    · exact hroot heq
    · rw [hn] at helement
      cases helement
  rw [hchildren] at hbelow
  cases below with
  | nil => rfl
  | cons c k s => cases hbelow

/-- The steps between elements are those of the subtree without the other nodes. -/
theorem navigates_keep : Navigates d root ((d.subtree root).keep d.isElement) :=
  h.navigates ((h.unfolds_subtree root).keep d.isElement)

/-- **Both walks find the same elements**: the steps between elements, and the nodes one after
the other. -/
theorem preorder_below_root (hregular : d.Regular) :
    (ElementTree.below d root).preorder = d.elements := by
  rw [h.navigates_keep.below_eq (place_cons_self root _ .nil), h.elements_eq]
  exact preorder_keep (h.eq_nil_of_not_isElement hregular)

/-- In a regular document a single compound selects the elements that satisfy it. -/
theorem select_single (hregular : d.Regular) (compound : Compound) :
    Selector.select d ⟨compound, []⟩ root = d.elements.filter (compound.holds d ·) := by
  rw [Selector.select_single, h.preorder_below_root hregular]

/-- Taken as a group it selects the same. -/
theorem select_group_single (hregular : d.Regular) (compound : Compound) :
    SelectorGroup.select d [⟨compound, []⟩] root = d.elements.filter (compound.holds d ·) := by
  have hnodup : (Selector.select d ⟨compound, []⟩ root).Nodup :=
    Selector.nodup_select h.navigates_keep (.inl rfl) _
  rw [SelectorGroup.select, List.flatMap_singleton, eraseDups_of_nodup hnodup,
    h.select_single hregular]

end WellFormed

/-! ## The contract -/

/-- What a query relies on in a document: steps forward enumerate the element children, steps
back undo them, and if only the root and elements have children, a search from the root sees the
elements of the document. -/
structure KeepsContract (d : Document) : Prop where
  follows : ∀ n, Follows d (firstChild d n) ((d.children n).filter d.isElement)
  nextSibling_iff : ∀ a b, d.isElement a = true → d.isElement b = true →
    (nextSibling d a = some b ↔ previousSibling d b = some a)
  select_all : d.Regular → ∃ group, SelectorGroup.parse "*".toList = .ok group ∧
    SelectorGroup.select d group root = d.elements
  select_compound : d.Regular → ∀ compound,
    Selector.select d ⟨compound, []⟩ root = d.elements.filter (compound.holds d ·) ∧
      SelectorGroup.select d [⟨compound, []⟩] root = d.elements.filter (compound.holds d ·)

/-- **A document keeps the contract**, whatever the history: nodes of any kind may have been put
in any place and moved again. -/
theorem keepsContract_run {operations : List Operation} (hlegal : Legal empty operations) :
    KeepsContract (run operations) where
  follows := (wellFormed_run hlegal).follows_elementChildren
  nextSibling_iff _ _ := (wellFormed_run hlegal).nextElement_iff_previousElement
  select_all hregular := by
    refine ⟨[⟨⟨none, []⟩, []⟩], by decide, ?_⟩
    rw [(wellFormed_run hlegal).select_group_single hregular]
    exact List.filter_eq_self.2 fun _ _ => rfl
  select_compound hregular compound :=
    ⟨(wellFormed_run hlegal).select_single hregular compound,
      (wellFormed_run hlegal).select_group_single hregular compound⟩

/-- A history that leaves texts and a comment among list items, moves the first item behind the
second, and puts the root below an element that belongs to nothing. -/
def mixedRow : List Operation :=
  [.createDoctype "html".toList, .append root 1, .appendElement root ⟨none, "ul".toList⟩ [],
    .createText "-".toList, .append 2 3, .appendElement 2 ⟨none, "li".toList⟩ [],
    .createComment "note".toList, .append 2 5, .appendElement 2 ⟨some "x".toList, "li".toList⟩ [],
    .append 2 4, .appendElement 4 ⟨none, "b".toList⟩ [], .createText "-".toList, .append 2 8,
    .createElement ⟨none, "div".toList⟩, .append 9 root]

theorem keepsContract_run_mixedRow : Legal empty mixedRow ∧ KeepsContract (run mixedRow) ∧
    (run mixedRow).Regular ∧ (run mixedRow).children 2 = [3, 5, 6, 4, 8] ∧
    nextSibling (run mixedRow) 6 = some 4 ∧ (run mixedRow).elements = [2, 6, 4, 7] :=
  have hlegal : Legal empty mixedRow := by decide +kernel
  ⟨hlegal, keepsContract_run hlegal, by decide +kernel⟩

end Document

end StyleInline
