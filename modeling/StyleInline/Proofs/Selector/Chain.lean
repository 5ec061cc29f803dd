import StyleInline.Document.Navigation
import StyleInline.Proofs.ElementTree.Navigation
import StyleInline.Selector.Selection

/-!
# Chains of elements

What a selector means: an element is selected when it ends a chain of elements below the
context, one for each compound, in which neighbours stand as the combinators say.  The
evaluation goes from left to right and keeps sets of elements instead of chains.

One step of the evaluation is described by `mem_step_iff`, and by induction over the steps
that follow, `mem_foldl_step_iff` turns what is left at the end into chains.

## Main definitions

* `Combinator.Relates` — how two neighbours of a chain stand.
* `Compound.Suits` — what is asked of an element that a combinator leads to.
* `Selector.Chain` — the chains for the compounds behind an element.
-/

namespace StyleInline

open ElementTree

variable {T H : Type} [ElementTree T H]

/-! ## Meaning -/

/-- How an element `a` stands to the one that a combinator leads to. -/
def Combinator.Relates (tree : Forest H) : Combinator → (a b : H) → Prop
  | .descendant => tree.Ancestor
  | .child => tree.Parent
  | .adjacent => tree.Adjacent

/-- What is asked of an element that a combinator leads to: it has the tag, if there is
one, and satisfies the predicates.  Behind `+` those on place are not asked for. -/
def Compound.Suits (t : T) (e : H) (combinator : Combinator) (compound : Compound) : Prop :=
  (∀ tag ∈ compound.tag, Text.equalsIgnoringCase (localName t e) tag = true) ∧
    ∀ p ∈ compound.predicates,
      (combinator = .adjacent → p.isPositional = false) → p.holds t e = true

/-- `e` ends a chain that begins behind `a`, with one element below `context` for each of
the steps. -/
def Selector.Chain (t : T) (tree : Forest H) (context : H) :
    (a : H) → List (Combinator × Compound) → (e : H) → Prop
  | a, [], e => e = a
  | a, (combinator, compound) :: steps, e =>
    ∃ b, tree.Ancestor context b ∧ combinator.Relates tree a b ∧ compound.Suits t b combinator ∧
      Selector.Chain t tree context b steps e

/-- An element satisfies a compound when it has its tag and satisfies its predicates. -/
theorem Compound.holds_iff {t : T} {e : H} {compound : Compound} :
    compound.holds t e = true ↔
      (∀ tag ∈ compound.tag, Text.equalsIgnoringCase (localName t e) tag = true) ∧
        ∀ p ∈ compound.predicates, p.holds t e = true := by
  rw [Compound.holds, Bool.and_eq_true, List.all_eq_true]
  unfold Compound.tagHolds
  cases compound.tag <;> simp

/-- The test of an element behind a combinator is what is asked of it. -/
theorem Compound.holdsAfter_iff {t : T} {e : H} {combinator : Combinator} {compound : Compound} :
    compound.holdsAfter t e combinator = true ↔ compound.Suits t e combinator := by
  by_cases h : combinator = .adjacent
  · rw [Compound.holdsAfter, if_pos h, Compound.holdsBeside, Compound.holds_iff, Compound.Suits]
    simp [Compound.unplaced, h]
  · rw [Compound.holdsAfter, if_neg h, Compound.holds_iff, Compound.Suits]
    simp [h]

namespace Selector

variable [DecidableEq H]

/-! ## One step -/

/-- A walk yields labels of the forest. -/
theorem mem_preorder_of_mem_walk {t : T} {combinator : Combinator} {compound : Compound}
    {current : List H} {parent e : H} {inside : Bool} {forest : Forest H}
    (h : e ∈ walk t combinator compound current parent inside forest) : e ∈ forest.preorder :=
  (walk_sublist_preorder ..).subset h

/-- A walk yields the root of a forest if it stands right and suits, and what the walks
below and behind it yield. -/
theorem mem_walk_cons_iff {t : T} {combinator : Combinator} {compound : Compound}
    {current : List H} {parent root e : H} {inside : Bool} {children siblings : Forest H} :
    e ∈ walk t combinator compound current parent inside (.cons root children siblings) ↔
      (e = root ∧ related t combinator current parent inside root = true
        ∧ compound.Suits t root combinator) ∨
      e ∈ walk t combinator compound current root (inside || current.contains root) children ∨
      e ∈ walk t combinator compound current parent inside siblings := by
  rw [walk]
  simp only [← Compound.holdsAfter_iff]
  split
  · next h =>
    rw [Bool.and_eq_true] at h
    simp [h.1, h.2]
  · next h =>
    rw [Bool.and_eq_true] at h
    simp [h]

/-- The elements below those of `current`, or below the parent if that is inside. -/
theorem mem_walk_descendant_iff {t : T} {compound : Compound} {current : List H} {parent e : H}
    {inside : Bool} {forest : Forest H} :
    e ∈ walk t .descendant compound current parent inside forest ↔
      compound.Suits t e .descendant ∧
        ((inside = true ∧ e ∈ forest.preorder) ∨ ∃ a ∈ current, forest.Above a e) := by
  induction forest generalizing parent inside with
  | nil => simp
  | cons root children siblings ihc ihs =>
    rw [mem_walk_cons_iff, ihc, ihs]
    simp only [related, Forest.above_cons_iff, Forest.preorder_cons, List.mem_cons,
      List.mem_append, Bool.or_eq_true, List.contains_iff_mem]
    grind

/-- The children of the elements of `current`. -/
theorem mem_walk_child_iff {t : T} {compound : Compound} {current : List H} {parent e : H}
    {inside : Bool} {forest : Forest H} :
    e ∈ walk t .child compound current parent inside forest ↔
      compound.Suits t e .child ∧
        ((parent ∈ current ∧ e ∈ forest.roots) ∨ ∃ a ∈ current, forest.Parent a e) := by
  induction forest generalizing parent inside with
  | nil => simp
  | cons root children siblings ihc ihs =>
    rw [mem_walk_cons_iff, ihc, ihs]
    simp only [related, Forest.parent_cons_iff, Forest.roots_cons, List.mem_cons,
      List.contains_iff_mem]
    grind

/-- The elements behind those of `current`. -/
theorem mem_walk_adjacent_iff {t : T} {compound : Compound} {current : List H} {parent e : H}
    {inside : Bool} {forest : Forest H} :
    e ∈ walk t .adjacent compound current parent inside forest ↔
      compound.Suits t e .adjacent ∧
        e ∈ forest.preorder ∧ ∃ a ∈ current, previousSibling t e = some a := by
  induction forest generalizing parent inside with
  | nil => simp
  | cons root children siblings ihc ihs =>
    rw [mem_walk_cons_iff, ihc, ihs]
    simp only [related, Forest.preorder_cons, List.mem_cons, List.mem_append, Option.any_eq_true,
      List.contains_iff_mem]
    grind

section Navigation

variable {t : T} {container context : H} {elements below behind : Forest H}

/-- One step yields the elements below the context that suit and stand to an element of
the step before as the combinator says. -/
theorem mem_step_iff (h : Navigates t container elements)
    (hp : (Forest.single container elements).Place context below behind) {current : List H}
    (hcurrent : ∀ a ∈ current, a ∈ below.preorder) {combinator : Combinator}
    {compound : Compound} {e : H} :
    e ∈ step t context below current (combinator, compound) ↔
      (Forest.single container elements).Ancestor context e ∧
        ∃ a ∈ current, combinator.Relates (.single container elements) a e ∧
          compound.Suits t e combinator := by
  have hcontext : context ∉ current := fun hc => h.notMem_below hp (hcurrent _ hc)
  have habove : ∀ a ∈ current,
      ((Forest.single container elements).Ancestor a e ↔ below.Above a e) := by
    intro a ha
    rw [Forest.ancestor_iff_above h.nodup,
      Forest.above_iff_of_mem_below h.nodup hp (hcurrent a ha)]
  have hparent : ∀ a ∈ current,
      ((Forest.single container elements).Parent a e ↔ below.Parent a e) := by
    intro a ha
    exact Forest.parent_iff_of_mem_below h.nodup hp (hcurrent a ha)
  have helement : ∀ x ∈ below.preorder, x ∈ elements.preorder := by
    intro x hx
    exact (Navigates.preorder_below_sublist hp).subset hx
  rw [← h.mem_below_iff hp]
  unfold step
  constructor
  · intro he
    refine ⟨mem_preorder_of_mem_walk he, ?_⟩
    cases combinator with
    | descendant =>
      obtain ⟨hsuits, ⟨hinside, -⟩ | ⟨a, ha, hae⟩⟩ := mem_walk_descendant_iff.1 he
      · exact absurd (List.contains_iff_mem.1 hinside) hcontext
      · exact ⟨a, ha, (habove a ha).2 hae, hsuits⟩
    | child =>
      obtain ⟨hsuits, ⟨hc, -⟩ | ⟨a, ha, hae⟩⟩ := mem_walk_child_iff.1 he
      · exact absurd hc hcontext
      · exact ⟨a, ha, (hparent a ha).2 hae, hsuits⟩
    | adjacent =>
      obtain ⟨hsuits, hmem, a, ha, hae⟩ := mem_walk_adjacent_iff.1 he
      have hadjacent := (h.previousSibling_eq_some_iff (helement e hmem) a).1 hae
      exact ⟨a, ha, Forest.adjacent_single_iff.2 hadjacent, hsuits⟩
  · rintro ⟨hmem, a, ha, hae, hsuits⟩
    cases combinator with
    | descendant => exact mem_walk_descendant_iff.2 ⟨hsuits, .inr ⟨a, ha, (habove a ha).1 hae⟩⟩
    | child => exact mem_walk_child_iff.2 ⟨hsuits, .inr ⟨a, ha, (hparent a ha).1 hae⟩⟩
    | adjacent =>
      have hprevious := (h.previousSibling_eq_some_iff (helement e hmem) a).2
        (Forest.adjacent_single_iff.1 hae)
      exact mem_walk_adjacent_iff.2 ⟨hsuits, hmem, a, ha, hprevious⟩

/-- The first step yields the elements below the context that suit. -/
theorem mem_step_context_iff (h : Navigates t container elements)
    (hp : (Forest.single container elements).Place context below behind) {compound : Compound}
    {e : H} :
    e ∈ step t context below [context] (.descendant, compound) ↔
      (Forest.single container elements).Ancestor context e ∧ compound.Suits t e .descendant := by
  rw [← h.mem_below_iff hp, step, mem_walk_descendant_iff]
  constructor
  · rintro ⟨hsuits, ⟨-, he⟩ | ⟨a, ha, k, s, hk, he⟩⟩
    · exact ⟨he, hsuits⟩
    · rw [List.mem_singleton] at ha
      exact absurd (ha ▸ hk.mem) (h.notMem_below hp)
  · rintro ⟨he, hsuits⟩
    exact ⟨hsuits, .inl ⟨by simp, he⟩⟩

/-! ## All steps -/

/-- The steps behind the first yield the ends of the chains that begin in `current`. -/
theorem mem_foldl_step_iff (h : Navigates t container elements)
    (hp : (Forest.single container elements).Place context below behind)
    (steps : List (Combinator × Compound)) {current : List H}
    (hcurrent : ∀ a ∈ current, a ∈ below.preorder) {e : H} :
    e ∈ steps.foldl (step t context below) current ↔
      ∃ a ∈ current, Chain t (.single container elements) context a steps e := by
  induction steps generalizing current with
  | nil => simp [Chain]
  | cons next steps ih =>
    obtain ⟨combinator, compound⟩ := next
    have hnext : ∀ b ∈ step t context below current (combinator, compound), b ∈ below.preorder :=
      fun b hb => mem_preorder_of_mem_walk hb
    rw [List.foldl_cons, ih hnext]
    simp only [mem_step_iff h hp hcurrent, Chain]
    constructor
    · rintro ⟨b, ⟨hb, a, ha, hab, hsuits⟩, hchain⟩
      exact ⟨a, ha, b, hb, hab, hsuits, hchain⟩
    · rintro ⟨a, ha, b, hb, hab, hsuits, hchain⟩
      exact ⟨b, ⟨hb, a, ha, hab, hsuits⟩, hchain⟩

/-- However many steps are taken, the elements stay in document order. -/
theorem foldl_step_sublist (t : T) (context : H) (forest : Forest H)
    (steps : List (Combinator × Compound)) {current : List H}
    (h : current.Sublist forest.preorder) :
    (steps.foldl (step t context forest) current).Sublist forest.preorder := by
  induction steps generalizing current with
  | nil => exact h
  | cons next steps ih => exact ih (walk_sublist_preorder ..)

/-- What is selected stands below the context, in document order. -/
theorem select_sublist_preorder (t : T) (s : Selector) (context : H) :
    (select t s context).Sublist (ElementTree.below t context).preorder := by
  rw [select, steps, List.foldl_cons]
  exact foldl_step_sublist t context _ s.rest (walk_sublist_preorder ..)

/-- What is selected below the container or an element stands in the order of the elements. -/
theorem select_sublist_elements (h : Navigates t container elements)
    (hcontext : context = container ∨ context ∈ elements.preorder) (s : Selector) :
    (select t s context).Sublist elements.preorder := by
  have hmem : context ∈ (Forest.single container elements).preorder := by
    simpa [Forest.single] using hcontext
  obtain ⟨below, behind, hp⟩ := Forest.mem_preorder_iff_place.1 hmem
  have hbelow := select_sublist_preorder t s context
  rw [h.below_eq hp] at hbelow
  exact hbelow.trans (Navigates.preorder_below_sublist hp)

/-- Nothing is selected twice. -/
theorem nodup_select (h : Navigates t container elements)
    (hcontext : context = container ∨ context ∈ elements.preorder) (s : Selector) :
    (select t s context).Nodup :=
  h.nodup_elements.sublist (select_sublist_elements h hcontext s)

/-- **A selector selects the ends of its chains**, in document order and each once. -/
theorem select_eq_ends_of_chains (h : Navigates t container elements) (s : Selector)
    (hcontext : context = container ∨ context ∈ elements.preorder) :
    (∀ e, e ∈ select t s context ↔
      ∃ first, (Forest.single container elements).Ancestor context first ∧
        s.first.Suits t first .descendant ∧
        Chain t (.single container elements) context first s.rest e) ∧
      (select t s context).Sublist elements.preorder ∧ (select t s context).Nodup := by
  have hmem : context ∈ (Forest.single container elements).preorder := by
    simpa [Forest.single] using hcontext
  obtain ⟨below, behind, hp⟩ := Forest.mem_preorder_iff_place.1 hmem
  have hselect : select t s context
      = s.rest.foldl (step t context below)
          (step t context below [context] (.descendant, s.first)) := by
    rw [select, h.below_eq hp, steps, List.foldl_cons]
  refine ⟨?_, select_sublist_elements h hcontext s, nodup_select h hcontext s⟩
  intro e
  have hfirst : ∀ a ∈ step t context below [context] (.descendant, s.first), a ∈ below.preorder :=
    fun a ha => mem_preorder_of_mem_walk ha
  rw [hselect, mem_foldl_step_iff h hp s.rest hfirst]
  simp only [mem_step_context_iff h hp, and_assoc]

end Navigation

/-! ## A row of siblings -/

/-- The document `<div><b/><i/><b/></div>`. -/
def rowDocument : Document := ⟨#[
  ⟨.ofKind .document, none, [1]⟩,
  ⟨⟨.element ⟨none, ['d', 'i', 'v']⟩, .empty⟩, some 0, [2, 3, 4]⟩,
  ⟨⟨.element ⟨none, ['b']⟩, .empty⟩, some 1, []⟩,
  ⟨⟨.element ⟨none, ['i']⟩, .empty⟩, some 1, []⟩,
  ⟨⟨.element ⟨none, ['b']⟩, .empty⟩, some 1, []⟩]⟩

/-- Its elements: the `div`, and the row below it. -/
def rowElements : Forest Handle := .single 1 (.cons 2 .nil (.cons 3 .nil (.single 4 .nil)))

/-- The selector `div > i + b:first-child`. -/
def rowSelector : Selector :=
  ⟨⟨some ['d', 'i', 'v'], []⟩,
    [(.child, ⟨some ['i'], []⟩), (.adjacent, ⟨some ['b'], [.firstChild]⟩)]⟩

/-- The neighbours in the row. -/
private theorem adjacent_rowElements_iff {a b : Handle} :
    rowElements.Adjacent a b ↔ (a = 2 ∧ b = 3) ∨ (a = 3 ∧ b = 4) := by
  simp only [Forest.Adjacent, rowElements, Forest.single, Forest.place_cons_iff,
    Forest.not_place_nil, or_false, false_or, or_and_right, exists_or]
  grind [Forest.roots_nil, Forest.roots_cons]

theorem navigates_rowDocument : Navigates rowDocument 0 rowElements where
  nodup := by decide
  firstChild_eq := by
    intro n below behind h
    simp only [rowElements, Forest.single, Forest.place_cons_iff, Forest.not_place_nil, or_false,
      false_or] at h
    rcases h with ⟨rfl, rfl, rfl⟩ | ⟨rfl, rfl, rfl⟩ | ⟨rfl, rfl, rfl⟩ | ⟨rfl, rfl, rfl⟩ |
      ⟨rfl, rfl, rfl⟩ <;> rfl
  nextSibling_eq := by
    intro e below behind h
    simp only [rowElements, Forest.single, Forest.place_cons_iff, Forest.not_place_nil, or_false,
      false_or] at h
    rcases h with ⟨rfl, rfl, rfl⟩ | ⟨rfl, rfl, rfl⟩ | ⟨rfl, rfl, rfl⟩ | ⟨rfl, rfl, rfl⟩ <;> rfl
  previousSibling_eq_some_iff := by
    intro e he a
    have hsteps : ∀ e ∈ rowElements.preorder, previousSibling rowDocument e =
        if e = 3 then some 2 else if e = 4 then some 3 else none := by decide
    rw [adjacent_rowElements_iff, hsteps e he]
    grind
  reach_le_bound := by decide

/-- The second `b` is reached through its neighbour although it is no first child. -/
theorem select_eq_ends_of_chains_row :
    Navigates rowDocument 0 rowElements ∧
      ∃ first, (Forest.single 0 rowElements).Ancestor 0 first ∧
        rowSelector.first.Suits rowDocument first .descendant ∧
        Chain rowDocument (.single 0 rowElements) 0 first rowSelector.rest 4 :=
  ⟨navigates_rowDocument,
    ((select_eq_ends_of_chains navigates_rowDocument rowSelector (.inl rfl)).1 4).1 (by decide)⟩

end Selector

end StyleInline
