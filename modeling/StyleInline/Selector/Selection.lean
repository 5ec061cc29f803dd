import StyleInline.Selector.Matching

/-!
# Selection

A selector is evaluated from left to right below a context node.  Each step walks all
elements below the context in document order and keeps those that stand in the right
relation to an element of the step before, so what is selected is in document order and
holds no element twice.

## Main definitions

* `Selector.walk` — one step over the elements below the context.
* `Selector.select` — the elements that a selector selects.
* `SelectorGroup.select`, `SelectorGroup.first?` — all elements that a group selects; the
  first of them.
-/

namespace StyleInline

variable {T H : Type} [ElementTree T H] [DecidableEq H]

open ElementTree

namespace Selector

/-- Whether `e`, a child of `parent`, stands to an element of `current` as the
combinator says.  `inside` says that `parent` or an element above it is in `current`. -/
def related (t : T) (combinator : Combinator) (current : List H) (parent : H) (inside : Bool)
    (e : H) : Bool :=
  match combinator with
  | .descendant => inside
  | .child => current.contains parent
  | .adjacent => (previousSibling t e).any current.contains

/-- The elements of a forest, in document order, that satisfy the compound and stand to
an element of `current` as the combinator says.  The trees of the forest are children
of `parent`. -/
def walk (t : T) (combinator : Combinator) (compound : Compound) (current : List H) :
    (parent : H) → (inside : Bool) → Forest H → List H
  | _, _, .nil => []
  | parent, inside, .cons e children siblings =>
    let below := walk t combinator compound current e (inside || current.contains e) children
    let behind := walk t combinator compound current parent inside siblings
    if related t combinator current parent inside e && compound.holdsAfter t e combinator
    then e :: (below ++ behind) else below ++ behind

/-- The elements that one step selects, given those of the step before. -/
def step (t : T) (context : H) (forest : Forest H) (current : List H)
    (next : Combinator × Compound) : List H :=
  walk t next.1 next.2 current context (current.contains context) forest

/-- The elements below `context` that a selector selects, in document order. -/
def select (t : T) (s : Selector) (context : H) : List H :=
  s.steps.foldl (step t context (below t context)) [context]

@[simp] theorem walk_nil (t : T) (combinator : Combinator) (compound : Compound)
    (current : List H) (parent : H) (inside : Bool) :
    walk t combinator compound current parent inside .nil = [] := rfl

/-- A walk yields elements of the forest, in their order. -/
theorem walk_sublist_preorder (t : T) (combinator : Combinator) (compound : Compound)
    (current : List H) (parent : H) (inside : Bool) (forest : Forest H) :
    (walk t combinator compound current parent inside forest).Sublist forest.preorder := by
  induction forest generalizing parent inside with
  | nil => exact .refl _
  | cons e children siblings ihc ihs =>
    simp only [walk, Forest.preorder_cons]
    have h := (ihc e (inside || current.contains e)).append (ihs parent inside)
    split
    · exact h.cons_cons e
    · exact h.cons e

end Selector

namespace SelectorGroup

/-- The elements below `context` that the selectors of a group select: those of the
first, then those that the second adds, and so on. -/
def select (t : T) (group : SelectorGroup) (context : H) : List H :=
  (group.flatMap fun s => Selector.select t s context).eraseDups

/-- The first element that a group selects. -/
def first? (t : T) (group : SelectorGroup) (context : H) : Option H :=
  (select t group context).head?

@[simp] theorem select_nil (t : T) (context : H) : select t [] context = [] := rfl

/-- A group selects what its selectors select. -/
theorem mem_select_iff {t : T} {group : SelectorGroup} {context e : H} :
    e ∈ select t group context ↔ ∃ s ∈ group, e ∈ Selector.select t s context := by
  rw [select, List.mem_eraseDups, List.mem_flatMap]

end SelectorGroup

end StyleInline
