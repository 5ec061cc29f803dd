/-!
# Ordered forests

A finite ordered forest, written as first trees and their later siblings: a forest is
empty, or it is a root with the forest of its children and the forest of the trees
that stand behind it.  Documents, the elements below a node and parsed markup are all
seen this way, so that walking a tree is recursion on one type.

## Main definitions

* `Forest.preorder` — the labels in document order.
* `Forest.roots` — the labels of the trees themselves.
* `Forest.map` — the forest with its labels replaced.
-/

namespace StyleInline

/-- A finite ordered forest with labels of type `α`. -/
inductive Forest (α : Type) where
  /-- No tree. -/
  | nil
  /-- A tree with root `label`, and the trees behind it. -/
  | cons (label : α) (children siblings : Forest α)
deriving Repr, DecidableEq

namespace Forest

variable {α β : Type}

instance : Inhabited (Forest α) := ⟨nil⟩

/-- The labels in document order: a root before what is below it, and that before its
siblings. -/
def preorder : Forest α → List α
  | nil => []
  | cons a children siblings => a :: (children.preorder ++ siblings.preorder)

/-- The roots of the trees, in order. -/
def roots : Forest α → List α
  | nil => []
  | cons a _ siblings => a :: siblings.roots

/-- The number of labels. -/
def size : Forest α → Nat
  | nil => 0
  | cons _ children siblings => children.size + siblings.size + 1

/-- The forest with every label replaced. -/
def map (f : α → β) : Forest α → Forest β
  | nil => nil
  | cons a children siblings => cons (f a) (children.map f) (siblings.map f)

/-- One tree alone. -/
def single (a : α) (children : Forest α) : Forest α := cons a children nil

@[simp] theorem preorder_nil : (nil : Forest α).preorder = [] := rfl

@[simp] theorem preorder_cons (a : α) (children siblings : Forest α) :
    (cons a children siblings).preorder = a :: (children.preorder ++ siblings.preorder) := rfl

@[simp] theorem roots_nil : (nil : Forest α).roots = [] := rfl

@[simp] theorem roots_cons (a : α) (children siblings : Forest α) :
    (cons a children siblings).roots = a :: siblings.roots := rfl

/-- Replacing labels replaces them in document order. -/
@[simp] theorem preorder_map (f : α → β) (forest : Forest α) :
    (forest.map f).preorder = forest.preorder.map f := by
  induction forest with
  | nil => rfl
  | cons a children siblings ihc ihs => simp [map, ihc, ihs]

/-- The size is the number of labels in document order. -/
theorem length_preorder (forest : Forest α) : forest.preorder.length = forest.size := by
  induction forest with
  | nil => rfl
  | cons a children siblings ihc ihs => simp [size, ihc, ihs]

/-- A root stands in the document order. -/
theorem mem_preorder_of_mem_roots {a : α} {forest : Forest α} (h : a ∈ forest.roots) :
    a ∈ forest.preorder := by
  induction forest with
  | nil => simp at h
  | cons b children siblings _ ihs =>
    rcases List.mem_cons.1 h with rfl | h
    · simp
    · simp [ihs h]

end Forest

end StyleInline
