import StyleInline.Forest
import StyleInline.Text.Basic

/-!
# Trees of elements

What selecting and styling need to know of a tree: how to step from one element to
its neighbours, and what an element is called and carries.  Anything that offers
these steps can be searched; anything that in addition lets an attribute be written
can be styled.

## Main definitions

* `ElementTree`, `StyledTree` — the two interfaces.
* `ElementTree.below` — the elements below a node, as a forest.
-/

namespace StyleInline

/-- A tree whose elements have handles of type `H`.  Other nodes may have handles too;
the steps lead to elements only. -/
class ElementTree (T : Type) (H : outParam Type) where
  /-- A number that no chain of steps down and forward can exceed. -/
  bound : T → Nat
  /-- The first element among the children of a node. -/
  firstChild : T → H → Option H
  /-- The next element behind an element. -/
  nextSibling : T → H → Option H
  /-- The next element before an element. -/
  previousSibling : T → H → Option H
  /-- The name of an element, without a qualifier. -/
  localName : T → H → Text
  /-- The value of an attribute. -/
  attribute? : T → H → Text → Option Text

/-- A tree whose attributes can be written. -/
class StyledTree (T : Type) (H : outParam Type) extends ElementTree T H where
  /-- The node that every element lies below. -/
  searchRoot : T → H
  /-- Writes an attribute of an element. -/
  setAttribute : T → H → Text → Text → T

namespace ElementTree

variable {T H : Type} [ElementTree T H]

/-- The forest that begins at an element, found by at most `fuel` steps down or
forward along each path. -/
def forestFrom (t : T) : (fuel : Nat) → Option H → Forest H
  | 0, _ => .nil
  | _, none => .nil
  | fuel + 1, some e =>
    .cons e (forestFrom t fuel (firstChild t e)) (forestFrom t fuel (nextSibling t e))

/-- The elements below a node. -/
def below (t : T) (node : H) : Forest H := forestFrom t (bound t) (firstChild t node)

@[simp] theorem forestFrom_none (t : T) (fuel : Nat) : forestFrom t fuel none = .nil := by
  cases fuel <;> rfl

end ElementTree

end StyleInline
