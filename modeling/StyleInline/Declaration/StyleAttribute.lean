import StyleInline.Declaration.Segment

/-!
# Style attributes

The `style` attribute of an element holds a list of declarations.  Styling an
element reads the attribute leniently, writes the rule's declarations over it and
writes the whole back.

## Main definitions

* `StyleAttribute.merge` — the attribute text after a rule has been written into it.
* `StyleAttribute.Dropped` — a segment that was given up on the way, with its wording.
-/

namespace StyleInline.StyleAttribute

/-- A segment of a style attribute that states no declaration and was given up. -/
structure Dropped where
  segment : Text
deriving Repr, DecidableEq

/-- The wording in which a dropped segment is reported. -/
def Dropped.message (d : Dropped) : Text :=
  "dropping malformed inline style segment '".toList ++ d.segment ++ "'".toList

/-- The segments that reading the attribute gives up, in the order of the text. -/
def dropped (style : Text) : List Dropped :=
  (Declarations.malformedSegments style).map Dropped.mk

/-- The text of the attribute after the declarations of a rule have been written
over it.  An absent attribute counts as an empty one. -/
def merge (style : Option Text) (rule : Declarations) : Text :=
  Declarations.render ((Declarations.salvage (style.getD [])).merge rule)

/-- The segments given up by `merge`. -/
def droppedByMerge (style : Option Text) : List Dropped := dropped (style.getD [])

@[simp] theorem droppedByMerge_none : droppedByMerge none = [] := rfl

end StyleInline.StyleAttribute
