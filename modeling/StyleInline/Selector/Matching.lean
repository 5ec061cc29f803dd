import StyleInline.ElementTree
import StyleInline.Selector.Basic
import StyleInline.Text.Blank

/-!
# Matching one element

Whether an element of a tree satisfies a predicate or a compound.  Tags are compared
up to the case of ASCII letters; attribute names and values as they stand.

## Main definitions

* `Predicate.holds`, `Compound.holds` — one predicate; a tag and all predicates.
* `Compound.holdsBeside` — the same without the predicates on place.
-/

namespace StyleInline

/-- Whether an attribute value has `word` among its words. -/
def hasWord (value : Option Text) (word : Text) : Bool :=
  match value with
  | some text => (Text.asciiWords text).contains word
  | none => false

/-- Whether an attribute value is `stem`, or begins with `stem` and a dash. -/
def hasDashStem (value : Option Text) (stem : Text) : Bool :=
  match value with
  | some text => text == stem || (Text.dropStart? (stem ++ ['-']) text).isSome
  | none => false

variable {T H : Type} [ElementTree T H]

open ElementTree

/-- Whether an element satisfies a predicate. -/
def Predicate.holds (t : T) (e : H) : Predicate → Bool
  | .id value => attribute? t e "id".toList == some value
  | .hasClass name => hasWord (attribute? t e "class".toList) name
  | .present name => (attribute? t e name).isSome
  | .equals name value => attribute? t e name == some value
  | .word name value => hasWord (attribute? t e name) value
  | .dash name value => hasDashStem (attribute? t e name) value
  | .firstChild => (previousSibling t e).isNone
  | .lastChild => (nextSibling t e).isNone

namespace Compound

/-- Whether the tag of a compound, if it has one, is the name of an element. -/
def tagHolds (t : T) (e : H) (c : Compound) : Bool :=
  match c.tag with
  | some tag => Text.equalsIgnoringCase (localName t e) tag
  | none => true

/-- Whether an element satisfies a compound. -/
def holds (t : T) (e : H) (c : Compound) : Bool :=
  tagHolds t e c && c.predicates.all (Predicate.holds t e)

/-- The compound without its predicates on place. -/
def unplaced (c : Compound) : Compound :=
  { c with predicates := c.predicates.filter fun p => !p.isPositional }

/-- Whether an element that was reached as the next sibling satisfies a compound.  It
is the only element of its step, so predicates on place hold of it. -/
def holdsBeside (t : T) (e : H) (c : Compound) : Bool := holds t e c.unplaced

/-- Whether an element satisfies a compound that the given combinator leads to. -/
def holdsAfter (t : T) (e : H) (combinator : Combinator) (c : Compound) : Bool :=
  if combinator = .adjacent then holdsBeside t e c else holds t e c

end Compound

end StyleInline
