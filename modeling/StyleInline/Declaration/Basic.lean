import StyleInline.OrderedMap
import StyleInline.Text.Blank

/-!
# Declarations

A declaration gives one property one value.  A block of declarations is an ordered
map: a property that is declared again keeps its place and takes the new value.

## Main definitions

* `Declarations` — a block, as an ordered map from properties to values.
* `Declarations.render` — its written form, `property:value` joined by `;`.
* `Declaration.IsWellFormed` — the declarations whose written form can be read back.
-/

namespace StyleInline

/-- A property and the value it is given. -/
abbrev Declaration := Text × Text

/-- A block of declarations. -/
abbrev Declarations := OrderedMap Text Text

namespace Declaration

/-- The written form of one declaration. -/
def render (d : Declaration) : Text := d.1 ++ ':' :: d.2

/-- The declarations that keep their shape when written and read again: the
property is not empty, trimmed, in lower case and free of `:` and `;`; the value is
trimmed and free of `;`. -/
structure IsWellFormed (d : Declaration) : Prop where
  property_ne_nil : d.1 ≠ []
  trim_property : Text.trim d.1 = d.1
  lower_property : Text.lower d.1 = d.1
  colon_notMem : ':' ∉ d.1
  semicolon_notMem_property : ';' ∉ d.1
  trim_value : Text.trim d.2 = d.2
  semicolon_notMem_value : ';' ∉ d.2

end Declaration

/-- The written form of a list of declarations. -/
def renderDeclarations : List Declaration → Text
  | [] => []
  | [d] => d.render
  | d :: e :: rest => d.render ++ ';' :: renderDeclarations (e :: rest)

namespace Declarations

/-- The written form of a block. -/
def render (block : Declarations) : Text := renderDeclarations block.entries

@[simp] theorem render_empty : render OrderedMap.empty = [] := rfl

end Declarations

end StyleInline
