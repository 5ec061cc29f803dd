import StyleInline.Declaration.StyleAttribute
import StyleInline.Selector.Selection
import StyleInline.Stylesheet.Compiled

/-!
# Styling a tree

Applying a compiled sheet to a tree goes through the rules in ranking order.  Each rule
is written into the `style` attribute of every element that it selects at that moment.
Of two rules that give an element the same property, the one applied later, which ranks
lower, has the last word.

Segments of a `style` attribute that state no declaration are lost when the attribute is
first written; they can be listed.

## Main definitions

* `CompiledSheet.apply` — the tree after all rules.
* `CompiledSheet.dropped` — the segments lost on the way.
* `inlineStyles` — both, for the text of a sheet.
-/

namespace StyleInline

variable {T H : Type} [StyledTree T H]

open ElementTree StyledTree

namespace Styling

/-- The name of the attribute that rules are written into. -/
def styleName : Text := "style".toList

/-- The tree with declarations written into the `style` attribute of one element. -/
def styleElement (declarations : Declarations) (t : T) (e : H) : T :=
  setAttribute t e styleName (StyleAttribute.merge (attribute? t e styleName) declarations)

/-- The tree with declarations written into the `style` attributes of elements, one after
the other. -/
def styleElements (declarations : Declarations) (t : T) (es : List H) : T :=
  es.foldl (styleElement declarations) t

/-- The segments lost when declarations are written into the `style` attributes of
elements, one after the other. -/
def droppedFromElements (declarations : Declarations) : T → List H → List StyleAttribute.Dropped
  | _, [] => []
  | t, e :: rest =>
    StyleAttribute.droppedByMerge (attribute? t e styleName)
      ++ droppedFromElements declarations (styleElement declarations t e) rest

@[simp] theorem styleElements_nil (declarations : Declarations) (t : T) :
    styleElements declarations t [] = t := rfl

@[simp] theorem styleElements_cons (declarations : Declarations) (t : T) (e : H) (es : List H) :
    styleElements declarations t (e :: es)
      = styleElements declarations (styleElement declarations t e) es := rfl

variable [DecidableEq H]

/-- The elements that a rule selects in a tree. -/
def selected (rule : CompiledRule) (t : T) : List H :=
  SelectorGroup.select t rule.branches (searchRoot t)

/-- The tree after one rule: it selects in the tree as it stands, and what is selected
is styled. -/
def applyRule (t : T) (rule : CompiledRule) : T :=
  styleElements rule.declarations t (selected rule t)

/-- The tree after rules, one after the other. -/
def applyRules (t : T) (rules : List CompiledRule) : T := rules.foldl applyRule t

/-- The segments lost when rules are applied one after the other. -/
def droppedByRules : T → List CompiledRule → List StyleAttribute.Dropped
  | _, [] => []
  | t, rule :: rest =>
    droppedFromElements rule.declarations t (selected rule t)
      ++ droppedByRules (applyRule t rule) rest

@[simp] theorem applyRules_nil (t : T) : applyRules t [] = t := rfl

@[simp] theorem applyRules_cons (t : T) (rule : CompiledRule) (rules : List CompiledRule) :
    applyRules t (rule :: rules) = applyRules (applyRule t rule) rules := rfl

end Styling

namespace CompiledSheet

variable [DecidableEq H]

/-- The tree after all rules of a sheet. -/
def apply (sheet : CompiledSheet) (t : T) : T := Styling.applyRules t sheet.rules

/-- The segments of `style` attributes that are lost when a sheet is applied, in the
order in which they are lost. -/
def dropped (sheet : CompiledSheet) (t : T) : List StyleAttribute.Dropped :=
  Styling.droppedByRules t sheet.rules

@[simp] theorem apply_mk_nil (t : T) : apply ⟨[]⟩ t = t := rfl

@[simp] theorem dropped_mk_nil (t : T) : dropped ⟨[]⟩ t = [] := rfl

end CompiledSheet

variable [DecidableEq H]

/-- The tree styled by the text of a sheet, and the segments lost on the way. -/
def inlineStyles (text : Text) (t : T) : Except StyleError (T × List StyleAttribute.Dropped) :=
  (CompiledSheet.ofText text).map fun sheet => (sheet.apply t, sheet.dropped t)

end StyleInline
