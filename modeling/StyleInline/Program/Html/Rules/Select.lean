import StyleInline.Program.Html.Rules.Table

/-!
# The rules in fields with options

A field with options holds options, groups of them and lines between them.  Other tags are
of no account, but for those of other fields and, in a table, those of its parts, which end
the field.

## Main definitions

* `Rules.inSelect` — the rule in a field with options.
* `Rules.inSelectInTable` — the same inside a table.
-/

namespace StyleInline.Html.Rules

open Builder

/-- Ends the innermost element if it is the HTML element of a name. -/
def popNamed (b : Builder) (name : String) : Builder :=
  if b.topIs (·.isHtml name) then b.pop else b

/-- Ends the field that is open. -/
def endSelect (b : Builder) : Builder := (b.popThrough (·.isHtml "select")).resetMode

/-- A start tag in a field with options. -/
def selectStart (b : Builder) (tag : Tag) : Outcome :=
  let name := tag.name
  let isOpen := b.inSelectScope (·.isHtml "select")
  if name = "html".toList then mergeHtml b tag
  else if name = "option".toList then .done ((popNamed b "option").push tag)
  else if name = "optgroup".toList then
    .done ((popNamed (popNamed b "option") "optgroup").push tag)
  else if name = "hr".toList then
    .done ((popNamed (popNamed b "option") "optgroup").addEmpty tag).2
  else if name = "select".toList then .done (if isOpen then endSelect b else b)
  else if Element.among ["input", "keygen", "textarea"] name then
    if isOpen then .again (endSelect b) else ignore b
  else if Element.among ["script", "template"] name then .done (headContent b tag)
  else ignore b

/-- The end tag of a group of options: it ends the option that is open in the group, too. -/
def endOptions (b : Builder) : Builder :=
  match b.stack with
  | option :: group :: _ =>
    popNamed (if option.isHtml "option" && group.isHtml "optgroup" then b.pop else b) "optgroup"
  | _ => popNamed b "optgroup"

/-- An end tag in a field with options. -/
def selectEnd (b : Builder) (name : Text) : Outcome :=
  if name = "optgroup".toList then .done (endOptions b)
  else if name = "option".toList then .done (popNamed b "option")
  else if name = "select".toList then
    .done (if b.inSelectScope (·.isHtml "select") then endSelect b else b)
  else if name = "template".toList then templateEnd b
  else ignore b

/-- The rule in a field with options. -/
def inSelect (b : Builder) (token : Token) : Outcome :=
  match token with
  | .comment text => .done (b.addComment text)
  | .char c => .done (if c = '\x00' then b else b.addChar c)
  | .startTag tag => selectStart b tag
  | .endTag name => selectEnd b name
  | _ => inBody b token

/-- Tags that end a field inside a table. -/
def endsSelect : Text → Bool :=
  Element.among ["caption", "table", "tbody", "td", "tfoot", "th", "thead", "tr"]

/-- The rule in a field with options inside a table. -/
def inSelectInTable (b : Builder) (token : Token) : Outcome :=
  match token with
  | .startTag tag => if endsSelect tag.name then .again (endSelect b) else inSelect b token
  | .endTag name =>
    if endsSelect name then
      if b.inTableScope (·.isNamed name) then .again (endSelect b) else ignore b
    else inSelect b token
  | _ => inSelect b token

end StyleInline.Html.Rules
