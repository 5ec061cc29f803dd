import StyleInline.Program.Html.Rules.Select

/-!
# The rules in templates, behind the body and in frames

What comes first in a template decides which rules its contents follow.  Behind the body
comments still have places of their own, and anything else goes back into it.  A page of
frames has sets of frames in the place of the body.

## Main definitions

* `Rules.inTemplate` — the rule in a template.
* `Rules.afterBody`, `Rules.afterPage` — the rules behind the body.
* `Rules.inFrameset`, `Rules.afterFrameset`, `Rules.afterFramePage` — the rules for frames.
* `Rules.apply` — the rule for the mode of a state, foreign content aside.
-/

namespace StyleInline.Html.Rules

open Builder

/-! ## Templates -/

/-- The rule in a template. -/
def inTemplate (b : Builder) (token : Token) : Outcome :=
  let become (mode : Mode) : Outcome :=
    againIn mode { b with templateModes := mode :: b.templateModes.tail }
  match token with
  | .startTag tag =>
    let name := tag.name
    if Element.isHeadContent name then .done (headContent b tag)
    else if Element.among ["caption", "colgroup", "tbody", "tfoot", "thead"] name then
      become .inTable
    else if name = "col".toList then become .inColumnGroup
    else if name = "tr".toList then become .inTableBody
    else if Element.isCell name then become .inRow
    else become .inBody
  | .endTag name => if name = "template".toList then templateEnd b else ignore b
  | _ => inBody b token

/-! ## Behind the body -/

/-- The rule behind the body. -/
def afterBody (b : Builder) (token : Token) : Outcome :=
  match token with
  | .comment text => .done (b.addHtmlComment text)
  | .char c => if Text.isAsciiBlank c then inBody b token else againIn .inBody b
  | .startTag tag => if tag.name = "html".toList then mergeHtml b tag else againIn .inBody b
  | .endTag name =>
    if name = "html".toList then .done (inMode .afterPage b) else againIn .inBody b
  | _ => ignore b

/-- The rule behind the outermost element. -/
def afterPage (b : Builder) (token : Token) : Outcome :=
  match token with
  | .comment text => .done (b.addPageComment text)
  | .char c => if Text.isAsciiBlank c then inBody b token else againIn .inBody b
  | .startTag tag => if tag.name = "html".toList then mergeHtml b tag else againIn .inBody b
  | .endTag _ => againIn .inBody b
  | _ => ignore b

/-! ## Frames -/

/-- The rule in a set of frames. -/
def inFrameset (b : Builder) (token : Token) : Outcome :=
  match token with
  | .comment text => .done (b.addComment text)
  | .char c => .done (if Text.isAsciiBlank c then b.addChar c else b)
  | .startTag tag =>
    let name := tag.name
    if name = "html".toList then mergeHtml b tag
    else if name = "frameset".toList then .done (b.push tag)
    else if name = "frame".toList then .done (b.addEmpty tag).2
    else if name = "noframes".toList then .done (headContent b tag)
    else ignore b
  | .endTag name =>
    if name = "frameset".toList && b.stack.length != 1 then
      .done (if b.pop.topIs (·.isHtml "frameset") then b.pop else inMode .afterFrameset b.pop)
    else ignore b
  | _ => ignore b

/-- The rule behind the sets of frames. -/
def afterFrameset (b : Builder) (token : Token) : Outcome :=
  match token with
  | .comment text => .done (b.addComment text)
  | .char c => .done (if Text.isAsciiBlank c then b.addChar c else b)
  | .startTag tag =>
    if tag.name = "html".toList then mergeHtml b tag
    else if tag.name = "noframes".toList then .done (headContent b tag)
    else ignore b
  | .endTag name =>
    if name = "html".toList then .done (inMode .afterFramePage b) else ignore b
  | _ => ignore b

/-- The rule behind the outermost element of a page of frames. -/
def afterFramePage (b : Builder) (token : Token) : Outcome :=
  match token with
  | .comment text => .done (b.addPageComment text)
  | .char c => if Text.isAsciiBlank c then inBody b token else ignore b
  | .startTag tag =>
    if tag.name = "html".toList then mergeHtml b tag
    else if tag.name = "noframes".toList then .done (headContent b tag)
    else ignore b
  | _ => ignore b

/-! ## All modes -/

/-- The rule for the mode of a state. -/
def apply (b : Builder) (token : Token) : Outcome :=
  match b.mode with
  | .initial => initial b token
  | .beforeHtml => beforeHtml b token
  | .beforeHead => beforeHead b token
  | .inHead => inHead b token
  | .afterHead => afterHead b token
  | .inBody => inBody b token
  | .inText => inText b token
  | .inTable => inTable b token
  | .inTableText => inTableText b token
  | .inCaption => inCaption b token
  | .inColumnGroup => inColumnGroup b token
  | .inTableBody => inTableBody b token
  | .inRow => inRow b token
  | .inCell => inCell b token
  | .inSelect => inSelect b token
  | .inSelectInTable => inSelectInTable b token
  | .inTemplate => inTemplate b token
  | .afterBody => afterBody b token
  | .inFrameset => inFrameset b token
  | .afterFrameset => afterFrameset b token
  | .afterPage => afterPage b token
  | .afterFramePage => afterFramePage b token

end StyleInline.Html.Rules
