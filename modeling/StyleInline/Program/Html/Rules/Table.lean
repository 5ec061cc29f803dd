import StyleInline.Program.Html.Rules.Body

/-!
# The rules in tables

A table holds captions, groups of columns and groups of rows, a group of rows holds rows,
and a row holds cells.  What is missing of that is put in.  Anything else goes before the
table; blanks alone stay where they are.

## Main definitions

* `Rules.inTable`, `Rules.inTableText` — the rules in a table and for text in it.
* `Rules.inCaption`, `Rules.inColumnGroup`, `Rules.inTableBody`, `Rules.inRow`,
  `Rules.inCell` — the rules in its parts.
-/

namespace StyleInline.Html.Rules

open Builder

/-! ## Tables -/

/-- The rule of the body for what has no place in a table: it goes before it. -/
def besideTable (b : Builder) (token : Token) : Outcome :=
  (inBody { b with isMoving := true } token).map fun b => { b with isMoving := false }

/-- A character in a table.  It waits for what comes next, unless it stands in another
element. -/
def tableChar (b : Builder) (token : Token) : Outcome :=
  if b.topIs (·.isKind Element.isTableFrame) then
    againIn .inTableText { b with returnMode := b.mode }
  else besideTable b token

/-- A start tag in a table. -/
def tableStart (b : Builder) (tag : Tag) : Outcome :=
  let name := tag.name
  let context : Builder := b.clearTo (Element.among ["table"])
  if name = "caption".toList then .done (inMode .inCaption (context.raiseWall.push tag))
  else if name = "colgroup".toList then .done (inMode .inColumnGroup (context.push tag))
  else if name = "col".toList then againIn .inColumnGroup (context.push (Tag.ofName "colgroup"))
  else if Element.isRowGroup name then .done (inMode .inTableBody (context.push tag))
  else if Element.among ["td", "th", "tr"] name then
    againIn .inTableBody (context.push (Tag.ofName "tbody"))
  else if name = "table".toList then
    if b.inTableScope (·.isHtml "table") then .again (b.popThrough (·.isHtml "table")).resetMode
    else ignore b
  else if Element.among ["style", "script", "template"] name then .done (headContent b tag)
  else if isHiddenField tag then .done (b.addEmpty tag).2
  else if name = "form".toList then
    if b.form.isSome || b.isOpen "template" then ignore b
    else
      let (form, b) := b.addEmpty tag
      .done { b with form := some form }
  else besideTable b (.startTag tag)

/-- The rule in a table. -/
def inTable (b : Builder) (token : Token) : Outcome :=
  match token with
  | .comment text => .done (b.addComment text)
  | .char _ => tableChar b token
  | .startTag tag => tableStart b tag
  | .endTag name =>
    if name = "table".toList then
      .done (if b.inTableScope (·.isHtml "table")
        then (b.popThrough (·.isHtml "table")).resetMode else b)
    else if Element.isTablePart name || Element.among ["body", "html"] name then ignore b
    else if name = "template".toList then templateEnd b
    else besideTable b token
  | _ => inBody b token

/-- A character of the text of a table that goes before the table. -/
def addMovedChar (b : Builder) (c : Char) : Builder :=
  { addText { b with isMoving := true } c with isMoving := false }

/-- Puts the characters that have waited where they belong: blanks into the table, and
anything else before it. -/
def flushTableText (b : Builder) : Builder :=
  let text := b.tableText.reverse
  let b := { b with tableText := [], mode := b.returnMode }
  if text.all Text.isAsciiBlank then text.foldl addChar b else text.foldl addMovedChar b

/-- The rule for text in a table. -/
def inTableText (b : Builder) (token : Token) : Outcome :=
  match token with
  | .char c => .done (if c = '\x00' then b else { b with tableText := c :: b.tableText })
  | _ => .again (flushTableText b)

/-! ## Parts of tables -/

/-- Whether a tag ends the part of a table that is open. -/
def endsTablePart (outer : Text → Bool) : Token → Bool
  | .startTag tag => Element.isTablePart tag.name && outer tag.name
  | .endTag name => name == "table".toList
  | _ => false

/-- The rule in a caption. -/
def inCaption (b : Builder) (token : Token) : Outcome :=
  let isCaption (e : OpenElement) : Bool := e.isHtml "caption"
  let ended : Builder := inMode .inTable (b.popThrough isCaption).clearToWall
  if endsTablePart (fun _ => true) token then
    if b.inTableScope isCaption then .again ended else ignore b
  else
    match token with
    | .endTag name =>
      if name = "caption".toList then .done (if b.inTableScope isCaption then ended else b)
      else if Element.isTablePart name || Element.among ["body", "html"] name then ignore b
      else inBody b token
    | _ => inBody b token

/-- The rule in a group of columns. -/
def inColumnGroup (b : Builder) (token : Token) : Outcome :=
  let isGroup (e : OpenElement) : Bool := e.isHtml "colgroup"
  let leave : Outcome := if b.topIs isGroup then againIn .inTable b.pop else ignore b
  match token with
  | .comment text => .done (b.addComment text)
  | .char c => if Text.isAsciiBlank c then .done (b.addChar c) else leave
  | .startTag tag =>
    if tag.name = "html".toList then mergeHtml b tag
    else if tag.name = "col".toList then .done (b.addEmpty tag).2
    else if tag.name = "template".toList then .done (headContent b tag)
    else leave
  | .endTag name =>
    if name = "colgroup".toList then .done (if b.topIs isGroup then inMode .inTable b.pop else b)
    else if name = "col".toList then ignore b
    else if name = "template".toList then templateEnd b
    else leave
  | _ => inBody b token

/-- The rule in a group of rows. -/
def inTableBody (b : Builder) (token : Token) : Outcome :=
  let context : Builder := b.clearTo Element.isRowGroup
  let leave : Builder := inMode .inTable context.pop
  if endsTablePart (fun name => !Element.among ["td", "th", "tr"] name) token then
    if b.inTableScope (·.isKind (Element.among ["table", "tbody", "tfoot"])) then .again leave
    else ignore b
  else
    match token with
    | .startTag tag =>
      if tag.name = "tr".toList then .done (inMode .inRow (context.push tag))
      else if Element.isCell tag.name then againIn .inRow (context.push (Tag.ofName "tr"))
      else inTable b token
    | .endTag name =>
      if Element.isRowGroup name then
        .done (if b.inTableScope (·.isNamed name) then leave else b)
      else if Element.isTablePart name || Element.among ["body", "html"] name then ignore b
      else inTable b token
    | _ => inTable b token

/-- The rule in a row. -/
def inRow (b : Builder) (token : Token) : Outcome :=
  let isRow (e : OpenElement) : Bool := e.isHtml "tr"
  let context : Builder := b.clearTo (Element.among ["tr"])
  let leave : Builder := inMode .inTableBody context.pop
  if endsTablePart (fun name => !Element.isCell name) token then
    if b.inTableScope isRow then .again leave else ignore b
  else
    match token with
    | .startTag tag =>
      if Element.isCell tag.name then .done (inMode .inCell (context.push tag).raiseWall)
      else inTable b token
    | .endTag name =>
      if name = "tr".toList then .done (if b.inTableScope isRow then leave else b)
      else if Element.isRowGroup name then
        if b.inTableScope (·.isNamed name) && b.inTableScope isRow then .again leave else ignore b
      else if Element.isTablePart name || Element.among ["body", "html"] name then ignore b
      else inTable b token
    | _ => inTable b token

/-- The rule in a cell. -/
def inCell (b : Builder) (token : Token) : Outcome :=
  match token with
  | .startTag tag =>
    if Element.isTablePart tag.name then
      if b.inTableScope (·.isKind Element.isCell) then .again b.endCell else ignore b
    else inBody b token
  | .endTag name =>
    if Element.isCell name then
      .done (if b.inTableScope (·.isNamed name)
        then inMode .inRow (b.popThrough (·.isNamed name)).clearToWall else b)
    else if Element.among ["body", "caption", "col", "colgroup", "html"] name then ignore b
    else if Element.isTableFrame name then
      if b.inTableScope (·.isNamed name) then .again b.endCell else ignore b
    else inBody b token
  | _ => inBody b token

end StyleInline.Html.Rules
