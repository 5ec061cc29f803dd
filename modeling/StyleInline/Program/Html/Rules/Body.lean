import StyleInline.Program.Html.Formatting
import StyleInline.Program.Html.Rules.Head

/-!
# The rules in the body

Rules repair what is missing: elements that must be open are opened, and elements that
cannot go on are ended.  Blocks end the open paragraph; a heading ends another one; items
end the items before them.  Text goes into all formatting that has begun and not ended.

## Main definitions

* `Rules.bodyStart`, `Rules.bodyEnd` — start tags and end tags in the body.
* `Rules.inBody` — the rule in the body.
* `Rules.inText` — the rule in an element whose text is read in a way of its own.
-/

namespace StyleInline.Html.Rules

open Builder

/-! ## Start tags -/

/-- Ends an item of a list that a further item would otherwise be put into: the search
goes outward and stops at the first special element, paragraphs and plain divisions
aside. -/
def endItem (b : Builder) (isItem : Text → Bool) : Builder :=
  let stops (name : Text) : Bool :=
    Element.isSpecial name && !Element.among ["address", "div", "p"] name
  match b.stack.find? (·.isKind fun name => isItem name || stops name) with
  | some e => if isItem e.name then b.popThrough (·.isNamed e.name) else b
  | none => b

/-- Begins an item of a list. -/
def beginItem (b : Builder) (tag : Tag) (isItem : Text → Bool) : Builder :=
  (endItem (withoutFrames b) isItem).endParagraph.push tag

/-- Whether a tag is that of a field that is not shown. -/
def isHiddenField (tag : Tag) : Bool :=
  tag.name == "input".toList &&
    (tag.attribute? "type").any fun value => Text.equalsIgnoringCase value "hidden".toList

/-- A start tag of the body that is met in it once more: it adds attributes. -/
def mergeBody (b : Builder) (tag : Tag) : Builder :=
  match b.body? with
  | some body =>
    if b.isOpen "template" then b else (withoutFrames b).addAttributes body tag
  | none => b

/-- Puts a set of frames in the place of the body, if nothing stands in it. -/
def replaceBody (b : Builder) (tag : Tag) : Builder :=
  match b.admitsFrames, b.body? with
  | true, some body =>
    let b := { b with
      draft := b.draft.detach body.node
      stack := b.stack.drop (b.stack.length - 1) }
    inMode .inFrameset (b.push tag)
  | _, _ => b

/-- Begins a form, unless one is open. -/
def beginForm (b : Builder) (tag : Tag) : Builder :=
  if b.isOpen "template" then b.endParagraph.push tag
  else if b.form.isSome then b
  else
    let b := b.endParagraph.push tag
    { b with form := b.stack.head? }

/-- Begins a field with options. -/
def beginSelect (b : Builder) (tag : Tag) : Builder :=
  let mode : Mode :=
    if [.inTable, .inCaption, .inTableBody, .inRow, .inCell].contains b.mode then .inSelectInTable
    else .inSelect
  inMode mode ((withoutFrames b).reopenFormatting.push tag)

/-- A start tag of a group of elements that change how text is read or laid out, in the
body; nothing for any other. -/
def textStart? (b : Builder) (tag : Tag) : Option Builder :=
  let name := tag.name
  if name = "plaintext".toList then some { b.endParagraph.push tag with reading := .plain }
  else if Element.among ["pre", "listing"] name then
    some { (withoutFrames b).endParagraph.push tag with skipsLineFeed := true }
  else if name = "textarea".toList then
    some { (withoutFrames b).pushText tag (.escapable name) with skipsLineFeed := true }
  else if name = "xmp".toList then
    some ((withoutFrames b).endParagraph.reopenFormatting.pushText tag (.raw name))
  else if name = "iframe".toList then some ((withoutFrames b).pushText tag (.raw name))
  else if Element.among ["noembed", "noscript"] name then some (b.pushText tag (.raw name))
  else none

/-- A start tag of an element of formatting, in the body; nothing for any other.  Links
and unbroken lines do not stand in each other. -/
def formattingStart? (b : Builder) (tag : Tag) : Option Builder :=
  if tag.name = "a".toList then
    some (((b.endNestedLink tag.name).reopenFormatting).pushFormatting tag)
  else if Element.isFormatting tag.name then some (b.reopenFormatting.pushFormatting tag)
  else if tag.name = "nobr".toList then
    let b := b.reopenFormatting
    let b := if b.inScope (·.isHtml "nobr") then (b.endFormatting tag.name).reopenFormatting else b
    some (b.pushFormatting tag)
  else if Element.isFormattingWall tag.name then
    some ((withoutFrames b).reopenFormatting.push tag).raiseWall
  else none

/-- A start tag of an element without content, in the body; nothing for any other. -/
def emptyStart? (b : Builder) (tag : Tag) : Option Builder :=
  if Element.isEmptyElement tag.name then
    let b := (b.reopenFormatting.addEmpty tag).2
    some (if isHiddenField tag then b else withoutFrames b)
  else if Element.isEmptyPart tag.name then some (b.addEmpty tag).2
  else if tag.name = "hr".toList then some ((withoutFrames b).endParagraph.addEmpty tag).2
  else if tag.name = "image".toList then
    some ((withoutFrames b).reopenFormatting.addEmpty { tag with name := "img".toList }).2
  else none

/-- A start tag of an element that ends others of its kind, in the body; nothing for any
other. -/
def kindredStart? (b : Builder) (tag : Tag) : Option Builder :=
  let name := tag.name
  if Element.isHeading name then
    let b := b.endParagraph
    some ((if b.topIs (·.isKind Element.isHeading) then b.pop else b).push tag)
  else if name = "li".toList then some (beginItem b tag (Element.among ["li"]))
  else if Element.among ["dd", "dt"] name then
    some (beginItem b tag (Element.among ["dd", "dt"]))
  else if name = "button".toList then
    let isButton (e : OpenElement) : Bool := e.isHtml "button"
    let b := withoutFrames (if b.inScope isButton then b.popThrough isButton else b)
    some (b.reopenFormatting.push tag)
  else if Element.among ["optgroup", "option"] name then
    let b := if b.topIs (·.isHtml "option") then b.pop else b
    some (b.reopenFormatting.push tag)
  else if Element.among ["rb", "rtc"] name then
    some ((if b.inScope (·.isHtml "ruby") then b.endImplied [] else b).push tag)
  else if Element.among ["rp", "rt"] name then
    some ((if b.inScope (·.isHtml "ruby") then b.endImplied "rtc".toList else b).push tag)
  else none

/-- A start tag in the body. -/
def bodyStart (b : Builder) (tag : Tag) : Outcome :=
  let name := tag.name
  if name = "html".toList then mergeHtml b tag
  else if Element.isHeadContent name then .done (headContent b tag)
  else if name = "body".toList then .done (mergeBody b tag)
  else if name = "frameset".toList then .done (replaceBody b tag)
  else if Element.isBlock name then .done (b.endParagraph.push tag)
  else if name = "form".toList then .done (beginForm b tag)
  else if name = "table".toList then
    let b := withoutFrames (if b.isLegacy then b else b.endParagraph)
    .done (inMode .inTable (b.push tag))
  else if name = "select".toList then .done (beginSelect b tag)
  else if name = "math".toList then .done (b.pushForeign .mathml tag)
  else if name = "svg".toList then .done (b.pushForeign .svg tag)
  else if Element.isTablePart name || Element.among ["frame", "head"] name then ignore b
  else
    match textStart? b tag <|> formattingStart? b tag <|> emptyStart? b tag <|>
        kindredStart? b tag with
    | some b => .done b
    | none => .done (b.reopenFormatting.push tag)

/-! ## End tags -/

/-- The end tag of a form. -/
def endForm (b : Builder) : Builder :=
  if b.isOpen "template" then
    if b.inScope (·.isHtml "form") then b.popThrough (·.isHtml "form") else b
  else
    match b.form with
    | none => b
    | some form =>
      let b := { b with form := none }
      if b.inScope (·.node == form.node) then (b.endImplied []).remove form else b

/-- An end tag in the body. -/
def bodyEnd (b : Builder) (name : Text) : Outcome :=
  let isNamed (e : OpenElement) : Bool := e.isNamed name
  if name = "template".toList then templateEnd b
  else if Element.among ["body", "html"] name then
    if b.inScope (·.isHtml "body") then
      if name = "html".toList then againIn .afterBody b else .done (inMode .afterBody b)
    else ignore b
  else if Element.isClosedByEnd name || Element.among ["dd", "dt"] name then
    .done (if b.inScope isNamed then b.popThrough isNamed else b)
  else if name = "form".toList then .done (endForm b)
  else if name = "p".toList then
    .done (if b.inButtonScope isNamed then b else b.push (Tag.ofName "p")).endParagraph
  else if name = "li".toList then
    .done (if b.inListScope isNamed then b.popThrough isNamed else b)
  else if Element.isHeading name then
    let isHeading (e : OpenElement) : Bool := e.isKind Element.isHeading
    .done (if b.inScope isHeading then b.popThrough isHeading else b)
  else if Element.isFormatting name || Element.among ["a", "nobr"] name then
    .done (b.endFormatting name)
  else if Element.isFormattingWall name then
    .done (if b.inScope isNamed then (b.popThrough isNamed).clearToWall else b)
  else if name = "br".toList then bodyStart b (Tag.ofName "br")
  else .done (b.endOrdinary name)

/-! ## The rules -/

/-- The end of the page while a template is open: all templates end. -/
def endOpenTemplate (b : Builder) : Outcome :=
  if b.isOpen "template" then .again b.endTemplate else .done b

/-- Inserts a character of running text. -/
def addText (b : Builder) (c : Char) : Builder :=
  let b := b.reopenFormatting.addChar c
  if Text.isAsciiBlank c then b else withoutFrames b

/-- The rule in the body. -/
def inBody (b : Builder) (token : Token) : Outcome :=
  match token with
  | .comment text => .done (b.addComment text)
  | .char c => .done (if c = '\x00' then b else addText b c)
  | .startTag tag => bodyStart b tag
  | .endTag name => bodyEnd b name
  | .endOfPage => endOpenTemplate b
  | _ => ignore b

/-- The rule in an element whose text is read in a way of its own. -/
def inText (b : Builder) (token : Token) : Outcome :=
  let leave : Builder := inMode b.returnMode { b.pop with reading := .data }
  match token with
  | .char c => .done (b.addChar c)
  | .endOfPage => .again leave
  | _ => .done leave

end StyleInline.Html.Rules
