import StyleInline.Program.Html.OpenElement
import StyleInline.Program.Html.Token.Basic

/-!
# The state of reading a page

What the reading of a page remembers between tokens, and the small changes of which the
rules for tokens are made: inserting characters, comments and elements, and ending
elements.

## Main definitions

* `Mode` — in which part of a page the reading is.
* `FormattingEntry` — an element of formatting that may have to be opened again.
* `Builder` — the state.
* `Builder.placeIn` — where what is put into an element goes.
* `Builder.resetMode` — the mode that the open elements call for.
-/

namespace StyleInline.Html

/-- The part of a page in which the next token is met. -/
inductive Mode where
  | initial
  | beforeHtml
  | beforeHead
  | inHead
  | afterHead
  | inBody
  | inText
  | inTable
  | inTableText
  | inCaption
  | inColumnGroup
  | inTableBody
  | inRow
  | inCell
  | inSelect
  | inSelectInTable
  | inTemplate
  | afterBody
  | inFrameset
  | afterFrameset
  | afterPage
  | afterFramePage
deriving Repr, DecidableEq

/-- An entry in the list of elements of formatting that have begun. -/
inductive FormattingEntry where
  /-- A wall: what stands behind it is of no account before it ends. -/
  | wall
  /-- An element, with the tag that it began with. -/
  | element (e : OpenElement) (tag : Tag)
deriving Repr, DecidableEq

/-- A place for a node. -/
inductive Place where
  /-- Behind the children of a node. -/
  | lastIn (parent : NodeId)
  /-- Before a node. -/
  | before (sibling : NodeId)
deriving Repr, DecidableEq

/-- What is remembered between tokens. -/
structure Builder where
  draft : Draft
  mode : Mode
  /-- The mode to go back to when the text of an element or of a table ends. -/
  returnMode : Mode
  stack : OpenElements
  /-- The elements of formatting that have begun, the last one first. -/
  formatting : List FormattingEntry
  /-- The modes of the open templates, innermost first. -/
  templateModes : List Mode
  /-- The head, if it has been seen. -/
  head : Option OpenElement
  /-- The form that is open. -/
  form : Option OpenElement
  /-- Whether the page is laid out by the rules of old. -/
  isLegacy : Bool
  /-- Whether frames may still take the place of the body. -/
  admitsFrames : Bool
  /-- How the text is to be read. -/
  reading : Reading
  /-- Whether a line feed, should it come next, is dropped. -/
  skipsLineFeed : Bool
  /-- The characters met in a table since the last tag, last character first. -/
  tableText : Text
  /-- Whether content that has no place in a table is being moved before it. -/
  isMoving : Bool
deriving Repr, DecidableEq

namespace Builder

/-- The state at the start of a page. -/
def start : Builder where
  draft := Draft.empty
  mode := .initial
  returnMode := .initial
  stack := []
  formatting := []
  templateModes := []
  head := none
  form := none
  isLegacy := false
  admitsFrames := true
  reading := .data
  skipsLineFeed := false
  tableText := []
  isMoving := false

/-! ## Looking at the open elements -/

/-- Whether the innermost element satisfies `p`. -/
def topIs (b : Builder) (p : OpenElement → Bool) : Bool := b.stack.head?.any p

/-- Whether the HTML element of a name is open. -/
def isOpen (b : Builder) (name : String) : Bool := b.stack.any (·.isHtml name)

/-- Whether an element that satisfies `p` is open and in scope. -/
def inScope (b : Builder) (p : OpenElement → Bool) : Bool :=
  OpenElements.hasWithin (·.isBoundary) p b.stack

/-- The same, with lists ending the search too. -/
def inListScope (b : Builder) (p : OpenElement → Bool) : Bool :=
  OpenElements.hasWithin (fun e => e.isBoundary || e.isHtml "ol" || e.isHtml "ul") p b.stack

/-- The same, with buttons ending the search too. -/
def inButtonScope (b : Builder) (p : OpenElement → Bool) : Bool :=
  OpenElements.hasWithin (fun e => e.isBoundary || e.isHtml "button") p b.stack

/-- The same, with nothing but tables and templates ending the search. -/
def inTableScope (b : Builder) (p : OpenElement → Bool) : Bool :=
  OpenElements.hasWithin (·.isKind (Element.among ["html", "table", "template"])) p b.stack

/-- The same, with everything but options ending the search. -/
def inSelectScope (b : Builder) (p : OpenElement → Bool) : Bool :=
  OpenElements.hasWithin (fun e => !e.isKind (Element.among ["optgroup", "option"])) p b.stack

/-- The body, if the page has one and no frames. -/
def body? (b : Builder) : Option OpenElement :=
  match b.stack.reverse with
  | _ :: e :: _ => if e.isHtml "body" then some e else none
  | _ => none

/-! ## Ending elements -/

/-- Ends the innermost element. -/
def pop (b : Builder) : Builder := { b with stack := b.stack.tail }

/-- Ends elements up to and including the innermost one that satisfies `p`. -/
def popThrough (b : Builder) (p : OpenElement → Bool) : Builder :=
  { b with stack := b.stack.popThrough p }

/-- Ends the elements inside the innermost one that satisfies `p`. -/
def popInside (b : Builder) (p : OpenElement → Bool) : Builder :=
  { b with stack := b.stack.popInside p }

/-- Ends one element, and none inside it. -/
def remove (b : Builder) (e : OpenElement) : Builder := { b with stack := b.stack.remove e.node }

/-- Ends the elements at the top whose end is understood, up to one of the given name. -/
def endImplied (b : Builder) (spared : Text) : Builder :=
  b.popInside fun e => !(e.isKind Element.hasImpliedEnd && e.name != spared)

/-- Ends the open paragraph, if one is in scope. -/
def endParagraph (b : Builder) : Builder :=
  if b.inButtonScope (·.isHtml "p") then b.popThrough (·.isHtml "p") else b

/-- Ends the elements at the top until one of the given kind is the innermost. -/
def clearTo (b : Builder) (kind : Text → Bool) : Builder :=
  b.popInside (·.isKind fun name => kind name || Element.among ["html", "template"] name)

/-- The end tag of an element that no other rule knows: it ends the innermost element of
its name, unless a special element is in between. -/
def endOrdinary (b : Builder) (name : Text) : Builder :=
  if OpenElements.hasWithin (·.isKind Element.isSpecial) (·.isNamed name) b.stack then
    b.popThrough (·.isNamed name)
  else b

/-! ## Places -/

/-- The place behind what an element holds. -/
def endOf (b : Builder) (e : OpenElement) : Place := .lastIn (b.draft.insideOf e.node)

/-- The place for what has none in a table: before the table, or behind what the innermost
template holds if that is inside the table.  A table that has been taken out of its place
has the element around it instead. -/
def besideTable (b : Builder) : OpenElements → Place
  | [] => .lastIn Draft.root
  | [e] => .lastIn e.node
  | e :: outer :: rest =>
    if e.isHtml "template" then b.endOf e
    else if e.isHtml "table" then
      if (b.draft.parent? e.node).isSome then .before e.node else .lastIn outer.node
    else b.besideTable (outer :: rest)

/-- The place for what is put into an element: behind what that holds, or beside the table
if it is part of one and has to be spared. -/
def placeIn (b : Builder) (e : OpenElement) : Place :=
  if b.isMoving && e.isKind Element.isTableFrame then b.besideTable b.stack else b.endOf e

/-- The place for what comes next. -/
def place (b : Builder) : Place :=
  match b.stack with
  | [] => .lastIn Draft.root
  | e :: _ => b.placeIn e

/-! ## Inserting -/

/-- Puts a node that has no place at one. -/
def putNode (b : Builder) (n : NodeId) : Place → Builder
  | .lastIn parent => { b with draft := b.draft.append parent n }
  | .before sibling => { b with draft := b.draft.insertBefore sibling n }

/-- Inserts a character. -/
def addChar (b : Builder) (c : Char) : Builder :=
  match b.place with
  | .lastIn parent => { b with draft := b.draft.appendChar parent c }
  | .before sibling => { b with draft := b.draft.insertCharBefore sibling c }

/-- Inserts a comment at a place. -/
def putComment (b : Builder) (text : Text) (place : Place) : Builder :=
  let (n, draft) := b.draft.create (.comment text)
  { b with draft := draft }.putNode n place

/-- Inserts a comment. -/
def addComment (b : Builder) (text : Text) : Builder := b.putComment text b.place

/-- Inserts a comment behind the outermost element. -/
def addPageComment (b : Builder) (text : Text) : Builder := b.putComment text (.lastIn Draft.root)

/-- Inserts a comment behind what the outermost element holds. -/
def addHtmlComment (b : Builder) (text : Text) : Builder :=
  b.putComment text (.lastIn ((b.stack.getLast?.map (·.node)).getD Draft.root))

/-- Creates an element that has no place yet. -/
def create (b : Builder) (vocabulary : Vocabulary) (name : Text)
    (attributes : List MarkupAttribute) : OpenElement × Builder :=
  let isTemplate := vocabulary == .html && name == "template".toList
  let (n, draft) := b.draft.createElement name attributes isTemplate
  (OpenElement.ofNode n vocabulary name attributes, { b with draft := draft })

/-- The attributes of a tag in the HTML vocabulary. -/
def htmlAttributes (tag : Tag) : List MarkupAttribute :=
  tag.attributes.map fun (name, value) => ⟨none, name, value⟩

/-- Creates the HTML element of a tag. -/
def createHtml (b : Builder) (tag : Tag) : OpenElement × Builder :=
  b.create .html tag.name (htmlAttributes tag)

/-- Inserts the HTML element of a tag, and does not open it. -/
def addEmpty (b : Builder) (tag : Tag) : OpenElement × Builder :=
  let (e, b) := b.createHtml tag
  (e, b.putNode e.node b.place)

/-- Begins the HTML element of a tag. -/
def push (b : Builder) (tag : Tag) : Builder :=
  let (e, b) := b.addEmpty tag
  { b with stack := e :: b.stack }

/-- Begins an HTML element whose text is read in a way of its own. -/
def pushText (b : Builder) (tag : Tag) (reading : Reading) : Builder :=
  { b.push tag with mode := .inText, returnMode := b.mode, reading := reading }

/-- Begins the outermost element. -/
def pushHtml (b : Builder) (tag : Tag) : Builder :=
  let (e, b) := b.createHtml tag
  { b.putNode e.node (.lastIn Draft.root) with stack := e :: b.stack }

/-- The attributes of a tag in another vocabulary. -/
def foreignAttributes (vocabulary : Vocabulary) (tag : Tag) : List MarkupAttribute :=
  tag.attributes.map fun (name, value) =>
    let (qualifier, localName) := Foreign.attributeParts vocabulary name
    ⟨qualifier, localName, value⟩

/-- Begins an element of another vocabulary, or inserts it if its tag closes itself. -/
def pushForeign (b : Builder) (vocabulary : Vocabulary) (tag : Tag) : Builder :=
  let (e, b) := b.create vocabulary (Foreign.tagName vocabulary tag.name)
    (foreignAttributes vocabulary tag)
  let b := b.putNode e.node b.place
  if tag.selfClosing then b else { b with stack := e :: b.stack }

/-- Adds those attributes of a tag to an element that it does not have. -/
def addAttributes (b : Builder) (e : OpenElement) (tag : Tag) : Builder :=
  let add := DraftItem.addAttributes (htmlAttributes tag)
  { b with draft := b.draft.modifyItem e.node add }

/-! ## Walls -/

/-- The state with a wall around formatting. -/
def raiseWall (b : Builder) : Builder := { b with formatting := .wall :: b.formatting }

/-- The state without the innermost wall and the formatting that began inside it. -/
def clearToWall (b : Builder) : Builder :=
  { b with formatting := (b.formatting.dropWhile (· != .wall)).tail }

/-! ## Modes -/

/-- The mode that an open element calls for, if it calls for one, given what is open
around it.  `hasHead` says whether the head has been seen, `template` is the mode of the
innermost template. -/
def modeFor? (hasHead : Bool) (template : Mode) (e : OpenElement) (around : OpenElements) :
    Option Mode :=
  if e.isHtml "select" then
    match around.find? (·.isKind (Element.among ["table", "template"])) with
    | some outer => some (if outer.isHtml "table" then .inSelectInTable else .inSelect)
    | none => some .inSelect
  else if e.isKind Element.isCell then some .inCell
  else if e.isHtml "tr" then some .inRow
  else if e.isKind Element.isRowGroup then some .inTableBody
  else if e.isHtml "caption" then some .inCaption
  else if e.isHtml "colgroup" then some .inColumnGroup
  else if e.isHtml "table" then some .inTable
  else if e.isHtml "template" then some template
  else if e.isHtml "head" then some .inHead
  else if e.isHtml "body" then some .inBody
  else if e.isHtml "frameset" then some .inFrameset
  else if e.isHtml "html" then some (if hasHead then .afterHead else .beforeHead)
  else none

/-- The mode that the innermost element calls for that calls for one. -/
def modeOf (hasHead : Bool) (template : Mode) : OpenElements → Mode
  | [] => .inBody
  | e :: around => (modeFor? hasHead template e around).getD (modeOf hasHead template around)

/-- Takes on the mode that the open elements call for. -/
def resetMode (b : Builder) : Builder :=
  { b with mode := modeOf b.head.isSome (b.templateModes.head?.getD .inBody) b.stack }

/-- Ends the innermost template. -/
def endTemplate (b : Builder) : Builder :=
  let b := (b.popThrough (·.isHtml "template")).clearToWall
  { b with templateModes := b.templateModes.tail }.resetMode

/-- Ends the cell that is open. -/
def endCell (b : Builder) : Builder :=
  { (b.popThrough (·.isKind Element.isCell)).clearToWall with mode := .inRow }

end Builder

end StyleInline.Html
