import StyleInline.Program.Html.Builder
import StyleInline.Program.Html.Token.Doctype

/-!
# The rules before the body

For each part of a page, what a token does there.  A rule either deals with the token
or changes the state and asks for the token to be looked at again.  Up to the body,
rules put in the outermost element, the head and the body where they are missing.

## Main definitions

* `Outcome` — whether a token has been dealt with.
* `Rules.initial`, `Rules.beforeHtml`, `Rules.beforeHead`, `Rules.inHead`,
  `Rules.afterHead` — the rules, one for each mode.
* `Rules.headContent` — the insertion of an element that belongs into the head.
-/

namespace StyleInline.Html

/-- What a rule answers. -/
inductive Outcome where
  /-- The token has been dealt with. -/
  | done (b : Builder)
  /-- The token must be looked at again in the new state. -/
  | again (b : Builder)
deriving Repr, DecidableEq

/-- The outcome with its state changed. -/
def Outcome.map (f : Builder → Builder) : Outcome → Outcome
  | done b => done (f b)
  | again b => again (f b)

namespace Rules

open Builder

/-- The state in another mode. -/
def inMode (mode : Mode) (b : Builder) : Builder := { b with mode := mode }

/-- The token is of no account. -/
def ignore (b : Builder) : Outcome := .done b

/-- The token is looked at again in another mode. -/
def againIn (mode : Mode) (b : Builder) : Outcome := .again (inMode mode b)

/-- The state in which frames may not take the place of the body any more. -/
def withoutFrames (b : Builder) : Builder := { b with admitsFrames := false }

/-! ## Up to the head -/

/-- A document type counts before anything else has been read. -/
def declare (b : Builder) (d : Doctype) : Builder :=
  if b.mode = .initial then
    let (n, draft) := b.draft.create (.doctype d.name)
    { b with draft := draft.append Draft.root n, isLegacy := d.isLegacy, mode := .beforeHtml }
  else b

/-- The rule before anything has been read. -/
def initial (b : Builder) (token : Token) : Outcome :=
  let leave : Outcome := againIn .beforeHtml { b with isLegacy := true }
  match token with
  | .char c => if Text.isAsciiBlank c then ignore b else leave
  | .comment text => .done (b.addPageComment text)
  | _ => leave

/-- Whether an end tag makes missing elements appear before the body. -/
def bringsBody : Text → Bool := Element.among ["head", "body", "html", "br"]

/-- The rule before the outermost element. -/
def beforeHtml (b : Builder) (token : Token) : Outcome :=
  let opened : Outcome := againIn .beforeHead (b.pushHtml (Tag.ofName "html"))
  match token with
  | .comment text => .done (b.addPageComment text)
  | .char c => if Text.isAsciiBlank c then ignore b else opened
  | .startTag tag =>
    if tag.name = "html".toList then .done (inMode .beforeHead (b.pushHtml tag)) else opened
  | .endTag name => if bringsBody name then opened else ignore b
  | _ => opened

/-- Adds the attributes of a further outermost tag to the element that is open, unless
inside a template. -/
def mergeHtml (b : Builder) (tag : Tag) : Outcome :=
  match b.stack.getLast? with
  | some html => .done (if b.isOpen "template" then b else b.addAttributes html tag)
  | none => ignore b

/-- The rule before the head. -/
def beforeHead (b : Builder) (token : Token) : Outcome :=
  let opened (tag : Tag) : Builder :=
    let b := b.push tag
    { b with head := b.stack.head?, mode := .inHead }
  let leave : Outcome := .again (opened (Tag.ofName "head"))
  match token with
  | .comment text => .done (b.addComment text)
  | .char c => if Text.isAsciiBlank c then ignore b else leave
  | .startTag tag =>
    if tag.name = "html".toList then mergeHtml b tag
    else if tag.name = "head".toList then .done (opened tag)
    else leave
  | .endTag name => if bringsBody name then leave else ignore b
  | _ => leave

/-! ## The head -/

/-- Begins a template. -/
def beginTemplate (b : Builder) (tag : Tag) : Builder :=
  { (withoutFrames b).push tag with
    formatting := .wall :: b.formatting
    mode := .inTemplate
    templateModes := .inTemplate :: b.templateModes }

/-- Inserts an element that belongs into the head. -/
def headContent (b : Builder) (tag : Tag) : Builder :=
  if Element.isEmptyHeadContent tag.name then (b.addEmpty tag).2
  else if tag.name = "title".toList then b.pushText tag (.escapable tag.name)
  else if tag.name = "template".toList then beginTemplate b tag
  else if tag.name = "script".toList then b.pushText tag .script
  else b.pushText tag (.raw tag.name)

/-- The end tag of a template. -/
def templateEnd (b : Builder) : Outcome :=
  .done (if b.isOpen "template" then b.endTemplate else b)

/-- The rule in the head. -/
def inHead (b : Builder) (token : Token) : Outcome :=
  let leave : Outcome := againIn .afterHead b.pop
  match token with
  | .comment text => .done (b.addComment text)
  | .char c => if Text.isAsciiBlank c then .done (b.addChar c) else leave
  | .startTag tag =>
    if tag.name = "html".toList then mergeHtml b tag
    else if Element.isHeadContent tag.name || tag.name = "noscript".toList then
      .done (headContent b tag)
    else if tag.name = "head".toList then ignore b
    else leave
  | .endTag name =>
    if name = "head".toList then .done (inMode .afterHead b.pop)
    else if name = "template".toList then templateEnd b
    else if bringsBody name then leave
    else ignore b
  | _ => leave

/-- Inserts an element into the head after that has ended. -/
def lateHeadContent (b : Builder) (tag : Tag) : Builder :=
  match b.head with
  | some head => (headContent { b with stack := head :: b.stack } tag).remove head
  | none => headContent b tag

/-- The rule between the head and the body. -/
def afterHead (b : Builder) (token : Token) : Outcome :=
  let leave : Outcome := againIn .inBody (b.push (Tag.ofName "body"))
  match token with
  | .comment text => .done (b.addComment text)
  | .char c => if Text.isAsciiBlank c then .done (b.addChar c) else leave
  | .startTag tag =>
    if tag.name = "html".toList then mergeHtml b tag
    else if tag.name = "body".toList then .done (inMode .inBody ((withoutFrames b).push tag))
    else if tag.name = "frameset".toList then .done (inMode .inFrameset (b.push tag))
    else if Element.isHeadContent tag.name then .done (lateHeadContent b tag)
    else if tag.name = "head".toList then ignore b
    else leave
  | .endTag name =>
    if name = "template".toList then templateEnd b
    else if Element.among ["body", "html", "br"] name then leave
    else ignore b
  | _ => leave

end Rules

end StyleInline.Html
