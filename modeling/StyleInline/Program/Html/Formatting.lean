import StyleInline.Program.Html.Builder

/-!
# Formatting that is not well nested

Elements of formatting may end in another order than they began.  One that was cut off by
the end of another element is opened again where text follows.  One whose end tag comes
while blocks inside it are open is split: it goes around what stands before the outermost
of those blocks, and a copy of it around what that block holds.

## Main definitions

* `Builder.reopenFormatting` — opens again what was cut off.
* `Builder.pushFormatting` — begins an element of formatting.
* `Builder.endFormatting` — the end tag of one.
* `Builder.endNestedLink` — the end of a link in which another one begins.
-/

namespace StyleInline.Html

namespace FormattingEntry

/-- Whether an entry is a wall. -/
def isWall : FormattingEntry → Bool
  | wall => true
  | element .. => false

/-- Whether an entry stands for the element of a node. -/
def isOf (n : NodeId) : FormattingEntry → Bool
  | wall => false
  | element e _ => e.node == n

/-- Whether two tags begin the same formatting: they have one name and, in any order, the
same attributes. -/
def sameTag (s t : Tag) : Bool :=
  s.name == t.name && s.attributes.length == t.attributes.length &&
    s.attributes.all t.attributes.contains

/-- The element of an entry that began with the same tag. -/
def elementOf? (tag : Tag) : FormattingEntry → Option OpenElement
  | wall => none
  | element e began => if sameTag tag began then some e else none

/-- The element and the tag of an entry whose tag has a name. -/
def named? (name : Text) : FormattingEntry → Option (OpenElement × Tag)
  | wall => none
  | element e tag => if tag.name = name then some (e, tag) else none

end FormattingEntry

namespace Builder

/-! ## The list -/

/-- The entries since the last wall, the last one first. -/
def recentFormatting (b : Builder) : List FormattingEntry :=
  b.formatting.takeWhile fun entry => !entry.isWall

/-- Whether the list has an entry for an element. -/
def hasFormatting (b : Builder) (e : OpenElement) : Bool := b.formatting.any (·.isOf e.node)

/-- The list without the entry for an element. -/
def forgetFormatting (b : Builder) (e : OpenElement) : Builder :=
  { b with formatting := b.formatting.filter fun entry => !entry.isOf e.node }

/-- The list with another element in the place of one. -/
def replaceFormatting (b : Builder) (old new : OpenElement) (tag : Tag) : Builder :=
  { b with formatting := b.formatting.map fun entry =>
      if entry.isOf old.node then .element new tag else entry }

/-- The tag with which an element of formatting began. -/
def formattingTag? (b : Builder) (e : OpenElement) : Option Tag :=
  b.formatting.findSome? fun
    | .wall => none
    | .element f tag => if f.node = e.node then some tag else none

/-- Whether an entry stands for an element that is not open any more. -/
def isCutOff (b : Builder) : FormattingEntry → Bool
  | .wall => false
  | .element e _ => !b.stack.any (·.node == e.node)

/-! ## Beginning -/

/-- Begins the element of a tag, and lists it. -/
def pushListed (b : Builder) (tag : Tag) : Builder :=
  let (e, b) := b.addEmpty tag
  { b with stack := e :: b.stack, formatting := .element e tag :: b.formatting }

/-- Opens the element of an entry again. -/
def reopen (entry : FormattingEntry) (b : Builder) : Builder :=
  match entry with
  | .wall => b
  | .element _ tag => b.pushListed tag

/-- Opens the elements of formatting again that were cut off since the last one that is
still open. -/
def reopenFormatting (b : Builder) : Builder :=
  let cutOff := b.formatting.takeWhile b.isCutOff
  cutOff.foldr reopen { b with formatting := b.formatting.drop cutOff.length }

/-- The list without the first of the entries that began with the same tag, if there are
three of them already. -/
def limitFormatting (b : Builder) (tag : Tag) : Builder :=
  match b.recentFormatting.filterMap (·.elementOf? tag) with
  | _ :: _ :: e :: rest => b.forgetFormatting (rest.getLastD e)
  | _ => b

/-- Begins an element of formatting. -/
def pushFormatting (b : Builder) (tag : Tag) : Builder := (b.limitFormatting tag).pushListed tag

/-! ## Ending -/

/-- Puts a node at the end of an element, wherever it was. -/
def moveNode (b : Builder) (n : NodeId) (place : Place) : Builder :=
  { b with draft := b.draft.detach n }.putNode n place

/-- Copies the elements of formatting between a block and the element that is to end, from
the inside to the outside, and hangs each copy around the one before, the first around the
node `last`.  Only the three innermost elements are looked at; the others, and those that
are none of formatting, are left out.  Answers the copies. -/
def copyAround : (passed : Nat) → (last : NodeId) → OpenElements → Builder →
    OpenElements × Builder
  | _, _, [], b => ([], b)
  | passed, last, e :: rest, b =>
    match (if passed < 3 then b.formattingTag? e else none) with
    | none => copyAround (passed + 1) last rest (b.forgetFormatting e)
    | some tag =>
      let (copy, b) := b.createHtml tag
      let b := (b.replaceFormatting e copy tag).moveNode last (.lastIn copy.node)
      let (copies, b) := copyAround (passed + 1) copy.node rest b
      (copy :: copies, b)

/-- Splits an element of formatting at the outermost block inside it.  `inside` is open in
the block, `between` around it up to the element, and `outer` around the element. -/
def splitAt (b : Builder) (e : OpenElement) (tag : Tag) (inside : OpenElements)
    (block : OpenElement) (between : OpenElements) (outer : OpenElement) (rest : OpenElements) :
    Builder :=
  let (copies, b) := copyAround 0 block.node between b
  let last := ((copies.getLast?).getD block).node
  let b := { b with
    draft := b.draft.detach last
    stack := inside ++ block :: copies ++ e :: outer :: rest }
  let (copy, b) := (b.putNode last (b.placeIn outer)).createHtml tag
  let draft := (b.draft.moveChildren block.node copy.node).append block.node copy.node
  let entry := FormattingEntry.element copy tag
  let formatting :=
    match copies with
    | [] => (b.replaceFormatting e copy tag).formatting
    | first :: _ =>
      (b.forgetFormatting e).formatting.flatMap fun other =>
        if other.isOf first.node then [entry, other] else [other]
  { b with
    draft := draft
    formatting := formatting
    stack := inside ++ copy :: block :: copies ++ outer :: rest }

/-- One look at the end tag of an element of formatting.  Answers whether a further look is
due. -/
def endFormattingOnce (b : Builder) (name : Text) : Builder × Bool :=
  match b.recentFormatting.findSome? (·.named? name) with
  | none => (b.endOrdinary name, false)
  | some (e, tag) =>
    let inner := b.stack.takeWhile (·.node != e.node)
    match b.stack.drop inner.length with
    | [] => (b.forgetFormatting e, false)
    | _ :: around =>
      if !b.inScope (·.node == e.node) then (b, false)
      else
        match OpenElements.cutAtOutermost? (·.isKind Element.isSpecial) inner, around with
        | some (inside, block, between), outer :: rest =>
          (b.splitAt e tag inside block between outer rest, true)
        | _, _ => ({ b.forgetFormatting e with stack := around }, false)

/-- Looks at the end tag of an element of formatting at most `rounds` times. -/
def endFormattingWithin : (rounds : Nat) → Builder → Text → Builder
  | 0, b, _ => b
  | rounds + 1, b, name =>
    match b.endFormattingOnce name with
    | (b, true) => endFormattingWithin rounds b name
    | (b, false) => b

/-- The end tag of an element of formatting.  The innermost element simply ends if it has
its name and is not listed; else the tag is looked at eight times at most. -/
def endFormatting (b : Builder) (name : Text) : Builder :=
  if b.topIs fun e => e.isNamed name && !b.hasFormatting e then b.pop
  else endFormattingWithin 8 b name

/-- Ends the link that is open, if one is, before another one begins. -/
def endNestedLink (b : Builder) (name : Text) : Builder :=
  let isLink : FormattingEntry → Option OpenElement
    | .wall => none
    | .element e _ => if e.isNamed name then some e else none
  match b.recentFormatting.findSome? isLink with
  | none => b
  | some e => ((b.endFormatting name).forgetFormatting e).remove e

end Builder

end StyleInline.Html
