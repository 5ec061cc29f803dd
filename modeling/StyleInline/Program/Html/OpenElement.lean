import StyleInline.Program.Html.Draft
import StyleInline.Program.Html.Element

/-!
# Open elements

While a page is being read, the elements that have not ended yet lie on a stack, the
innermost on top, the outermost element of the page at the bottom.

## Main definitions

* `OpenElement` — an element that has not ended yet.
* `OpenElement.admitsHtml`, `OpenElement.admitsText` — what foreign elements let in.
* `OpenElements` — the stack; `popThrough`, `popInside`, `hasWithin`, `cutAtOutermost`.
-/

namespace StyleInline.Html

/-- An element that has not ended yet. -/
structure OpenElement where
  node : NodeId
  vocabulary : Vocabulary
  name : Text
  /-- Whether an annotation of a formula says of itself that it is HTML. -/
  isHtmlAnnotation : Bool
deriving Repr, DecidableEq

namespace OpenElement

/-- Whether an element belongs to the HTML vocabulary and has a name. -/
def isNamed (e : OpenElement) (name : Text) : Bool := e.vocabulary == .html && e.name == name

/-- Whether an element is the HTML element of a name. -/
def isHtml (e : OpenElement) (name : String) : Bool := e.isNamed name.toList

/-- Whether an element belongs to the HTML vocabulary and its name to a list. -/
def isKind (e : OpenElement) (kind : Text → Bool) : Bool :=
  e.vocabulary == .html && kind e.name

/-- Whether an element ends the search for an open one. -/
def isBoundary (e : OpenElement) : Bool := Element.isScope e.vocabulary e.name

/-- Whether an element of graphics lets HTML elements in. -/
def admitsHtml (e : OpenElement) : Bool := e.vocabulary == .svg && e.isBoundary

/-- Whether an element of a formula lets text in. -/
def admitsText (e : OpenElement) : Bool := e.vocabulary == .mathml && e.isBoundary

/-- Whether the attributes of an annotation say that it is HTML. -/
def saysHtml (attributes : List MarkupAttribute) : Bool :=
  attributes.any fun a =>
    a.name == "encoding".toList &&
      (Text.equalsIgnoringCase a.value "text/html".toList ||
        Text.equalsIgnoringCase a.value "application/xhtml+xml".toList)

/-- The open element of a node. -/
def ofNode (node : NodeId) (vocabulary : Vocabulary) (name : Text)
    (attributes : List MarkupAttribute) : OpenElement :=
  ⟨node, vocabulary, name,
    vocabulary == .mathml && name == "annotation-xml".toList && saysHtml attributes⟩

end OpenElement

/-- The stack of open elements, the innermost first. -/
abbrev OpenElements := List OpenElement

namespace OpenElements

/-- Ends elements up to and including the innermost one that satisfies `p`. -/
def popThrough (p : OpenElement → Bool) (stack : OpenElements) : OpenElements :=
  (stack.dropWhile fun e => !p e).tail

/-- Ends the elements inside the innermost one that satisfies `p`. -/
def popInside (p : OpenElement → Bool) (stack : OpenElements) : OpenElements :=
  stack.dropWhile fun e => !p e

/-- Whether an element that satisfies `target` is open and no element that satisfies
`boundary` inside it. -/
def hasWithin (boundary target : OpenElement → Bool) : OpenElements → Bool
  | [] => false
  | e :: rest => target e || (!boundary e && hasWithin boundary target rest)

/-- The outermost element that satisfies `p`, with what is open inside it and what around
it. -/
def cutAtOutermost? (p : OpenElement → Bool) :
    OpenElements → Option (OpenElements × OpenElement × OpenElements)
  | [] => none
  | e :: rest =>
    match cutAtOutermost? p rest with
    | some (inside, found, around) => some (e :: inside, found, around)
    | none => if p e then some ([], e, rest) else none

/-- The stack without the element of a node. -/
def remove (n : NodeId) (stack : OpenElements) : OpenElements := stack.filter (·.node != n)

end OpenElements

end StyleInline.Html
