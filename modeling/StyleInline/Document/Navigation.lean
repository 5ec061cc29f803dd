import StyleInline.Document.Basic
import StyleInline.ElementTree

/-!
# Documents as trees of elements

The steps between the elements of a document skip every other kind of node.  A node
without parent has no siblings.

## Main definitions

* `Document.siblingsAfter`, `Document.siblingsBefore` — the nodes beside a node.
* the instance of `StyledTree` for documents.
-/

namespace StyleInline.Document

/-- The children of the parent of a node. -/
def siblings (d : Document) (n : Handle) : List Handle :=
  match d.parent? n with
  | some p => d.children p
  | none => []

/-- The siblings behind a node, nearest first. -/
def siblingsAfter (d : Document) (n : Handle) : List Handle :=
  ((d.siblings n).dropWhile (· != n)).tail

/-- The siblings before a node, nearest first. -/
def siblingsBefore (d : Document) (n : Handle) : List Handle :=
  ((d.siblings n).takeWhile (· != n)).reverse

/-- The first element among the children of a node. -/
def firstElementChild (d : Document) (n : Handle) : Option Handle :=
  (d.children n).find? d.isElement

/-- The next element behind a node. -/
def nextElement (d : Document) (n : Handle) : Option Handle :=
  (d.siblingsAfter n).find? d.isElement

/-- The next element before a node. -/
def previousElement (d : Document) (n : Handle) : Option Handle :=
  (d.siblingsBefore n).find? d.isElement

instance : StyledTree Document Handle where
  bound := size
  firstChild := firstElementChild
  nextSibling := nextElement
  previousSibling := previousElement
  localName := localName
  attribute? := attribute?
  searchRoot _ := root
  setAttribute := writeAttribute

end StyleInline.Document
