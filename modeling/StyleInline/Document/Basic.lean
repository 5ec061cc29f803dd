import StyleInline.Forest
import StyleInline.OrderedMap
import StyleInline.Text.Basic

/-!
# Documents

A document is a store of nodes that only grows.  A node is known by its handle, the
number of nodes created before it; node 0 is the document itself.  Every node records
its parent and its children, and appending is the only way to move one.

Operations change a document in place.  One that is refused answers with an error, and
what it leaves of the document is a part of its outcome.

## Main definitions

* `NodeKind`, `Content`, `Node`, `Document` — what a node is, what is stored of it, the
  store.
* `Document.Outcome` — what an operation answers, and the document that it leaves.
* `Document.create`, `Document.append`, `Document.setAttribute` — the three changes.
* `Document.ancestors` — the chain of parents of a node.
* `Document.subtree` — the nodes below a node, as a forest.
-/

namespace StyleInline

/-- The name of a tag: `qualifier:localName`, or `localName` alone. -/
structure TagName where
  qualifier : Option Text
  localName : Text
deriving Repr, DecidableEq

/-- The kinds of nodes. -/
inductive NodeKind where
  /-- A document. -/
  | document
  /-- A document type with its name. -/
  | doctype (name : Text)
  /-- An element. -/
  | element (tag : TagName)
  /-- A run of text. -/
  | text (text : Text)
  /-- A comment. -/
  | comment (text : Text)
deriving Repr, DecidableEq

/-- What a node is: its kind, and its attributes in the order in which they were first
written.  There is room for attributes in every node. -/
structure Content where
  kind : NodeKind
  attributes : OrderedMap Text Text
deriving Repr, DecidableEq

namespace Content

/-- What a new node of a kind is. -/
def ofKind (kind : NodeKind) : Content := ⟨kind, .empty⟩

/-- Whether a node is an element. -/
def isElement (content : Content) : Bool :=
  match content.kind with
  | .element _ => true
  | _ => false

/-- The name of an element without its qualifier; other nodes have the empty name. -/
def localName (content : Content) : Text :=
  match content.kind with
  | .element tag => tag.localName
  | _ => []

/-- The value of an attribute. -/
def attribute? (name : Text) (content : Content) : Option Text := content.attributes.get? name

end Content

/-- A node as it is stored. -/
structure Node extends Content where
  parent : Option Nat
  children : List Nat
deriving Repr, DecidableEq

/-- The number of a node in the order of creation. -/
abbrev Handle := Nat

/-- A store of nodes. -/
structure Document where
  nodes : Array Node
deriving Repr, DecidableEq

/-- Why a change to a document is refused. -/
inductive DocumentError where
  /-- A node cannot be appended to itself. -/
  | appendToItself
  /-- A node cannot be appended to a node below it. -/
  | appendToDescendant
  /-- Only elements have attributes. -/
  | notAnElement (node : Handle)
deriving Repr, DecidableEq

/-- The wording of an error. -/
def DocumentError.message : DocumentError → Text
  | appendToItself => "cannot append node: Can not append a node to itself".toList
  | appendToDescendant =>
    "cannot append node: Can not append a node to, or insert it after, its descendant".toList
  | notAnElement node => "node ".toList ++ (Nat.repr node).toList ++ " is not an element".toList

namespace Document

/-- The document that holds nothing. -/
def empty : Document := ⟨#[⟨.ofKind .document, none, []⟩]⟩

instance : Inhabited Document := ⟨empty⟩

/-- The node of the document itself. -/
def root : Handle := 0

/-! ## Looking at nodes -/

/-- The number of nodes ever created. -/
def size (d : Document) : Nat := d.nodes.size

/-- What a node is. -/
def content? (d : Document) (n : Handle) : Option Content := d.nodes[n]?.map (·.toContent)

/-- The parent of a node. -/
def parent? (d : Document) (n : Handle) : Option Handle := d.nodes[n]?.bind (·.parent)

/-- The children of a node, in order. -/
def children (d : Document) (n : Handle) : List Handle :=
  match d.nodes[n]? with
  | some node => node.children
  | none => []

/-- Whether a node is an element. -/
def isElement (d : Document) (n : Handle) : Bool := (d.content? n).any Content.isElement

/-- The name of an element without its qualifier; other nodes have the empty name. -/
def localName (d : Document) (n : Handle) : Text :=
  match d.content? n with
  | some content => content.localName
  | none => []

/-- The value of an attribute of a node. -/
def attribute? (d : Document) (n : Handle) (name : Text) : Option Text :=
  (d.content? n).bind (Content.attribute? name)

/-- The parent of a node, the parent of that, and so on; at most `fuel` of them. -/
def ancestorsFrom (d : Document) : (fuel : Nat) → Handle → List Handle
  | 0, _ => []
  | fuel + 1, n =>
    match d.parent? n with
    | none => []
    | some p => p :: ancestorsFrom d fuel p

/-- The ancestors of a node, nearest first. -/
def ancestors (d : Document) (n : Handle) : List Handle := d.ancestorsFrom d.size n

/-- The trees that begin at the given nodes, down to `depth` levels. -/
def forestFrom (d : Document) : (depth : Nat) → List Handle → Forest Handle
  | 0, _ => .nil
  | depth + 1, handles =>
    handles.foldr (fun n behind => .cons n (forestFrom d depth (d.children n)) behind) .nil

/-- The nodes below a node. -/
def subtree (d : Document) (n : Handle) : Forest Handle := d.forestFrom d.size (d.children n)

/-- The nodes of a tree in document order, its root first. -/
def order (d : Document) (n : Handle) : List Handle := n :: (d.subtree n).preorder

/-- The elements that belong to the document, in document order. -/
def elements (d : Document) : List Handle := (d.order root).filter d.isElement

/-- The elements of one name that belong to the document, in document order. -/
def elementsNamed (d : Document) (name : Text) : List Handle :=
  d.elements.filter fun n => d.localName n == name

/-! ## Changing the store -/

/-- Creates a node that has no attributes, no parent and no children.  Its handle is the
number of nodes so far. -/
def create (d : Document) (kind : NodeKind) : Handle × Document :=
  (d.size, ⟨d.nodes.push ⟨.ofKind kind, none, []⟩⟩)

/-- Changes one node, if it exists. -/
def modify (d : Document) (n : Handle) (f : Node → Node) : Document := ⟨d.nodes.modify n f⟩

/-- Takes a node away from its parent. -/
def detach (d : Document) (n : Handle) : Document :=
  match d.parent? n with
  | none => d
  | some p =>
    (d.modify p fun node => { node with children := node.children.filter (· != n) }).modify n
      fun node => { node with parent := none }

/-- Makes a node without parent the last child of `parent`. -/
def attach (d : Document) (parent child : Handle) : Document :=
  (d.modify parent fun node => { node with children := node.children ++ [child] }).modify child
    fun node => { node with parent := some parent }

/-- What an operation answers, and the document that it leaves. -/
structure Outcome (α : Type) where
  answer : Except DocumentError α
  document : Document

/-- Goes on after an operation that has not been refused. -/
def Outcome.andThen {α β : Type} (outcome : Outcome α) (next : α → Document → Outcome β) :
    Outcome β :=
  match outcome.answer with
  | .ok a => next a outcome.document
  | .error e => ⟨.error e, outcome.document⟩

/-- Makes `child` the last child of `parent`, wherever it was before.  A node cannot go
below itself. -/
def append (d : Document) (parent child : Handle) : Outcome Unit :=
  if child = parent then ⟨.error .appendToItself, d⟩
  else if child ∈ d.ancestors parent then ⟨.error .appendToDescendant, d⟩
  else ⟨.ok (), (d.detach child).attach parent child⟩

/-- Writes an attribute of an element: in its place if it is there, behind the others
if it is not. -/
def setAttribute (d : Document) (n : Handle) (name value : Text) : Outcome Unit :=
  if d.isElement n then
    ⟨.ok (), d.modify n fun node => { node with attributes := node.attributes.insert name value }⟩
  else ⟨.error (.notAnElement n), d⟩

/-- Writes attributes of an element, one after the other. -/
def setAttributes (d : Document) (n : Handle) : List (Text × Text) → Outcome Unit
  | [] => ⟨.ok (), d⟩
  | (name, value) :: rest => (d.setAttribute n name value).andThen fun _ d => d.setAttributes n rest

/-- The document after an attribute has been written, or refused. -/
def writeAttribute (d : Document) (n : Handle) (name value : Text) : Document :=
  (d.setAttribute n name value).document

/-- Creates an element with attributes, written in order, and appends it. -/
def appendElement (d : Document) (parent : Handle) (tag : TagName)
    (attributes : List (Text × Text)) : Outcome Handle :=
  let (n, d) := d.create (.element tag)
  (d.setAttributes n attributes).andThen fun _ d =>
    (d.append parent n).andThen fun _ d => ⟨.ok n, d⟩

/-! ## What the changes leave -/

@[simp] theorem size_empty : empty.size = 1 := rfl

@[simp] theorem fst_create (d : Document) (kind : NodeKind) : (d.create kind).1 = d.size := rfl

@[simp] theorem size_create (d : Document) (kind : NodeKind) :
    (d.create kind).2.size = d.size + 1 := by
  simp [create, size]

@[simp] theorem size_modify (d : Document) (n : Handle) (f : Node → Node) :
    (d.modify n f).size = d.size := by
  simp [modify, size]

@[simp] theorem size_detach (d : Document) (n : Handle) : (d.detach n).size = d.size := by
  unfold detach
  split <;> simp

@[simp] theorem size_attach (d : Document) (parent child : Handle) :
    (d.attach parent child).size = d.size := by
  simp [attach]

/-- Writing an attribute creates no node. -/
@[simp] theorem size_writeAttribute (d : Document) (n : Handle) (name value : Text) :
    (d.writeAttribute n name value).size = d.size := by
  unfold writeAttribute setAttribute
  split <;> simp

@[simp] theorem Outcome.andThen_ok {α β : Type} (a : α) (d : Document)
    (next : α → Document → Outcome β) : andThen ⟨.ok a, d⟩ next = next a d := rfl

end Document

end StyleInline
