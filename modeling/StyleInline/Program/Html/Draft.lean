import StyleInline.Document.Markup

/-!
# Drafts of pages

While a page is being read, its tree is a draft: numbered nodes that know their parent and
their children.  Other than in the finished markup, a node can still be put before another
one, taken out of its place, or given away with all its siblings.

## Main definitions

* `DraftItem`, `DraftNode`, `Draft` — what a node is, what is stored of it, the store.
* `Draft.append`, `Draft.insertBefore`, `Draft.detach`, `Draft.moveChildren` — the changes.
* `Draft.appendChar`, `Draft.insertCharBefore` — text joins the text in front of it.
* `Draft.toMarkup` — the markup that a draft comes to.
-/

namespace StyleInline.Html

/-- The number of a node of a draft. -/
abbrev NodeId := Nat

/-- What a node of a draft is. -/
inductive DraftItem where
  /-- The page, or what a template holds. -/
  | page
  /-- A document type. -/
  | doctype (name : Text)
  /-- An element.  A template keeps what it holds under a node of its own. -/
  | element (name : Text) (attributes : List MarkupAttribute) (contents : Option NodeId)
  /-- A run of text, last character first. -/
  | text (reversed : Text)
  /-- A comment. -/
  | comment (text : Text)
deriving Repr, DecidableEq

namespace DraftItem

/-- Whether a node is a run of text. -/
def isText : DraftItem → Bool
  | text _ => true
  | _ => false

/-- A run of text with a character behind it. -/
def addChar (c : Char) : DraftItem → DraftItem
  | text reversed => text (c :: reversed)
  | other => other

/-- An element with those attributes added that it does not have. -/
def addAttributes (added : List MarkupAttribute) : DraftItem → DraftItem
  | element name attributes contents =>
    element name (attributes ++ added.filter fun a => !attributes.any fun b => b.name == a.name)
      contents
  | other => other

/-- The item of the finished markup. -/
def toMarkupItem : DraftItem → MarkupItem
  | page => .document
  | doctype name => .doctype name
  | element name attributes _ => .element name attributes
  | text reversed => .text reversed.reverse
  | comment remark => .comment remark

/-- The node under which a template keeps what it holds. -/
def contents? : DraftItem → Option NodeId
  | element _ _ contents => contents
  | _ => none

end DraftItem

/-- A node of a draft as it is stored. -/
structure DraftNode where
  item : DraftItem
  parent : Option NodeId
  children : Array NodeId
deriving Repr, DecidableEq

/-- A store of nodes. -/
structure Draft where
  nodes : Array DraftNode
deriving Repr, DecidableEq

namespace Draft

/-- The draft of an empty page. -/
def empty : Draft := ⟨#[⟨.page, none, #[]⟩]⟩

instance : Inhabited Draft := ⟨empty⟩

/-- The node of the page itself. -/
def root : NodeId := 0

/-! ## Looking at nodes -/

/-- The number of nodes ever created. -/
def size (d : Draft) : Nat := d.nodes.size

/-- What a node is. -/
def item? (d : Draft) (n : NodeId) : Option DraftItem := d.nodes[n]?.map (·.item)

/-- The parent of a node. -/
def parent? (d : Draft) (n : NodeId) : Option NodeId := d.nodes[n]?.bind (·.parent)

/-- The children of a node, in order. -/
def children (d : Draft) (n : NodeId) : Array NodeId :=
  match d.nodes[n]? with
  | some node => node.children
  | none => #[]

/-- Whether a node is a run of text. -/
def isText (d : Draft) (n : NodeId) : Bool := (d.item? n).any DraftItem.isText

/-- The node to which what is put into an element goes: for a template, the one it keeps
its contents under. -/
def insideOf (d : Draft) (n : NodeId) : NodeId := ((d.item? n).bind DraftItem.contents?).getD n

/-- The node in front of a node. -/
def previousSibling? (d : Draft) (n : NodeId) : Option NodeId := do
  let siblings := d.children (← d.parent? n)
  match ← siblings.idxOf? n with
  | 0 => none
  | i + 1 => siblings[i]?

/-! ## Changes -/

/-- The draft with one node changed. -/
def modify (d : Draft) (n : NodeId) (f : DraftNode → DraftNode) : Draft := ⟨d.nodes.modify n f⟩

/-- The draft with the item of one node changed. -/
def modifyItem (d : Draft) (n : NodeId) (f : DraftItem → DraftItem) : Draft :=
  d.modify n fun node => { node with item := f node.item }

/-- Creates a node that has no place yet. -/
def create (d : Draft) (item : DraftItem) : NodeId × Draft :=
  (d.size, ⟨d.nodes.push ⟨item, none, #[]⟩⟩)

/-- Creates an element that has no place yet. -/
def createElement (d : Draft) (name : Text) (attributes : List MarkupAttribute)
    (isTemplate : Bool) : NodeId × Draft :=
  if isTemplate then
    let (contents, d) := d.create .page
    d.create (.element name attributes (some contents))
  else d.create (.element name attributes none)

/-- Puts a node that has no place behind the children of another one. -/
def append (d : Draft) (parent child : NodeId) : Draft :=
  (d.modify child fun node => { node with parent := some parent }).modify parent fun node =>
    { node with children := node.children.push child }

/-- Puts a node that has no place before a node that has one. -/
def insertBefore (d : Draft) (sibling child : NodeId) : Draft :=
  match d.parent? sibling with
  | none => d
  | some parent =>
    (d.modify child fun node => { node with parent := some parent }).modify parent fun node =>
      match node.children.idxOf? sibling with
      | some i => { node with children := node.children.insertIdxIfInBounds i child }
      | none => node

/-- Takes a node out of its place. -/
def detach (d : Draft) (n : NodeId) : Draft :=
  match d.parent? n with
  | none => d
  | some parent =>
    (d.modify n fun node => { node with parent := none }).modify parent fun node =>
      { node with children := node.children.erase n }

/-- Puts all children of one node behind the children of another one. -/
def moveChildren (d : Draft) (source target : NodeId) : Draft :=
  let moved := d.children source
  let d := d.modify source fun node => { node with children := #[] }
  let d := moved.foldl (fun d n => d.modify n fun node => { node with parent := some target }) d
  d.modify target fun node => { node with children := node.children ++ moved }

/-! ## Text -/

/-- Puts a character behind the children of a node. -/
def appendChar (d : Draft) (parent : NodeId) (c : Char) : Draft :=
  match (d.children parent).back?.filter d.isText with
  | some text => d.modifyItem text (DraftItem.addChar c)
  | none =>
    let (text, d) := d.create (.text [c])
    d.append parent text

/-- Puts a character before a node that has a place. -/
def insertCharBefore (d : Draft) (sibling : NodeId) (c : Char) : Draft :=
  match (d.previousSibling? sibling).filter d.isText with
  | some text => d.modifyItem text (DraftItem.addChar c)
  | none =>
    let (text, d) := d.create (.text [c])
    d.insertBefore sibling text

/-! ## The finished markup -/

/-- The trees below some nodes, at most `fuel` levels deep. -/
def forest (d : Draft) : (fuel : Nat) → List NodeId → Markup
  | 0, _ => .nil
  | fuel + 1, nodes =>
    nodes.foldr (fun n siblings =>
      match d.item? n with
      | none => siblings
      | some item =>
        let contents := (item.contents?.map fun m => (d.children m).toList).getD []
        .cons item.toMarkupItem (d.forest fuel contents) (d.forest fuel (d.children n).toList)
          siblings) .nil

/-- The markup of a draft.  No tree is deeper than there are nodes. -/
def toMarkup (d : Draft) : Markup := d.forest d.size (d.children root).toList

end Draft

end StyleInline.Html
