import StyleInline.Document.Basic

/-!
# Parsed markup

What reading a text as HTML yields: a forest of items, in which a template keeps its
contents apart from its children.  How a page is read is left open; whatever reads it,
the forest is then stored as a document.  Processing instructions are left out with all
below them, an inner document gives way to its children, and the contents of a template
become its first children.

## Main definitions

* `MarkupItem`, `Markup` — one item; an ordered forest of them.
* `PageReader` — a way to read pages.
* `TagName.ofQualified` — the two parts of a name with a colon.
* `Markup.store` — the items of a forest, appended to a node of a document.
* `Markup.toDocument` — the document that a forest makes.
-/

namespace StyleInline

/-- An attribute as it was read; some carry a qualifier. -/
structure MarkupAttribute where
  qualifier : Option Text
  localName : Text
  value : Text
deriving Repr, DecidableEq

/-- The name under which an attribute is stored. -/
def MarkupAttribute.name (a : MarkupAttribute) : Text :=
  match a.qualifier with
  | some qualifier => qualifier ++ ':' :: a.localName
  | none => a.localName

/-- One item of parsed markup. -/
inductive MarkupItem where
  /-- A document inside another one. -/
  | document
  /-- A document type. -/
  | doctype (name : Text)
  /-- An element, with its name as it was written. -/
  | element (name : Text) (attributes : List MarkupAttribute)
  /-- A run of text. -/
  | text (text : Text)
  /-- A comment. -/
  | comment (text : Text)
  /-- A processing instruction. -/
  | instruction
deriving Repr, DecidableEq

/-- An ordered forest of items.  The contents of a template stand beside its children. -/
inductive Markup where
  /-- Nothing. -/
  | nil
  /-- An item, what it contains, and the trees behind it. -/
  | cons (item : MarkupItem) (contents children siblings : Markup)
deriving Repr, DecidableEq

instance : Inhabited Markup := ⟨.nil⟩

/-- A way to read pages: the markup that a text stands for. -/
abbrev PageReader := Text → Markup

/-- The tag that a written name stands for: it is cut at its first colon, if there is
something on both sides of it. -/
def TagName.ofQualified (name : Text) : TagName :=
  match Text.cut? ':' name with
  | some (c :: qualifier, d :: localName) => ⟨some (c :: qualifier), d :: localName⟩
  | _ => ⟨none, name⟩

namespace Markup

/-- What kind of node an item becomes, if it becomes one. -/
def kindOf? : MarkupItem → Option NodeKind
  | .document | .instruction => none
  | .doctype name => some (.doctype name)
  | .element name _ => some (.element (TagName.ofQualified name))
  | .text text => some (.text text)
  | .comment text => some (.comment text)

/-- The attributes that an item carries, under the names by which they are stored. -/
def attributesOf : MarkupItem → List (Text × Text)
  | .element _ attributes => attributes.map fun a => (a.name, a.value)
  | _ => []

/-- Appends the items of a forest to a node.  An element gets its attributes and its
contents before it is appended, and its children after that. -/
def store : Markup → Handle → Document → Document.Outcome Unit
  | nil, _, d => ⟨.ok (), d⟩
  | cons item contents children siblings, parent, d =>
    match item, kindOf? item with
    | .document, _ => (children.store parent d).andThen fun _ d => siblings.store parent d
    | _, none => siblings.store parent d
    | item, some kind =>
      let (n, d) := d.create kind
      (d.setAttributes n (attributesOf item)).andThen fun _ d =>
        (contents.store n d).andThen fun _ d =>
          (d.append parent n).andThen fun _ d =>
            (children.store n d).andThen fun _ d => siblings.store parent d

/-- The document that a forest makes. -/
def toDocument (markup : Markup) : Except DocumentError Document :=
  let stored := markup.store Document.root Document.empty
  stored.answer.map fun _ => stored.document

@[simp] theorem store_nil (parent : Handle) (d : Document) : store nil parent d = ⟨.ok (), d⟩ := rfl

@[simp] theorem toDocument_nil : toDocument nil = .ok Document.empty := rfl

end Markup

end StyleInline
