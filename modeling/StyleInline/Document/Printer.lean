import StyleInline.Document.Basic

/-!
# Printing documents

The written form of a tree of nodes.  Text and attribute values are escaped, each with
its own set of characters; void elements have no content and no end tag; the text of
raw elements stands as it is.  An element with a qualifier is neither void nor raw.

## Main definitions

* `Escape.text`, `Escape.value` — the two escapings.
* `Forest.render` — the written form of a forest of contents.
* `Document.toHtml`, `Document.outerHtml` — a document and a single tree of it.
-/

namespace StyleInline

namespace Escape

/-- How a character is written in both places, if not as itself. -/
def shared? : Char → Option Text
  | '&' => some "&amp;".toList
  | '\u00a0' => some "&nbsp;".toList
  | _ => none

/-- How a character is written in running text. -/
def textChar (c : Char) : Text :=
  match shared? c with
  | some written => written
  | none => if c = '<' then "&lt;".toList else if c = '>' then "&gt;".toList else [c]

/-- How a character is written in an attribute value. -/
def valueChar (c : Char) : Text :=
  match shared? c with
  | some written => written
  | none => if c = '"' then "&quot;".toList else [c]

/-- The written form of running text. -/
def text (s : Text) : Text := s.flatMap textChar

/-- The written form of an attribute value. -/
def value (s : Text) : Text := s.flatMap valueChar

@[simp] theorem text_nil : text [] = [] := rfl

@[simp] theorem value_nil : value [] = [] := rfl

end Escape

namespace TagName

/-- The elements that have no content and no end tag. -/
def voidNames : List Text := [
  "area".toList, "base".toList, "basefont".toList, "bgsound".toList, "br".toList, "col".toList,
  "embed".toList, "frame".toList, "hr".toList, "img".toList, "input".toList, "keygen".toList,
  "link".toList, "meta".toList, "param".toList, "source".toList, "track".toList, "wbr".toList]

/-- The elements whose text is not escaped. -/
def rawNames : List Text := [
  "script".toList, "style".toList, "xmp".toList, "iframe".toList, "noembed".toList,
  "noframes".toList, "plaintext".toList]

/-- Whether an element is printed without content and end tag. -/
def isVoid (tag : TagName) : Bool := tag.qualifier.isNone && voidNames.contains tag.localName

/-- Whether the text of an element is printed as it is. -/
def isRaw (tag : TagName) : Bool := tag.qualifier.isNone && rawNames.contains tag.localName

/-- The written form of a tag name. -/
def render (tag : TagName) : Text :=
  match tag.qualifier with
  | some qualifier => qualifier ++ ':' :: tag.localName
  | none => tag.localName

end TagName

/-- The written form of one attribute, with the space before it. -/
def renderAttribute (entry : Text × Text) : Text :=
  ' ' :: entry.1 ++ "=\"".toList ++ Escape.value entry.2 ++ ['"']

/-- The written form of a start tag. -/
def renderStartTag (tag : TagName) (attributes : OrderedMap Text Text) : Text :=
  '<' :: tag.render ++ attributes.entries.flatMap renderAttribute ++ ['>']

/-- The written form of an end tag. -/
def renderEndTag (tag : TagName) : Text := "</".toList ++ tag.render ++ ['>']

/-- The written form of a forest; `raw` says that its text is not escaped.  Only
documents and elements show what is below them, and only elements show attributes. -/
def Forest.render : (raw : Bool) → Forest Content → Text
  | _, .nil => []
  | raw, .cons ⟨.document, _⟩ below behind => below.render false ++ behind.render raw
  | raw, .cons ⟨.doctype name, _⟩ _ behind =>
    "<!DOCTYPE ".toList ++ name ++ '>' :: behind.render raw
  | raw, .cons ⟨.element tag, attributes⟩ below behind =>
    renderStartTag tag attributes
      ++ (if tag.isVoid then [] else below.render tag.isRaw ++ renderEndTag tag)
      ++ behind.render raw
  | raw, .cons ⟨.text text, _⟩ _ behind =>
    (if raw then text else Escape.text text) ++ behind.render raw
  | raw, .cons ⟨.comment text, _⟩ _ behind =>
    "<!--".toList ++ text ++ "-->".toList ++ behind.render raw

@[simp] theorem Forest.render_nil (raw : Bool) : Forest.render raw .nil = [] := rfl

namespace Document

/-- What the nodes of a forest of handles are. -/
def contents (d : Document) (forest : Forest Handle) : Forest Content :=
  forest.map fun n => (d.content? n).getD (.ofKind .document)

/-- The tree that begins at a node. -/
def tree (d : Document) (n : Handle) : Forest Content := d.contents (.single n (d.subtree n))

/-- The written form of a node and all that is below it. -/
def outerHtml (d : Document) (n : Handle) : Text := (d.tree n).render false

/-- The written form of a document. -/
def toHtml (d : Document) : Text := d.outerHtml root

end Document

end StyleInline
