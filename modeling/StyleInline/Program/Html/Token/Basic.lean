import StyleInline.Text.Blank

/-!
# Tokens of HTML

The text of a page is cut into tags, comments, document types and characters.  How the
next token is to be read depends on the element that is open: the text of some elements
knows no tags but their own end tag, and the text of some of those no references.

## Main definitions

* `Token` — what a page is made of.
* `Reading` — how the text is to be read.
* `Token.normalize` — a text with line ends and byte order mark put right.
-/

namespace StyleInline.Html

/-- A document type as it was declared. -/
structure Doctype where
  name : Text
  publicId : Option Text
  systemId : Option Text
  /-- Whether the declaration has the right form. -/
  isCorrect : Bool
deriving Repr, DecidableEq

/-- A start tag, with its attributes in order.  No two of them have one name. -/
structure Tag where
  name : Text
  attributes : List (Text × Text)
  selfClosing : Bool
deriving Repr, DecidableEq

/-- What a page is made of. -/
inductive Token where
  /-- A document type. -/
  | doctype (declared : Doctype)
  /-- A start tag. -/
  | startTag (tag : Tag)
  /-- An end tag. -/
  | endTag (name : Text)
  /-- A comment. -/
  | comment (text : Text)
  /-- A character of running text. -/
  | char (c : Char)
  /-- A mistake in front of the next token, or in place of one. -/
  | mistake
  /-- The end of the page. -/
  | endOfPage
deriving Repr, DecidableEq

/-- How text is to be read. -/
inductive Reading where
  /-- Tags and references count. -/
  | data
  /-- References count, and the end tag of the named element. -/
  | escapable (name : Text)
  /-- Only the end tag of the named element counts. -/
  | raw (name : Text)
  /-- Only the end tag of a script counts, and not where a comment hides it. -/
  | script
  /-- Nothing counts any more. -/
  | plain
deriving Repr, DecidableEq

/-- The value of an attribute of a tag. -/
def Tag.attribute? (tag : Tag) (name : String) : Option Text := tag.attributes.lookup name.toList

/-- The start tag of a name alone. -/
def Tag.ofName (name : String) : Tag := ⟨name.toList, [], false⟩

namespace Token

/-! ## Characters -/

/-- The character that stands for one that must not occur. -/
def replacement : Char := '\ufffd'

/-- The character, or the replacement character for a null. -/
def clean (c : Char) : Char := if c = '\x00' then replacement else c

/-- A text whose lines end in a line feed alone. -/
def normalizeLines : Text → Text
  | '\r' :: '\n' :: rest => '\n' :: normalizeLines rest
  | '\r' :: rest => '\n' :: normalizeLines rest
  | c :: rest => c :: normalizeLines rest
  | [] => []

/-- A text without the byte order mark at its start. -/
def dropByteOrderMark : Text → Text
  | '\ufeff' :: rest => rest
  | text => text

/-- A text without the byte order mark at its start, whose lines end in a line feed
alone. -/
def normalize (text : Text) : Text := normalizeLines (dropByteOrderMark text)

/-- Whether a character ends a tag name. -/
def endsTagName (c : Char) : Bool := Text.isAsciiBlank c || c == '/' || c == '>'

/-- A name as it is stored: in lower case, without nulls. -/
def nameOf (text : Text) : Text := text.map fun c => clean c.toLower

/-- The text less `start`, if it begins with it up to the case of ASCII letters. -/
def dropKeyword? (start text : Text) : Option Text :=
  if Text.equalsIgnoringCase (text.take start.length) start then some (text.drop start.length)
  else none

end Token

end StyleInline.Html
