import StyleInline.Program.Html.Token.Basic

/-!
# Document types

A document type is declared by a name and up to two identifiers.  Whatever stands inside
it, the declaration ends with the next closing bracket.

## Main definitions

* `Token.readIds` — the identifiers of a declaration.
* `Token.readDoctype` — a declaration behind its keyword.
* `Doctype.isLegacy` — whether pages of a type are laid out by the rules of old.
-/

namespace StyleInline.Html

namespace Token

/-! ## Declarations -/

/-- The text from its first character that is not blank. -/
def skipBlanks (text : Text) : Text := text.dropWhile Text.isAsciiBlank

/-- Reads a quoted text. -/
def readQuoted? : Text → Option (Text × Text)
  | [] => none
  | c :: rest =>
    if c = '"' || c = '\'' then Text.cut? c rest else none

/-- Reads the identifiers of a document type. -/
def readIds (text : Text) : Option Text × Option Text × Bool :=
  let text := skipBlanks text
  match dropKeyword? "public".toList text with
  | some rest =>
    match readQuoted? (skipBlanks rest) with
    | none => (none, none, false)
    | some (publicId, rest) =>
      match readQuoted? (skipBlanks rest) with
      | none => (some publicId, none, (skipBlanks rest).isEmpty)
      | some (systemId, _) => (some publicId, some systemId, true)
  | none =>
    match dropKeyword? "system".toList text with
    | some rest =>
      match readQuoted? (skipBlanks rest) with
      | none => (none, none, false)
      | some (systemId, _) => (none, some systemId, true)
    | none => (none, none, text.isEmpty)

/-- Reads a document type behind its keyword; it ends with the next closing bracket. -/
def readDoctype (text : Text) : List Token × Text :=
  let body := skipBlanks (text.takeWhile (· != '>'))
  let closed := text.contains '>'
  let name := body.takeWhile fun c => !Text.isAsciiBlank c
  let (publicId, systemId, isCorrect) := readIds (body.drop name.length)
  ([.doctype ⟨nameOf name, publicId, systemId, isCorrect && closed && !name.isEmpty⟩],
    (text.dropWhile (· != '>')).tail)

end Token

/-! ## Types of old -/

namespace Doctype

/-- What the public identifiers of types of old begin with. -/
def legacyPublicStarts : List String := [
  "-//advasoft ltd//dtd html 3.0 aswedit + extensions//",
  "-//as//dtd html 3.0 aswedit + extensions//", "-//ietf//dtd html 2.0 level 1//",
  "-//ietf//dtd html 2.0 level 2//", "-//ietf//dtd html 2.0 strict level 1//",
  "-//ietf//dtd html 2.0 strict level 2//", "-//ietf//dtd html 2.0 strict//",
  "-//ietf//dtd html 2.0//", "-//ietf//dtd html 2.1e//", "-//ietf//dtd html 3.0//",
  "-//ietf//dtd html 3.2 final//", "-//ietf//dtd html 3.2//", "-//ietf//dtd html 3//",
  "-//ietf//dtd html level 0//", "-//ietf//dtd html level 1//", "-//ietf//dtd html level 2//",
  "-//ietf//dtd html level 3//", "-//ietf//dtd html strict level 0//",
  "-//ietf//dtd html strict level 1//", "-//ietf//dtd html strict level 2//",
  "-//ietf//dtd html strict level 3//", "-//ietf//dtd html strict//", "-//ietf//dtd html//",
  "-//metrius//dtd metrius presentational//",
  "-//microsoft//dtd internet explorer 2.0 html strict//",
  "-//microsoft//dtd internet explorer 2.0 html//",
  "-//microsoft//dtd internet explorer 2.0 tables//",
  "-//microsoft//dtd internet explorer 3.0 html strict//",
  "-//microsoft//dtd internet explorer 3.0 html//",
  "-//microsoft//dtd internet explorer 3.0 tables//", "-//netscape comm. corp.//dtd html//",
  "-//netscape comm. corp.//dtd strict html//", "-//o'reilly and associates//dtd html 2.0//",
  "-//o'reilly and associates//dtd html extended 1.0//",
  "-//o'reilly and associates//dtd html extended relaxed 1.0//",
  "-//softquad software//dtd hotmetal pro 6.0::19990601::extensions to html 4.0//",
  "-//softquad//dtd hotmetal pro 4.0::19971010::extensions to html 4.0//",
  "-//spyglass//dtd html 2.0 extended//", "-//sq//dtd html 2.0 hotmetal + extensions//",
  "-//sun microsystems corp.//dtd hotjava html//",
  "-//sun microsystems corp.//dtd hotjava strict html//", "-//w3c//dtd html 3 1995-03-24//",
  "-//w3c//dtd html 3.2 draft//", "-//w3c//dtd html 3.2 final//", "-//w3c//dtd html 3.2//",
  "-//w3c//dtd html 3.2s draft//", "-//w3c//dtd html 4.0 frameset//",
  "-//w3c//dtd html 4.0 transitional//", "-//w3c//dtd html experimental 19960712//",
  "-//w3c//dtd html experimental 970421//", "-//w3c//dtd w3 html//", "-//w3o//dtd w3 html 3.0//",
  "-//webtechs//dtd mozilla html 2.0//", "-//webtechs//dtd mozilla html//"]

/-- Public identifiers that are of old as a whole. -/
def legacyPublicIds : List String :=
  ["-//w3o//dtd w3 html strict 3.0//en//", "-/w3c/dtd html 4.0 transitional/en", "html"]

/-- System identifiers that are of old as a whole. -/
def legacySystemIds : List String :=
  ["http://www.ibm.com/data/dtd/v11/ibmxhtml1-transitional.dtd"]

/-- What the public identifiers of types begin with that are of old unless there is a
system identifier. -/
def legacyStartsWithoutSystemId : List String :=
  ["-//w3c//dtd html 4.01 frameset//", "-//w3c//dtd html 4.01 transitional//"]

/-- Whether an identifier is one of a list, up to the case of ASCII letters. -/
def isAmong (ids : List String) (id : Option Text) : Bool :=
  id.any fun id => ids.any fun known => known.toList == Text.lower id

/-- Whether an identifier begins with one of a list, up to the case of ASCII letters. -/
def beginsWithAny (starts : List String) (id : Option Text) : Bool :=
  id.any fun id => starts.any fun start => (Text.dropStart? start.toList (Text.lower id)).isSome

/-- Whether a page of this document type is laid out by the rules of old. -/
def isLegacy (d : Doctype) : Bool :=
  !d.isCorrect || d.name != "html".toList ||
    isAmong legacyPublicIds d.publicId || isAmong legacySystemIds d.systemId ||
    beginsWithAny legacyPublicStarts d.publicId ||
    (beginsWithAny legacyStartsWithoutSystemId d.publicId && d.systemId.isNone)

end Doctype

end StyleInline.Html
