import StyleInline.Program.Html.Token.Comment
import StyleInline.Program.Html.Token.Doctype
import StyleInline.Program.Html.Token.Tag

/-!
# Reading tokens

The next tokens are read off the start of a text.  In running text tags, comments and
references count.  The text of some elements goes on to their own end tag.  In a script
a comment may hide that end tag: inside one, a nested script has to end first.

## Main definitions

* `Token.readMarkup` — what an opening bracket begins.
* `Token.readScript` — the text of a script with its end tag.
* `Token.next` — the tokens at the start of a text, and the text behind them.
-/

namespace StyleInline.Html.Token

/-! ## Running text -/

/-- The characters of a text as tokens. -/
def ofChars (text : Text) : List Token := text.map .char

/-- Reads a reference whose ampersand has been read.  One that lacks its semicolon is a
mistake, and counts all the same. -/
def readReference (rest : Text) : List Token × Text :=
  match CharRef.read? false rest with
  | some found =>
    ((if found.isClosed then [] else [.mistake]) ++ ofChars found.chars, found.behind)
  | none => ([.char '&'], rest)

/-- The text up to the first `]]>`, and what stands behind that. -/
def readCharacterData : Text → Text × Text
  | ']' :: ']' :: '>' :: rest => ([], rest)
  | c :: rest =>
    let (text, behind) := readCharacterData rest
    (c :: text, behind)
  | [] => ([], [])

/-- Reads what follows `<!`.  Sections of character data exist in `foreign` content
only. -/
def readDeclaration (foreign : Bool) (rest : Text) : List Token × Text :=
  match Text.dropStart? "--".toList rest with
  | some rest =>
    let (text, rest) := readComment .start rest
    ([.comment text], rest)
  | none =>
    match dropKeyword? "doctype".toList rest with
    | some rest => readDoctype rest
    | none =>
      match (if foreign then Text.dropStart? "[CDATA[".toList rest else none) with
      | some rest =>
        let (text, rest) := readCharacterData rest
        (ofChars text, rest)
      | none =>
        let (text, rest) := readBogusComment rest
        ([.comment text], rest)

/-- Reads what follows `</`. -/
def readEnd (rest : Text) : List Token × Text :=
  match rest with
  | [] => (ofChars "</".toList, [])
  | c :: behind =>
    if c.isAlpha then readTag ofEndTag rest
    else if c = '>' then ([.mistake], behind)
    else
      let (text, behind) := readBogusComment rest
      ([.comment text], behind)

/-- Reads what follows `<`. -/
def readMarkup (foreign : Bool) (rest : Text) : List Token × Text :=
  match rest with
  | [] => ([.char '<'], [])
  | c :: behind =>
    if c = '!' then readDeclaration foreign behind
    else if c = '/' then readEnd behind
    else if c.isAlpha then readTag ofStartTag rest
    else if c = '?' then
      let (text, behind) := readBogusComment rest
      ([.comment text], behind)
    else ([.char '<'], rest)

/-! ## The text of an element -/

/-- The text behind a keyword that a text begins with, if the keyword ends there. -/
def dropWord? (word text : Text) : Option Text :=
  (dropKeyword? word text).bind fun behind =>
    if behind.head?.any endsTagName then some behind else none

/-- Reads the end tag of the named element behind its `<`. -/
def readOwnEnd? (name rest : Text) : Option (List Token × Text) :=
  match rest with
  | '/' :: rest => if (dropWord? name rest).isSome then some (readTag ofEndTag rest) else none
  | _ => none

/-- How deep inside comments and nested scripts the reading of a script is. -/
inductive ScriptDepth where
  /-- In no comment. -/
  | outside
  /-- In a comment. -/
  | inComment
  /-- In a script that has begun inside a comment. -/
  | inNested
deriving Repr, DecidableEq

namespace ScriptDepth

/-- The depth behind an opening bracket. -/
def afterBracket (depth : ScriptDepth) (rest : Text) : ScriptDepth :=
  match depth with
  | outside => if (Text.dropStart? "!--".toList rest).isSome then inComment else outside
  | inComment => if (dropWord? "script".toList rest).isSome then inNested else inComment
  | inNested => if (dropWord? "/script".toList rest).isSome then inComment else inNested

end ScriptDepth

/-- Reads the text of a script, its end tag included.  `dashes` counts the dashes just
read; with two of them a closing bracket ends the comment. -/
def readScript : ScriptDepth → (dashes : Nat) → Text → List Token × Text
  | _, _, [] => ([], [])
  | depth, dashes, c :: rest =>
    if c = '<' then
      match (if depth = .inNested then none else readOwnEnd? "script".toList rest) with
      | some (tokens, behind) => (tokens, dropByteOrderMark behind)
      | none =>
        let (tokens, behind) := readScript (depth.afterBracket rest) 0 rest
        (.char c :: tokens, behind)
    else
      let depth := if c = '>' ∧ 2 ≤ dashes then .outside else depth
      let (tokens, behind) := readScript depth (if c = '-' then dashes + 1 else 0) rest
      (.char (clean c) :: tokens, behind)

/-! ## The next tokens -/

/-- The tokens at the start of a text that is not empty, and the text behind them.  A
byte order mark right behind a script is dropped, as one at the start of a page is. -/
def next (reading : Reading) (foreign : Bool) : Text → List Token × Text
  | [] => ([], [])
  | c :: rest =>
    match reading with
    | .data =>
      if c = '<' then readMarkup foreign rest
      else if c = '&' then readReference rest
      else ([.char c], rest)
    | .escapable name =>
      if c = '<' then (readOwnEnd? name rest).getD ([.char c], rest)
      else if c = '&' then readReference rest
      else ([.char (clean c)], rest)
    | .raw name =>
      if c = '<' then (readOwnEnd? name rest).getD ([.char c], rest)
      else ([.char (clean c)], rest)
    | .script => readScript .outside 0 (c :: rest)
    | .plain => ([.char (clean c)], rest)

end StyleInline.Html.Token
