import StyleInline.Program.Html.CharRef.Reader
import StyleInline.Program.Html.Token.Basic

/-!
# Tags of HTML

A tag is a name with attributes behind it.  Values may stand in quotes of either kind or
in none; of several attributes with one name the first counts.

## Main definitions

* `TagState`, `TagStep` — where in a tag the reading is, and what a character leads to.
* `Token.readTagRest` — the attributes of a tag up to its end.
* `Token.readTag` — a tag from its name on.
-/

namespace StyleInline.Html.Token

/-! ## Attributes -/

/-- Where in a tag the reading is.  Names and values are held last character first. -/
inductive TagState where
  | beforeName
  | name (held : Text)
  | afterName (name : Text)
  | beforeValue (name : Text)
  | quoted (quote : Char) (name held : Text)
  | unquoted (name held : Text)
  | afterValue
  | slash
deriving Repr, DecidableEq

/-- What a character inside a tag leads to. -/
inductive TagStep where
  /-- The reading goes on; an attribute may have ended. -/
  | more (state : TagState) (ended : Option (Text × Text))
  /-- The tag is over; an attribute may have ended with it. -/
  | over (selfClosing : Bool) (ended : Option (Text × Text))
deriving Repr, DecidableEq

namespace TagState

/-- The attribute of a held name and value. -/
def ended (name held : Text) : Option (Text × Text) :=
  some (name, CharRef.decodeValue (held.reverse.map clean))

/-- The step at a place where an attribute may begin.  `finished` is an attribute that
ended just before. -/
def stepBeforeName (finished : Option (Text × Text)) (c : Char) : TagStep :=
  if Text.isAsciiBlank c then .more beforeName finished
  else if c = '/' then .more slash finished
  else if c = '>' then .over false finished
  else .more (name [clean c.toLower]) finished

/-- The step at a character, by the state of the reading. -/
def step : TagState → Char → TagStep
  | beforeName, c => stepBeforeName none c
  | name held, c =>
    if Text.isAsciiBlank c then .more (afterName held.reverse) none
    else if c = '/' then .more slash (ended held.reverse [])
    else if c = '>' then .over false (ended held.reverse [])
    else if c = '=' then .more (beforeValue held.reverse) none
    else .more (name (clean c.toLower :: held)) none
  | afterName n, c =>
    if Text.isAsciiBlank c then .more (afterName n) none
    else if c = '=' then .more (beforeValue n) none
    else stepBeforeName (ended n []) c
  | beforeValue n, c =>
    if Text.isAsciiBlank c then .more (beforeValue n) none
    else if c = '"' || c = '\'' then .more (quoted c n []) none
    else if c = '>' then .over false (ended n [])
    else .more (unquoted n [c]) none
  | quoted quote n held, c =>
    if c = quote then .more afterValue (ended n held) else .more (quoted quote n (c :: held)) none
  | unquoted n held, c =>
    if Text.isAsciiBlank c then .more beforeName (ended n held)
    else if c = '>' then .over false (ended n held)
    else .more (unquoted n (c :: held)) none
  | afterValue, c => stepBeforeName none c
  | slash, c => if c = '>' then .over true none else stepBeforeName none c

end TagState

/-- The rest of a tag. -/
structure TagRest where
  attributes : List (Text × Text)
  selfClosing : Bool
  behind : Text
deriving Repr, DecidableEq

/-- Reads the rest of a tag; nothing when the page ends inside it. -/
def readTagRest : TagState → Text → Option TagRest
  | _, [] => none
  | state, c :: rest =>
    match state.step c with
    | .over selfClosing ended => some ⟨ended.toList, selfClosing, rest⟩
    | .more state ended =>
      (readTagRest state rest).map fun r => { r with attributes := ended.toList ++ r.attributes }

/-- The attributes of a tag: of several with one name the first counts. -/
def distinctAttributes : List (Text × Text) → List (Text × Text)
  | [] => []
  | a :: rest => a :: (distinctAttributes rest).filter fun b => b.1 != a.1

/-! ## Tags -/

/-- Reads a tag from its name on.  A tag inside which the page ends counts for nothing. -/
def readTag (make : Text → TagRest → Token) (text : Text) : List Token × Text :=
  let name := text.takeWhile fun c => !endsTagName c
  match readTagRest .beforeName (text.drop name.length) with
  | none => ([], [])
  | some rest => ([make (nameOf name) rest], rest.behind)

/-- The start tag of a name and the rest of a tag. -/
def ofStartTag (name : Text) (rest : TagRest) : Token :=
  .startTag ⟨name, distinctAttributes rest.attributes, rest.selfClosing⟩

/-- The end tag of a name; it has no attributes. -/
def ofEndTag (name : Text) (_ : TagRest) : Token := .endTag name

end StyleInline.Html.Token
