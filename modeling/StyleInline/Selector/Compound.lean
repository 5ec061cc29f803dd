import StyleInline.Selector.Basic
import StyleInline.Text.Alphanumeric

/-!
# Reading a compound

A compound is written without blanks: a tag, and behind it at most one attribute
test, one class and one id.  It is read from the end.  Each reader below looks for
one kind of suffix; what it leaves is read by the next one, and what is left at the
end must be a tag, `*`, nothing, or a tag with a pseudo-class.

## Main definitions

* `Compound.Reader` — one reader of suffixes; `Compound.readers` lists them.
* `Compound.ofResidue` — the reading of what the suffixes leave.
* `Compound.ofToken` — the reading of a whole token.
-/

namespace StyleInline.Compound

/-- What a reader finds at the end of a token: nothing, or the text before the suffix
and the predicate that the suffix states. -/
abbrev Found := Option (Text × Predicate)

/-- A reader of one kind of suffix. -/
abbrev Reader := Text → Except SelectorError Found

/-! ## Ids and classes -/

/-- Cuts off `mark` and an identifier at the end of a token. -/
def cutIdent? (mark : Char) (token : Text) : Option (Text × Text) :=
  match Text.cutLast? mark token with
  | some (before, name) => if Text.isIdent name then some (before, name) else none
  | none => none

/-- Reads `#name`. -/
def readId : Reader := fun token =>
  .ok ((cutIdent? '#' token).map fun (before, name) => (before, .id name))

/-- Reads `.name`. -/
def readClass : Reader := fun token =>
  .ok ((cutIdent? '.' token).map fun (before, name) => (before, .hasClass name))

/-! ## Attribute tests -/

/-- The tag and the inner text of `tag[inner]`, where the tag is an identifier and the
inner text is not empty and holds no closing bracket. -/
def cutBrackets? (token : Text) : Option (Text × Text) :=
  match Text.dropEnd? ']' token with
  | none => none
  | some body =>
    match Text.cut? '[' body with
    | none => none
    | some (tag, inner) =>
      if Text.isIdent tag && !inner.isEmpty && !inner.contains ']' then some (tag, inner) else none

/-- What is wrong with the name of an attribute, if anything.  A name that ends in
`^`, `$` or `*` was meant for an operator outside the language. -/
def nameError? (token name : Text) : Option SelectorError :=
  if Text.isIdent name then none
  else if name.getLast? = some '^' || name.getLast? = some '$' || name.getLast? = some '*' then
    some (.unsupported token)
  else some (.malformed token)

/-- Whether a character is a quotation mark. -/
def isQuote (c : Char) : Bool := c == '"' || c == '\''

/-- The value that is written: what begins with a quotation mark must end with the
same one behind it and loses both; anything else stands for itself. -/
def unquote? : Text → Option Text
  | [] => some []
  | c :: rest => if isQuote c then Text.dropEnd? c rest else some (c :: rest)

/-- Reads `tag[name⟨operator⟩value]`.  The last occurrence of the operator counts, and
something must stand on both sides of it. -/
def readOperator (operator : Text) (test : Text → Text → Predicate) : Reader := fun token =>
  match cutBrackets? token with
  | none => .ok none
  | some (tag, inner) =>
    match Text.cutAtLast? operator inner with
    | none => .ok none
    | some (name, written) =>
      if name.isEmpty || written.isEmpty then .ok none
      else
        match nameError? token name with
        | some e => .error e
        | none =>
          match unquote? written with
          | none => .error (.malformed token)
          | some value => .ok (some (tag, test name value))

/-- Reads `tag[name]`. -/
def readPresent : Reader := fun token =>
  match cutBrackets? token with
  | none => .ok none
  | some (tag, inner) =>
    match nameError? token inner with
    | some e => .error e
    | none => .ok (some (tag, .present inner))

/-- The readers, in the order in which they look at a token. -/
def readers : List Reader := [
  readId,
  readClass,
  readOperator "~=".toList .word,
  readOperator "|=".toList .dash,
  readOperator "=".toList .equals,
  readPresent]

/-- Lets the readers look at a token one after the other.  The answer is what they
leave of it and the predicates found, in the order of finding. -/
def readSuffixes : List Reader → Text → Except SelectorError (Text × List Predicate)
  | [], token => .ok (token, [])
  | reader :: later, token =>
    match reader token with
    | .error e => .error e
    | .ok none => readSuffixes later token
    | .ok (some (before, predicate)) =>
      (readSuffixes later before).map fun (residue, found) => (residue, predicate :: found)

/-! ## Tags and pseudo-classes -/

/-- The predicates of a pseudo-class.  Links and interaction have no state here, so
those pseudo-classes always hold. -/
def pseudoClass? (name : Text) : Option (List Predicate) :=
  if name = "first-child".toList then some [.firstChild]
  else if name = "last-child".toList then some [.lastChild]
  else if name = "link".toList || name = "hover".toList || name = "visit".toList
      || name = "active".toList then some []
  else none

/-- The compound made of what the suffixes leave of `token` and of their predicates. -/
def ofResidue (token residue : Text) (predicates : List Predicate) :
    Except SelectorError Compound :=
  match Text.cut? ':' residue with
  | some (tag, pseudo) =>
    if Text.isIdent tag then
      match pseudoClass? pseudo with
      | some more => .ok ⟨some tag, predicates ++ more⟩
      | none => .error (.unsupported token)
    else .error (.unsupported token)
  | none =>
    if residue.isEmpty || residue = ['*'] then .ok ⟨none, predicates⟩
    else if Text.isIdent residue then .ok ⟨some residue, predicates⟩
    else .error (.malformed residue)

/-- Whether a tilde stands outside brackets, of which `depth` are open. -/
def hasOuterTilde : (depth : Nat) → Text → Bool
  | _, [] => false
  | depth, c :: rest =>
    if c = '[' then hasOuterTilde (depth + 1) rest
    else if c = ']' then hasOuterTilde (depth - 1) rest
    else (c == '~' && depth == 0) || hasOuterTilde depth rest

/-- Reads a compound.  A tilde outside brackets would be a combinator that the
language does not have. -/
def ofToken (token : Text) : Except SelectorError Compound :=
  if hasOuterTilde 0 token then .error (.unsupported token)
  else
    match readSuffixes readers token with
    | .error e => .error e
    | .ok (residue, predicates) => ofResidue token residue predicates

@[simp] theorem readSuffixes_nil (token : Text) : readSuffixes [] token = .ok (token, []) := rfl

end StyleInline.Compound
