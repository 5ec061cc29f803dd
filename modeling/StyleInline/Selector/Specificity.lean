import StyleInline.Text.Alphanumeric

/-!
# Specificity

How much a selector weighs in the ranking of a sheet.  The weight is computed from
the text alone: it is the sum over the parts between single spaces, combinators
included.  A weight is a word of 32 bits, so a sum that does not fit wraps around.

## Main definitions

* `Specificity.tokenWeight` — the weight of one part.
* `Specificity.ofSelector` — the weight of a selector.
-/

namespace StyleInline.Specificity

/-- Whether a token is two identifiers with one `mark` between them. -/
def isMarkedPair (mark : Char) (token : Text) : Bool :=
  match Text.cut? mark token with
  | some (tag, name) => Text.isIdent tag && Text.isIdent name
  | none => false

/-- The weight of one token: 100 for an id, 10 for a class, 1 more with a tag before
it, and 1 for everything else. -/
def tokenWeight (token : Text) : UInt32 :=
  if token.head? = some '#' then 100
  else if token.head? = some '.' then 10
  else if isMarkedPair '#' token then 101
  else if isMarkedPair '.' token then 11
  else 1

/-- The weight of a selector: the weights of its parts are added up, modulo `2 ^ 32`. -/
def ofSelector (selector : Text) : UInt32 :=
  ((Text.splitOn ' ' selector).map fun token => tokenWeight (Text.trim token)).foldl (· + ·) 0

@[simp] theorem tokenWeight_nil : tokenWeight [] = 1 := rfl

end StyleInline.Specificity
