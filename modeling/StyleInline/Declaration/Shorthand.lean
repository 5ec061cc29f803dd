import StyleInline.Declaration.Basic

/-!
# Shorthands

A shorthand property stands for several longhands at once.  Its value is cut into
tokens, and the tokens are handed out to the longhands: by position for borders,
backgrounds and the like, around the edges for `margin` and `padding`, and around
the token with a slash for `font`.

## Main definitions

* `Shorthand.positional`, `Shorthand.box`, `Shorthand.font` — the longhands that one
  value writes, in the order in which it writes them.
* `Declaration.longhands` — the longhands of any declaration.
* `Declarations.expand` — a block with all shorthands expanded.
-/

namespace StyleInline

namespace Shorthand

/-- The property `shorthand-suffix`. -/
def longhand (shorthand suffix : Text) : Text := shorthand ++ '-' :: suffix

/-- The two halves of a token that holds exactly one slash. -/
def lineHeightHalves? (token : Text) : Option (Text × Text) :=
  match Text.splitOn '/' token with
  | [size, lineHeight] => some (size, lineHeight)
  | _ => none

/-- What a size token writes: `size/line-height` writes both, any other token the
size alone. -/
def sizeWrites (token : Text) : List Declaration :=
  match lineHeightHalves? token with
  | some (size, lineHeight) => [("line-height".toList, lineHeight), ("font-size".toList, size)]
  | none => [("font-size".toList, token)]

/-! ## By position -/

/-- What the longhand of one suffix writes when it gets `token`. -/
def positionalWrites (shorthand suffix token : Text) : List Declaration :=
  if longhand shorthand suffix = "font-size".toList then sizeWrites token
  else [(longhand shorthand suffix, token)]

/-- The i-th suffix gets the i-th token between spaces; suffixes without a token are
not written, and tokens without a suffix are not used. -/
def positional (shorthand value : Text) (suffixes : List Text) : List Declaration :=
  (suffixes.zip (Text.spacedTokens value)).flatMap fun (suffix, token) =>
    positionalWrites shorthand suffix token

/-- The suffixes of a border: its width, style and colour. -/
def borderSuffixes : List Text := ["width".toList, "style".toList, "color".toList]

/-- The suffixes of `font`. -/
def fontSuffixes : List Text :=
  ["style".toList, "variant".toList, "weight".toList, "size".toList, "family".toList]

/-- The shorthands expanded by position, with their suffixes in order. -/
def positionalTable : List (Text × List Text) := [
  ("background".toList, ["color".toList, "image".toList, "repeat".toList,
    "attachment".toList, "position".toList]),
  ("border".toList, borderSuffixes),
  ("border-top".toList, borderSuffixes),
  ("border-right".toList, borderSuffixes),
  ("border-bottom".toList, borderSuffixes),
  ("border-left".toList, borderSuffixes),
  ("outline".toList, ["color".toList, "style".toList, "width".toList]),
  ("list-style".toList, ["type".toList, "position".toList, "image".toList])]

/-! ## Around the edges -/

/-- One to four values for the four edges: one for all; the vertical and the
horizontal; the top, the horizontal and the bottom; each edge by itself, clockwise
from the top.  Values beyond the fourth are not used, and a blank value leaves the
shorthand as it is. -/
def box (shorthand value : Text) : List Declaration :=
  let edge (side : Text) (v : Text) : Declaration := (longhand shorthand side, v)
  let edges (top bottom right left : Text) : List Declaration :=
    [edge "top".toList top, edge "bottom".toList bottom,
      edge "right".toList right, edge "left".toList left]
  match Text.words value with
  | [] => [(shorthand, value)]
  | [all] => edges all all all all
  | [vertical, horizontal] => edges vertical vertical horizontal horizontal
  | [top, horizontal, bottom] => edges top bottom horizontal horizontal
  | top :: right :: bottom :: left :: _ =>
    [edge "top".toList top, edge "right".toList right,
      edge "bottom".toList bottom, edge "left".toList left]

/-- The shorthands for the four edges of a box. -/
def boxTable : List Text := ["margin".toList, "padding".toList]

/-! ## Around the slash -/

/-- The tokens before the first one that holds a slash, and that token with those
behind it. -/
def beforeSlash (tokens : List Text) : List Text × List Text :=
  tokens.span fun token => !token.contains '/'

/-- A token with a slash is the size; up to three tokens before it are style, variant
and weight, and the one behind it is the family.  Without such a token `font` is
expanded by position. -/
def font (value : Text) : List Declaration :=
  match beforeSlash (Text.spacedTokens value) with
  | (_, []) => positional "font".toList value fontSuffixes
  | (before, size :: after) =>
    ((fontSuffixes.zip before).take 3).map (fun (suffix, token) =>
        (longhand "font".toList suffix, token))
      ++ sizeWrites size
      ++ (after.take 1).map fun family => ("font-family".toList, family)

end Shorthand

/-! ## Expansion -/

/-- The longhands that a declaration writes, in order; a property that is no
shorthand writes itself. -/
def Declaration.longhands (d : Declaration) : List Declaration :=
  match Shorthand.positionalTable.lookup d.1 with
  | some suffixes => Shorthand.positional d.1 d.2 suffixes
  | none =>
    if d.1 = "font".toList then Shorthand.font d.2
    else if d.1 ∈ Shorthand.boxTable then Shorthand.box d.1 d.2
    else [d]

/-- The block with every shorthand replaced by its longhands; a longhand written
twice keeps its first place and its last value. -/
def Declarations.expand (block : Declarations) : Declarations :=
  OrderedMap.ofList (block.entries.flatMap Declaration.longhands)

@[simp] theorem Declarations.expand_empty :
    Declarations.expand OrderedMap.empty = OrderedMap.empty := rfl

end StyleInline
