import StyleInline.Program.Html.Rules.Foreign
import StyleInline.Program.Html.Token.Reader

/-!
# Reading a page

Reading a page feeds its tokens, one after the other, to the rules.  Any text can be read:
what is missing is put in, and what has no place is moved or left out.

## Main definitions

* `Builder.feed` — one token fed to the rules until it has been dealt with.
* `Builder.run` — all tokens of a text fed to the rules.
* `Markup.ofText` — the reader of pages.
-/

namespace StyleInline.Html.Builder

/-- Whether the innermost element is foreign. -/
def isInForeign (b : Builder) : Bool := b.topIs (·.vocabulary != .html)

/-- The rule that deals with a token.  Mistakes are of no account. -/
def rule (b : Builder) (token : Token) : Outcome :=
  match token with
  | .mistake => .done b
  | .doctype d => .done (Rules.declare b d)
  | _ =>
    if b.topIs fun e => Rules.isForeign e token then Rules.foreign b token
    else Rules.apply b token

/-- Looks at a token again and again, at most `fuel` times, until it has been dealt with. -/
def settle : (fuel : Nat) → Builder → Token → Builder
  | 0, b, _ => b
  | fuel + 1, b, token =>
    match b.rule token with
    | .done b => b
    | .again b => settle fuel b token

/-- Feeds a token to the rules.  Every further look ends an element or goes on to another
part of the page, so there are not more of them than a few for each open element. -/
def feed (b : Builder) (token : Token) : Builder :=
  let skips := b.skipsLineFeed && token = .char '\n'
  let b := { b with skipsLineFeed := false }
  if skips then b else settle (4 * b.stack.length + 20) b token

/-- Reads a text, at most `fuel` tokens long, to the end of the page. -/
def run : (fuel : Nat) → Builder → Text → Builder
  | 0, b, _ => b.feed .endOfPage
  | _, b, [] => b.feed .endOfPage
  | fuel + 1, b, text =>
    let (tokens, rest) := Token.next b.reading b.isInForeign text
    run fuel (tokens.foldl feed b) rest

end StyleInline.Html.Builder

namespace StyleInline

/-- The reader of pages. -/
def Markup.ofText : PageReader := fun text =>
  let text := Html.Token.normalize text
  (Html.Builder.run text.length Html.Builder.start text).draft.toMarkup

end StyleInline
