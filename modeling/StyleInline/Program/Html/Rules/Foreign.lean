import StyleInline.Program.Html.Rules.Page

/-!
# The rules in graphics and formulas

Inside graphics and formulas all tags are taken as they are, with few exceptions.  Some
elements let HTML or text in again, and some HTML elements end the graphics or formula.

## Main definitions

* `Rules.isForeign` — whether these rules deal with a token.
* `Rules.foreign` — the rule in graphics and formulas.
-/

namespace StyleInline.Html.Rules

open Builder

/-- Whether the rules for graphics and formulas deal with a token, given the innermost
element. -/
def isForeign (e : OpenElement) (token : Token) : Bool :=
  match token with
  | .startTag tag =>
    !(e.vocabulary == .html || e.admitsHtml || e.isHtmlAnnotation
      || (e.admitsText && !Element.among ["mglyph", "malignmark"] tag.name)
      || (e.vocabulary == .mathml && e.name == "annotation-xml".toList
        && tag.name == "svg".toList))
  | .char _ =>
    !(e.vocabulary == .html || e.admitsHtml || e.isHtmlAnnotation || e.admitsText)
  | .endOfPage => false
  | _ => e.vocabulary != .html

/-- Whether a start tag ends foreign content. -/
def breaksOut (tag : Tag) : Bool :=
  Element.endsForeignContent tag.name ||
    (tag.name == "font".toList &&
      tag.attributes.any fun a => Element.among ["color", "face", "size"] a.1)

/-- Ends foreign elements until HTML elements or text are let in again, and goes by the rules
for HTML. -/
def breakOut (b : Builder) (token : Token) : Outcome :=
  apply (b.popInside fun e => e.vocabulary == .html || e.admitsHtml || e.admitsText) token

/-- An end tag inside foreign content, given the elements that have been passed: it ends the
innermost element of its name, in any case, as long as only foreign elements are inside
that.  The outermost element never ends so. -/
def foreignEnd (b : Builder) (name : Text) : (passedAny : Bool) → OpenElements → Outcome
  | passedAny, e :: outer :: rest =>
    if passedAny && e.vocabulary == .html then apply b (.endTag name)
    else if Text.lower e.name == name then .done { b with stack := outer :: rest }
    else foreignEnd b name true (outer :: rest)
  | _, _ => .done b

/-- The rule in graphics and formulas. -/
def foreign (b : Builder) (token : Token) : Outcome :=
  match token with
  | .char c =>
    .done ((if Text.isAsciiBlank c || c = '\x00' then b else withoutFrames b).addChar
      (Token.clean c))
  | .comment text => .done (b.addComment text)
  | .startTag tag =>
    if breaksOut tag then breakOut b token
    else .done (b.pushForeign ((b.stack.head?.map (·.vocabulary)).getD .html) tag)
  | .endTag name =>
    if Element.among ["br", "p"] name then breakOut b token
    else foreignEnd b name false b.stack
  | _ => .done b

end StyleInline.Html.Rules
