import StyleInline.Text.Basic

/-!
# Kinds of elements

The reading of a page asks of an element to which vocabulary it belongs and in which of
several lists its name stands.  The names of the graphics vocabulary have capitals in
places; they are restored here.

## Main definitions

* `Vocabulary` — the three vocabularies.
* `Element.isSpecial` and its neighbours — the lists.
* `Foreign.tagName`, `Foreign.attributeParts` — spellings outside the HTML vocabulary.
-/

namespace StyleInline.Html

/-- The vocabulary that an element belongs to. -/
inductive Vocabulary where
  | html
  | svg
  | mathml
deriving Repr, DecidableEq

namespace Element

/-- Whether a name is one of those in a list. -/
def among (names : List String) (name : Text) : Bool := names.contains (String.ofList name)

/-- Elements of running text that never have content. -/
def isEmptyElement : Text → Bool :=
  among ["area", "br", "embed", "img", "input", "keygen", "wbr"]

/-- Elements without content that describe the element around them. -/
def isEmptyPart : Text → Bool := among ["param", "source", "track"]

/-- Elements that belong into the head of a page. -/
def isHeadContent : Text → Bool :=
  among ["base", "basefont", "bgsound", "link", "meta", "noframes", "script", "style", "template",
    "title"]

/-- Elements of the head that never have content. -/
def isEmptyHeadContent : Text → Bool := among ["base", "basefont", "bgsound", "link", "meta"]

/-- Elements that close an open paragraph when they begin. -/
def isBlock : Text → Bool :=
  among ["address", "article", "aside", "blockquote", "center", "details", "dialog", "dir", "div",
    "dl", "fieldset", "figcaption", "figure", "footer", "header", "hgroup", "main", "menu", "nav",
    "ol", "p", "search", "section", "summary", "ul"]

/-- Elements whose end tag closes all that is open inside them. -/
def isClosedByEnd : Text → Bool :=
  among ["address", "article", "aside", "blockquote", "button", "center", "details", "dialog",
    "dir", "div", "dl", "fieldset", "figcaption", "figure", "footer", "header", "hgroup",
    "listing", "main", "menu", "nav", "ol", "pre", "search", "section", "summary", "ul"]

/-- Elements that formatting does not reach into. -/
def isFormattingWall : Text → Bool := among ["applet", "marquee", "object"]

/-- Elements of formatting, links and unbroken lines aside. -/
def isFormatting : Text → Bool :=
  among ["b", "big", "code", "em", "font", "i", "s", "small", "strike", "strong", "tt", "u"]

/-- Headings. -/
def isHeading : Text → Bool := among ["h1", "h2", "h3", "h4", "h5", "h6"]

/-- Parts of a table that are of no account outside one. -/
def isTablePart : Text → Bool :=
  among ["caption", "col", "colgroup", "tbody", "td", "tfoot", "th", "thead", "tr"]

/-- Groups of rows. -/
def isRowGroup : Text → Bool := among ["tbody", "tfoot", "thead"]

/-- Cells. -/
def isCell : Text → Bool := among ["td", "th"]

/-- Elements that must not hold text of their own inside a table. -/
def isTableFrame : Text → Bool := among ["table", "tbody", "tfoot", "thead", "tr"]

/-- Elements whose end is understood when an outer one ends. -/
def hasImpliedEnd : Text → Bool :=
  among ["dd", "dt", "li", "optgroup", "option", "p", "rb", "rp", "rt", "rtc"]

/-- Elements whose end tag does not reach beyond them. -/
def isSpecial : Text → Bool :=
  among ["address", "applet", "area", "article", "aside", "base", "basefont", "bgsound",
    "blockquote", "body", "br", "button", "caption", "center", "col", "colgroup", "dd", "details",
    "dir", "div", "dl", "dt", "embed", "fieldset", "figcaption", "figure", "footer", "form",
    "frame", "frameset", "h1", "h2", "h3", "h4", "h5", "h6", "head", "header", "hgroup", "hr",
    "html", "iframe", "img", "input", "isindex", "li", "link", "listing", "main", "marquee", "menu",
    "meta", "nav", "noembed", "noframes", "noscript", "object", "ol", "p", "param", "plaintext",
    "pre", "script", "section", "select", "source", "style", "summary", "table", "tbody", "td",
    "template", "textarea", "tfoot", "th", "thead", "title", "tr", "track", "ul", "wbr", "xmp"]

/-- Elements that an open element is not sought beyond. -/
def isScope : Vocabulary → Text → Bool
  | .html =>
    among ["applet", "caption", "html", "marquee", "object", "table", "td", "template", "th"]
  | .svg => among ["desc", "foreignObject", "title"]
  | .mathml => among ["mi", "mn", "mo", "ms", "mtext"]

/-- Start tags that end foreign content. -/
def endsForeignContent : Text → Bool :=
  among ["b", "big", "blockquote", "body", "br", "center", "code", "dd", "div", "dl", "dt", "em",
    "embed", "h1", "h2", "h3", "h4", "h5", "h6", "head", "hr", "i", "img", "li", "listing", "menu",
    "meta", "nobr", "ol", "p", "pre", "ruby", "s", "small", "span", "strike", "strong", "sub",
    "sup", "table", "tt", "u", "ul", "var"]

end Element

namespace Foreign

/-- The tag names of the graphics vocabulary that have capitals. -/
def tagNames : List String := ["altGlyph", "altGlyphDef", "altGlyphItem", "animateColor",
  "animateMotion", "animateTransform", "clipPath", "feBlend", "feColorMatrix",
  "feComponentTransfer", "feComposite", "feConvolveMatrix", "feDiffuseLighting",
  "feDisplacementMap", "feDistantLight", "feDropShadow", "feFlood", "feFuncA", "feFuncB",
  "feFuncG", "feFuncR", "feGaussianBlur", "feImage", "feMerge", "feMergeNode", "feMorphology",
  "feOffset", "fePointLight", "feSpecularLighting", "feSpotLight", "feTile", "feTurbulence",
  "foreignObject", "glyphRef", "linearGradient", "radialGradient", "textPath"]

/-- The attribute names of the graphics vocabulary that have capitals. -/
def attributeNames : List String := ["attributeName", "attributeType", "baseFrequency",
  "baseProfile", "calcMode", "clipPathUnits", "diffuseConstant", "edgeMode", "filterUnits",
  "glyphRef", "gradientTransform", "gradientUnits", "kernelMatrix", "kernelUnitLength",
  "keyPoints", "keySplines", "keyTimes", "lengthAdjust", "limitingConeAngle", "markerHeight",
  "markerUnits", "markerWidth", "maskContentUnits", "maskUnits", "numOctaves", "pathLength",
  "patternContentUnits", "patternTransform", "patternUnits", "pointsAtX", "pointsAtY",
  "pointsAtZ", "preserveAlpha", "preserveAspectRatio", "primitiveUnits", "refX", "refY",
  "repeatCount", "repeatDur", "requiredExtensions", "requiredFeatures", "specularConstant",
  "specularExponent", "spreadMethod", "startOffset", "stdDeviation", "stitchTiles",
  "surfaceScale", "systemLanguage", "tableValues", "targetX", "targetY", "textLength", "viewBox",
  "viewTarget", "xChannelSelector", "yChannelSelector", "zoomAndPan"]

/-- The spelling in a list that a name in lower case stands for, or the name itself. -/
def spelling (names : List String) (name : Text) : Text :=
  match names.find? fun n => Text.lower n.toList == name with
  | some n => n.toList
  | none => name

/-- The spelling of a tag name in a vocabulary. -/
def tagName : Vocabulary → Text → Text
  | .svg, name => spelling tagNames name
  | _, name => name

/-- The spelling of an attribute name in a vocabulary. -/
def attributeName : Vocabulary → Text → Text
  | .svg, name => spelling attributeNames name
  | .mathml, name => spelling ["definitionURL"] name
  | .html, name => name

/-- The attribute names whose first part is a qualifier outside the HTML vocabulary. -/
def qualifiedNames : List String := ["xlink:actuate", "xlink:arcrole", "xlink:href", "xlink:role",
  "xlink:show", "xlink:title", "xlink:type", "xml:base", "xml:lang", "xml:space", "xmlns:xlink"]

/-- The qualifier and the local name of an attribute outside the HTML vocabulary.  The
declaration of a vocabulary has a qualifier, which is empty. -/
def attributeParts (vocabulary : Vocabulary) (name : Text) : Option Text × Text :=
  if name = "xmlns".toList then (some [], name)
  else if Element.among qualifiedNames name then
    match Text.cut? ':' name with
    | some (qualifier, localName) => (some qualifier, localName)
    | none => (none, name)
  else (none, attributeName vocabulary name)

end Foreign

end StyleInline.Html
