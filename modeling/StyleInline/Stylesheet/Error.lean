import StyleInline.Text.Basic

/-!
# Errors of the stylesheet language

What can be wrong with the text of a stylesheet, and the wording of it.
-/

namespace StyleInline

/-- Why a stylesheet, or a list of declarations, cannot be read. -/
inductive SyntaxError where
  /-- A segment is not of the form `property: value`. -/
  | malformedDeclaration (segment : Text)
  /-- The text uses a construct outside the language. -/
  | unsupportedConstruct (construct : Text)
  /-- A semicolon stands where a selector was expected. -/
  | straySemicolon (context : Text)
  /-- The text ends before the block that follows `selector` is closed, or begun. -/
  | unterminatedBlock (selector : Text)
deriving Repr, DecidableEq

namespace SyntaxError

/-- The wording of an error. -/
def message : SyntaxError → Text
  | malformedDeclaration segment =>
    "malformed declaration '".toList ++ segment ++ "': expected 'property: value'".toList
  | unsupportedConstruct construct => "unsupported CSS construct: ".toList ++ construct
  | straySemicolon context =>
    "stray ';' outside a rule block near '".toList ++ context ++ "'".toList
  | unterminatedBlock selector =>
    "unterminated rule block after '".toList ++ selector ++ "'".toList

end SyntaxError

end StyleInline
