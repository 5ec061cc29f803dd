import StyleInline.Text.Basic

/-!
# Comments

A stylesheet may hold block comments, from `/*` to the next `*/`, and line comments,
from `//` to the end of the line.  Block comments go first, so a line comment may
begin where a block comment has been taken out.  A block comment that is never
closed is no comment, and its text stays.

## Main definitions

* `Comment.stripBlocks`, `Comment.stripLines` — one kind of comment taken out.
* `Comment.strip` — both.
-/

namespace StyleInline.Comment

/-- The text without its block comments.  Inside a comment `held` is what has been
read of it, last character first: it comes back if the comment is not closed. -/
def stripBlocksFrom : (held : Option Text) → Text → Text
  | none, '/' :: '*' :: rest => stripBlocksFrom (some ['*', '/']) rest
  | none, c :: rest => c :: stripBlocksFrom none rest
  | none, [] => []
  | some _, '*' :: '/' :: rest => stripBlocksFrom none rest
  | some held, c :: rest => stripBlocksFrom (some (c :: held)) rest
  | some held, [] => held.reverse

/-- The text without its block comments. -/
def stripBlocks (text : Text) : Text := stripBlocksFrom none text

/-- The text without its line comments; `inside` says whether it begins in one.  The
line feed at the end of a comment stays. -/
def stripLinesFrom : (inside : Bool) → Text → Text
  | false, '/' :: '/' :: rest => stripLinesFrom true rest
  | false, c :: rest => c :: stripLinesFrom false rest
  | true, c :: rest =>
    if c = '\n' then '\n' :: stripLinesFrom false rest else stripLinesFrom true rest
  | _, [] => []

/-- The text without its line comments. -/
def stripLines (text : Text) : Text := stripLinesFrom false text

/-- The text without its comments. -/
def strip (text : Text) : Text := stripLines (stripBlocks text)

@[simp] theorem strip_nil : strip [] = [] := rfl

end StyleInline.Comment
