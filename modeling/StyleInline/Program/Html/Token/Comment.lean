import StyleInline.Program.Html.Token.Basic

/-!
# Comments of HTML

A comment runs from its two dashes to two further ones with a closing bracket behind
them.  There are shorter ways to end one, and text that counts as a comment by mistake.

## Main definitions

* `CommentState` — how far the end of a comment has been read.
* `Token.readComment` — a comment that has been opened.
* `Token.readBogusComment` — what counts as a comment up to the next closing bracket.
-/

namespace StyleInline.Html.Token

/-- How far the end of a comment has been read. -/
inductive CommentState where
  | start
  | startDash
  | body
  | endDash
  | endDashes
  | endBang
deriving Repr, DecidableEq

namespace CommentState

/-- The state after a character in the body of a comment, and what it adds. -/
def ofBody (c : Char) : CommentState × Text :=
  if c = '-' then (endDash, []) else (body, [clean c])

/-- The state after a character, and what it adds to the comment; nothing when the
comment is over. -/
def step? : CommentState → Char → Option (CommentState × Text)
  | start, c => if c = '-' then some (startDash, []) else if c = '>' then none else some (ofBody c)
  | startDash, c =>
    if c = '-' then some (endDashes, [])
    else if c = '>' then none
    else some ((ofBody c).1, '-' :: (ofBody c).2)
  | body, c => some (ofBody c)
  | endDash, c =>
    if c = '-' then some (endDashes, []) else some ((ofBody c).1, '-' :: (ofBody c).2)
  | endDashes, c =>
    if c = '>' then none
    else if c = '!' then some (endBang, [])
    else if c = '-' then some (endDashes, ['-'])
    else some ((ofBody c).1, '-' :: '-' :: (ofBody c).2)
  | endBang, c =>
    if c = '>' then none
    else if c = '-' then some (endDash, "--!".toList)
    else some ((ofBody c).1, "--!".toList ++ (ofBody c).2)

end CommentState

/-- Reads a comment that has been opened: its text and what stands behind it. -/
def readComment : CommentState → Text → Text × Text
  | _, [] => ([], [])
  | state, c :: rest =>
    match state.step? c with
    | none => ([], rest)
    | some (state, added) =>
      let (text, rest) := readComment state rest
      (added ++ text, rest)

/-- Reads what counts as a comment up to the next closing bracket. -/
def readBogusComment (text : Text) : Text × Text :=
  ((text.takeWhile (· != '>')).map clean, (text.dropWhile (· != '>')).tail)

end StyleInline.Html.Token
