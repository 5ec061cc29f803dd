import StyleInline.Proofs.Stylesheet.CommentFree
import StyleInline.Stylesheet.Basic

/-!
# Block comments are not seen

A block comment may stand behind any text in which no comment begins, and hold anything that
does not close it: a stylesheet is read as if the comment were not there.  The two marks may
not overlap, so the slash of the opening one does not close the comment, and a star in front
of the closing mark belongs to what the comment holds.

## Main definitions

* `Comment.block` — the written form of a block comment.

## Main results

* `Comment.stripBlocksFrom_none_append` — the text in front of a comment.
* `Comment.stripBlocksFrom_some_append` — the text inside it.
* `Comment.strip_append_block`, `Comment.transparent` — a block comment is not seen.
-/

namespace StyleInline.Comment

variable {a b : Char} {before inner text rest : Text}

/-- The written form of a block comment. -/
def block (inner : Text) : Text := '/' :: '*' :: (inner ++ ['*', '/'])

/-! ## In front of a comment and inside it -/

/-- Where a pair does not occur, nor across the end of the text, its second character does not
follow its first at the start of the text. -/
theorem head?_append_ne (h : ¬ [a, b] <:+: a :: rest) (hend : rest = [] → text.head? ≠ some b) :
    (rest ++ text).head? ≠ some b := by
  cases rest with
  | nil => exact hend rfl
  | cons c rest =>
    intro hhead
    have hc : c = b := by simpa using hhead
    subst hc
    exact h (List.prefix_append [a, c] rest).isInfix

/-- A text in which no block comment begins stays, whatever stands behind it, if its last
character cannot begin one there. -/
theorem stripBlocksFrom_none_append (hopen : ¬ ['/', '*'] <:+: before)
    (hlast : before.getLast? ≠ some '/') (text : Text) :
    stripBlocksFrom none (before ++ text) = before ++ stripBlocksFrom none text := by
  induction before with
  | nil => rfl
  | cons c before ih =>
    have hstep : stripBlocksFrom none (c :: (before ++ text))
        = c :: stripBlocksFrom none (before ++ text) := by
      rw [stripBlocksFrom]
      rintro later rfl hlater
      have hend : before = [] → text.head? ≠ some '*' := by
        rintro rfl
        exact absurd rfl hlast
      exact head?_append_ne hopen hend (by rw [hlater, List.head?_cons])
    have hbefore : before.getLast? ≠ some '/' := by
      cases before with
      | nil => simp
      | cons d before => rwa [List.getLast?_cons_cons] at hlast
    rw [List.cons_append, hstep, ih (fun h => hopen (List.infix_cons h)) hbefore,
      List.cons_append]

/-- What a comment holds up to its closing mark goes with it. -/
theorem stripBlocksFrom_some_append (hclose : ¬ ['*', '/'] <:+: inner) (held text : Text) :
    stripBlocksFrom (some held) (inner ++ '*' :: '/' :: text) = stripBlocksFrom none text := by
  induction inner generalizing held with
  | nil => rw [List.nil_append, stripBlocksFrom]
  | cons c inner ih =>
    have hstep : stripBlocksFrom (some held) (c :: (inner ++ '*' :: '/' :: text))
        = stripBlocksFrom (some (c :: held)) (inner ++ '*' :: '/' :: text) := by
      rw [stripBlocksFrom]
      rintro later rfl hlater
      have hend : inner = [] → ('*' :: '/' :: text).head? ≠ some '/' := fun _ => by simp
      exact head?_append_ne hclose hend (by rw [hlater, List.head?_cons])
    rw [List.cons_append, hstep, ih fun h => hclose (List.infix_cons h)]

/-! ## Comments -/

/-- A block comment is taken out with nothing else. -/
theorem strip_append_block (hopen : ¬ ['/', '*'] <:+: before)
    (hlast : before.getLast? ≠ some '/') (hclose : ¬ ['*', '/'] <:+: inner) (text : Text) :
    strip (before ++ (block inner ++ text)) = strip (before ++ text) := by
  have hblock : stripBlocksFrom none (block inner ++ text) = stripBlocksFrom none text := by
    have htext : block inner ++ text = '/' :: '*' :: (inner ++ '*' :: '/' :: text) := by
      simp [block]
    rw [htext, stripBlocksFrom, stripBlocksFrom_some_append hclose]
  rw [strip, strip, stripBlocks, stripBlocks, stripBlocksFrom_none_append hopen hlast,
    stripBlocksFrom_none_append hopen hlast, hblock]

/-- **Comments are transparent**: a block comment behind a text in which none begins is not
seen, no line comment is left of any text, and a text in which no comment begins stays as it
is. -/
theorem transparent :
    (∀ before inner : Text, ¬ ['/', '*'] <:+: before → before.getLast? ≠ some '/' →
      ¬ ['*', '/'] <:+: inner → ∀ text,
        strip (before ++ (block inner ++ text)) = strip (before ++ text) ∧
          Rule.parseStylesheet (before ++ (block inner ++ text))
            = Rule.parseStylesheet (before ++ text)) ∧
      ∀ text, ¬ ['/', '/'] <:+: strip text ∧
        (¬ ['/', '/'] <:+: text → ¬ ['/', '*'] <:+: text → strip text = text) := by
  constructor
  · intro before inner hopen hlast hclose text
    have hstrip := strip_append_block hopen hlast hclose text
    exact ⟨hstrip, by rw [Rule.parseStylesheet, hstrip, ← Rule.parseStylesheet]⟩
  · intro text
    exact ⟨not_infix_strip text, fun hlines hblocks => (free_iff.2 ⟨hlines, hblocks⟩).strip_eq⟩

/-- What a comment may hold: a slash at its start, a star at its end, and marks of comments. -/
def markedInner : Text := "/ // /* \x7b *".toList

/-- The marks of comments, each broken by a blank. -/
def brokenMarks : Text := "/ *b* / /".toList

theorem transparent_marked :
    (¬ ['/', '*'] <:+: ['a'] ∧ ['a'].getLast? ≠ some '/' ∧ ¬ ['*', '/'] <:+: markedInner) ∧
      (¬ ['/', '/'] <:+: brokenMarks ∧ ¬ ['/', '*'] <:+: brokenMarks) ∧
      strip (['a'] ++ (block markedInner ++ brokenMarks)) = strip (['a'] ++ brokenMarks) ∧
      strip brokenMarks = brokenMarks :=
  have hinner : ¬ ['/', '*'] <:+: ['a'] ∧ ['a'].getLast? ≠ some '/' ∧
      ¬ ['*', '/'] <:+: markedInner := by decide +kernel
  have hbroken : ¬ ['/', '/'] <:+: brokenMarks ∧ ¬ ['/', '*'] <:+: brokenMarks := by
    decide +kernel
  ⟨hinner, hbroken,
    (transparent.1 ['a'] markedInner hinner.1 hinner.2.1 hinner.2.2 brokenMarks).1,
    (transparent.2 brokenMarks).2 hbroken.1 hbroken.2⟩

end StyleInline.Comment
