import Mathlib.Data.List.Chain
import StyleInline.Proofs.Text.Trim
import StyleInline.Stylesheet.Comment

/-!
# Texts without comments

Where no slash is followed by a slash or a star, no comment begins.  Taking out line
comments leaves no two slashes in a row, but it may put a slash and a star together that
stood apart; when it does not, the text that is left has no comments.

## Main definitions

* `Comment.Free` — no comment begins in the text.
* `Text.IsPlain` — the text has neither comments nor braces.

## Main results

* `Comment.free_iff` — neither pair occurs with which a comment begins.
* `Comment.not_infix_strip` — no line comment is left.
* `Comment.free_strip` — when taking out the comments leaves a text without comments.
* `Comment.Free.strip_eq` — such a text stays as it is.
-/

namespace StyleInline

/-- A pair of characters does not occur where none of its first is followed by its second. -/
theorem Text.not_pair_infix_iff {a b : Char} {text : Text} :
    ¬ [a, b] <:+: text ↔ text.IsChain fun c d => c = a → d ≠ b := by
  rw [List.isChain_iff_forall_rel_of_append_cons_cons]
  constructor
  · rintro h c d before after rfl rfl rfl
    exact h ⟨before, after, by simp⟩
  · rintro h ⟨before, after, htext⟩
    have hsplit : text = before ++ a :: b :: after := by simp [← htext]
    exact h hsplit rfl rfl

namespace Comment

variable {c : Char} {text rest part before after : Text}

/-- No slash is followed by a slash or a star. -/
def Free (text : Text) : Prop := text.IsChain fun a b => a = '/' → b ≠ '/' ∧ b ≠ '*'

/-- A text is free when neither pair occurs with which a comment begins. -/
theorem free_iff : Free text ↔ ¬ ['/', '/'] <:+: text ∧ ¬ ['/', '*'] <:+: text := by
  rw [Text.not_pair_infix_iff, Text.not_pair_infix_iff, Free]
  simp only [List.isChain_iff_forall_rel_of_append_cons_cons]
  constructor
  · intro h
    exact ⟨fun a b _ _ hab ha => (h hab ha).1, fun a b _ _ hab ha => (h hab ha).2⟩
  · rintro ⟨hlines, hblocks⟩ a b before after hab ha
    exact ⟨hlines hab ha, hblocks hab ha⟩

/-! ## What is left is free -/

/-- A slash at the start of what is left stood at the start. -/
theorem head?_of_head?_stripLinesFrom (h : (stripLinesFrom false text).head? = some '/') :
    text.head? = some '/' := by
  cases text with
  | nil => exact h
  | cons c rest =>
    by_cases hc : c = '/'
    · rw [hc, List.head?_cons]
    · rw [stripLinesFrom] at h
      · exact h
      · intro _ hslash
        exact absurd hslash hc

/-- Without line comments no slash is followed by a slash. -/
theorem isChain_stripLinesFrom (inside : Bool) (text : Text) :
    (stripLinesFrom inside text).IsChain fun a b => a = '/' → b ≠ '/' := by
  fun_induction stripLinesFrom inside text with
  | case1 rest ih => exact ih
  | case2 c rest hnot ih =>
    rw [List.isChain_cons]
    refine ⟨?_, ih⟩
    intro d hd hc hslash
    subst hslash
    obtain ⟨later, rfl⟩ := List.head?_eq_some_iff.1 (head?_of_head?_stripLinesFrom hd)
    exact hnot later hc rfl
  | case3 rest ih =>
    rw [List.isChain_cons]
    refine ⟨?_, ih⟩
    intro d hd hfeed
    exact absurd hfeed (by decide)
  | case4 c rest _ ih => exact ih
  | case5 => exact .nil

/-- No line comment begins in what is left. -/
theorem not_infix_strip (text : Text) : ¬ ['/', '/'] <:+: strip text :=
  Text.not_pair_infix_iff.2 (isChain_stripLinesFrom false (stripBlocks text))

/-- The text without its comments is free when no slash and star are left together. -/
theorem free_strip (h : ¬ ['/', '*'] <:+: strip text) : Free (strip text) :=
  free_iff.2 ⟨not_infix_strip text, h⟩

/-! ## Free texts stay as they are -/

theorem stripBlocksFrom_cons (h : Free (c :: rest)) :
    stripBlocksFrom none (c :: rest) = c :: stripBlocksFrom none rest := by
  rw [stripBlocksFrom]
  rintro later rfl rfl
  exact ((List.isChain_cons.1 h).1 '*' rfl rfl).2 rfl

theorem stripLinesFrom_cons (h : Free (c :: rest)) :
    stripLinesFrom false (c :: rest) = c :: stripLinesFrom false rest := by
  rw [stripLinesFrom]
  rintro later rfl rfl
  exact ((List.isChain_cons.1 h).1 '/' rfl rfl).1 rfl

/-- There is nothing to take out of a free text. -/
theorem Free.strip_eq (h : Free text) : strip text = text := by
  have hblocks : stripBlocks text = text := by
    rw [stripBlocks]
    induction text with
    | nil => rfl
    | cons c rest ih => rw [stripBlocksFrom_cons h, ih (List.isChain_cons.1 h).2]
  have hlines : stripLines text = text := by
    rw [stripLines]
    clear hblocks
    induction text with
    | nil => rfl
    | cons c rest ih => rw [stripLinesFrom_cons h, ih (List.isChain_cons.1 h).2]
  rw [strip, hblocks, hlines]

/-! ## Parts and joins -/

theorem free_nil : Free [] := .nil

/-- What stands in a free text is free. -/
theorem Free.of_infix (h : Free text) (hpart : part <:+: text) : Free part :=
  List.IsChain.infix h hpart

/-- A free text behind a character that is no slash is free. -/
theorem Free.cons (h : Free text) (hc : c ≠ '/') : Free (c :: text) := by
  rw [Free, List.isChain_cons]
  refine ⟨?_, h⟩
  intro d hd hslash
  exact absurd hslash hc

/-- Two free texts with a character between them that is no slash and no star are free. -/
theorem Free.append_cons (hbefore : Free before) (hafter : Free after) (hslash : c ≠ '/')
    (hstar : c ≠ '*') : Free (before ++ c :: after) := by
  refine List.IsChain.append hbefore (hafter.cons hslash) ?_
  intro a ha b hb _
  cases hb
  exact ⟨hslash, hstar⟩

/-- A free text stays free when its letters are put in lower case. -/
theorem Free.lower (h : Free text) : Free (Text.lower text) := by
  refine List.isChain_map_of_isChain Char.toLower ?_ h
  intro a b hab ha
  have hb := hab (Text.eq_of_toLower_eq (by decide) ha)
  constructor
  · intro hslash
    exact hb.1 (Text.eq_of_toLower_eq (by decide) hslash)
  · intro hstar
    exact hb.2 (Text.eq_of_toLower_eq (by decide) hstar)

end Comment

/-! ## Plain texts -/

namespace Text

variable {c : Char} {text part before after : Text}

/-- No comment begins in the text, and it holds no brace. -/
structure IsPlain (text : Text) : Prop where
  free : Comment.Free text
  open_notMem : '{' ∉ text
  close_notMem : '}' ∉ text

theorem isPlain_iff : text.IsPlain ↔ Comment.Free text ∧ '{' ∉ text ∧ '}' ∉ text :=
  ⟨fun ⟨h₁, h₂, h₃⟩ => ⟨h₁, h₂, h₃⟩, fun ⟨h₁, h₂, h₃⟩ => ⟨h₁, h₂, h₃⟩⟩

instance (text : Text) : Decidable (Comment.Free text) :=
  inferInstanceAs (Decidable (List.IsChain _ text))

instance (text : Text) : Decidable text.IsPlain := decidable_of_iff' _ isPlain_iff

/-- What stands in a plain text is plain. -/
theorem IsPlain.of_infix (h : text.IsPlain) (hpart : part <:+: text) : part.IsPlain where
  free := h.free.of_infix hpart
  open_notMem := by
    intro hmem
    exact h.open_notMem (hpart.subset hmem)
  close_notMem := by
    intro hmem
    exact h.close_notMem (hpart.subset hmem)

/-- A plain text stays plain when its letters are put in lower case. -/
theorem IsPlain.lower (h : text.IsPlain) : (Text.lower text).IsPlain where
  free := h.free.lower
  open_notMem := by
    intro hmem
    exact h.open_notMem (mem_of_mem_lower (by decide) hmem)
  close_notMem := by
    intro hmem
    exact h.close_notMem (mem_of_mem_lower (by decide) hmem)

/-- Two plain texts with a colon or a semicolon between them are plain. -/
theorem IsPlain.append_cons (hbefore : before.IsPlain) (hafter : after.IsPlain)
    (hc : c = ':' ∨ c = ';') : (before ++ c :: after).IsPlain := by
  have hne : c ≠ '/' ∧ c ≠ '*' ∧ '{' ≠ c ∧ '}' ≠ c := by
    rcases hc with rfl | rfl <;> decide
  obtain ⟨hslash, hstar, hopen, hclose⟩ := hne
  refine ⟨hbefore.free.append_cons hafter.free hslash hstar, ?_, ?_⟩
  · simp [hbefore.open_notMem, hafter.open_notMem, hopen]
  · simp [hbefore.close_notMem, hafter.close_notMem, hclose]

end Text

end StyleInline
