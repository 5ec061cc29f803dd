import Mathlib.Data.List.Infix
import StyleInline.Text.Alphanumeric

/-!
# Cutting in two

What the cuts of a text find, stated by the two sides: which text they come from, and
where the mark does not occur, so that it is the last one.

## Main results

* `Text.cutLast?_eq_some_iff`, `Text.cutAtLast?_eq_some_iff` — the last occurrence of a
  character and of a mark.
* `Text.dropEnd?_eq_some_iff` — a text less its last character.
* `Text.notMem_of_isIdent` — what an identifier cannot hold.
-/

namespace StyleInline.Text

variable {sep last c : Char} {text before after rest start mark name : Text}

/-! ## At a character -/

/-- There is nothing to cut exactly when the mark does not occur. -/
theorem cutLast?_eq_none_iff : cutLast? sep text = none ↔ sep ∉ text := by
  induction text with
  | nil => simp [cutLast?]
  | cons c rest ih =>
    rw [cutLast?]
    cases h : cutLast? sep rest with
    | some cut =>
      have hrest : sep ∈ rest := by
        by_contra hnot
        simp [ih.2 hnot] at h
      simp [hrest]
    | none => simp [ih.1 h, eq_comm]

/-- The two sides of a cut, with the mark between them, are the text, and the mark does
not occur behind it. -/
theorem cutLast?_eq_some_iff :
    cutLast? sep text = some (before, after) ↔ text = before ++ sep :: after ∧ sep ∉ after := by
  induction text generalizing before after with
  | nil => simp [cutLast?]
  | cons c rest ih =>
    rw [cutLast?]
    cases h : cutLast? sep rest with
    | some cut =>
      obtain ⟨b, a⟩ := cut
      obtain ⟨hrest, ha⟩ := ih.1 h
      constructor
      · rintro ⟨⟩
        exact ⟨congrArg (c :: ·) hrest, ha⟩
      · rintro ⟨htext, hafter⟩
        cases before with
        | nil =>
          cases htext
          exact absurd (by simp [hrest]) hafter
        | cons b' before =>
          cases htext
          rw [ih.2 ⟨rfl, hafter⟩] at h
          cases h
          rfl
    | none =>
      have hrest := cutLast?_eq_none_iff.1 h
      constructor
      · intro hsome
        obtain ⟨hc, hcut⟩ := Option.ite_none_right_eq_some.1 hsome
        cases hcut
        exact ⟨by rw [hc, List.nil_append], hrest⟩
      · rintro ⟨htext, -⟩
        cases before with
        | nil =>
          cases htext
          rw [if_pos rfl]
        | cons b before =>
          cases htext
          exact absurd (by simp) hrest

/-- The text less its last character, with that character behind it, is the text. -/
theorem dropEnd?_eq_some_iff : dropEnd? last text = some rest ↔ text = rest ++ [last] := by
  induction text generalizing rest with
  | nil => simp [dropEnd?]
  | cons c text ih =>
    cases text with
    | nil =>
      by_cases h : c = last
      · subst h
        cases rest <;> simp [dropEnd?]
      · cases rest <;> simp [dropEnd?, h]
    | cons d text =>
      rw [dropEnd?, Option.map_eq_some_iff]
      constructor
      · rintro ⟨rest, hrest, rfl⟩
        rw [ih.1 hrest, List.cons_append]
      · intro h
        cases rest with
        | nil => cases h
        | cons b rest =>
          rw [List.cons_append, List.cons.injEq] at h
          obtain ⟨rfl, h⟩ := h
          exact ⟨rest, ih.2 h, rfl⟩

/-! ## At a mark -/

theorem dropStart?_eq_none_iff : dropStart? start text = none ↔ ¬ start <+: text := by
  rw [Option.eq_none_iff_forall_ne_some]
  constructor
  · rintro h ⟨rest, hrest⟩
    exact h rest (dropStart?_eq_some_iff.2 hrest.symm)
  · intro h rest hrest
    exact h ⟨rest, (dropStart?_eq_some_iff.1 hrest).symm⟩

/-- There is nothing to cut exactly when the mark does not occur. -/
theorem cutAtLast?_eq_none_iff (hmark : mark ≠ []) :
    cutAtLast? mark text = none ↔ ¬ mark <:+: text := by
  induction text with
  | nil => simp [cutAtLast?, hmark]
  | cons c rest ih =>
    rw [cutAtLast?, List.infix_cons_iff, not_or, ← ih, ← dropStart?_eq_none_iff]
    cases cutAtLast? mark rest <;> simp

/-- The two sides of a cut, with the mark between them, are the text, and the mark does
not occur further on. -/
theorem cutAtLast?_eq_some_iff :
    cutAtLast? (c :: mark) text = some (before, after) ↔
      text = before ++ c :: (mark ++ after) ∧ ¬ c :: mark <:+: mark ++ after := by
  have hnone {text : Text} : cutAtLast? (c :: mark) text = none ↔ ¬ c :: mark <:+: text :=
    cutAtLast?_eq_none_iff (by simp)
  induction text generalizing before after with
  | nil => simp [cutAtLast?]
  | cons d rest ih =>
    rw [cutAtLast?]
    cases h : cutAtLast? (c :: mark) rest with
    | some cut =>
      obtain ⟨b, a⟩ := cut
      obtain ⟨hrest, ha⟩ := ih.1 h
      constructor
      · rintro ⟨⟩
        exact ⟨congrArg (d :: ·) hrest, ha⟩
      · rintro ⟨htext, hafter⟩
        cases before with
        | nil =>
          cases htext
          rw [hnone.2 hafter] at h
          cases h
        | cons b' before =>
          cases htext
          rw [ih.2 ⟨rfl, hafter⟩] at h
          cases h
          rfl
    | none =>
      have hrest := hnone.1 h
      simp only [Option.map_eq_some_iff, dropStart?_eq_some_iff, Prod.mk.injEq]
      constructor
      · rintro ⟨a, htext, rfl, rfl⟩
        cases htext
        exact ⟨rfl, hrest⟩
      · rintro ⟨htext, -⟩
        cases before with
        | nil =>
          cases htext
          exact ⟨after, rfl, rfl, rfl⟩
        | cons b before =>
          cases htext
          refine absurd ⟨before, after, ?_⟩ hrest
          simp

/-- An occurrence that cannot begin in the text before it stands in the text behind. -/
theorem infix_of_infix_append (hc : c ∉ before) (h : c :: mark <:+: before ++ text) :
    c :: mark <:+: text := by
  induction before with
  | nil => exact h
  | cons b before ih =>
    rw [List.mem_cons, not_or] at hc
    rw [List.cons_append, List.infix_cons_iff] at h
    rcases h with h | h
    · exact absurd (List.cons_prefix_cons.1 h).1 hc.1
    · exact ih hc.2 h

/-- An occurrence that cannot end at the last character stands in front of it. -/
theorem infix_of_infix_concat (hne : mark ≠ []) (hlast : last ∉ mark)
    (h : mark <:+: text ++ [last]) : mark <:+: text := by
  rcases List.infix_concat_iff.1 h with h | h
  · rcases List.suffix_concat_iff.1 h with rfl | ⟨start, rfl, -⟩
    · exact absurd rfl hne
    · simp at hlast
  · exact h

/-! ## Identifiers -/

/-- An identifier holds identifier characters only. -/
theorem notMem_of_isIdent (h : isIdent name = true) (hc : isIdentChar c = false) : c ∉ name :=
  fun hmem => by simpa [hc] using (isIdent_eq_true_iff.1 h).2 c hmem

theorem ne_nil_of_isIdent (h : isIdent name = true) : name ≠ [] := (isIdent_eq_true_iff.1 h).1

/-- The code points of the blanks. -/
def blankCodes : List Nat :=
  [0x09, 0x0A, 0x0B, 0x0C, 0x0D, 0x20, 0x85, 0xA0, 0x1680, 0x2000, 0x2001, 0x2002, 0x2003, 0x2004,
    0x2005, 0x2006, 0x2007, 0x2008, 0x2009, 0x200A, 0x2028, 0x2029, 0x202F, 0x205F, 0x3000]

theorem toNat_mem_blankCodes (h : isBlank c = true) : c.toNat ∈ blankCodes := by
  simp only [isBlank, Bool.or_eq_true, Bool.and_eq_true, decide_eq_true_eq, beq_iff_eq] at h
  simp only [blankCodes, List.mem_cons, List.not_mem_nil, or_false]
  omega

/-- No blank stands in an identifier. -/
theorem isIdentChar_eq_false_of_isBlank (h : isBlank c = true) : isIdentChar c = false := by
  have hall : ∀ n ∈ blankCodes, isIdentChar (Char.ofNat n) = false := by decide +kernel
  rw [← Char.ofNat_toNat c]
  exact hall _ (toNat_mem_blankCodes h)

theorem isBlank_eq_false_of_isIdent (h : isIdent name = true) :
    ∀ c ∈ name, isBlank c = false := by
  intro c hc
  by_contra hblank
  rw [Bool.not_eq_false] at hblank
  exact notMem_of_isIdent h (isIdentChar_eq_false_of_isBlank hblank) hc

end StyleInline.Text
