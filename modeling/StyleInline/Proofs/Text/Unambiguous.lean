import Mathlib.Data.List.Infix
import StyleInline.Text.Basic

/-!
# Unambiguous writing

A text that is put in front of another can be told from it by where it ends: at the first
character of some kind, or at the first occurrence of a mark.  A text that is written
character by character can be read back when no character is written as the beginning of
another.

## Main definitions

* `Text.IsPrefixCode` — ways to write characters that can be read back.

## Main results

* `Text.append_inj_of_stop`, `Text.append_cons_inj` — texts that end at a character.
* `Text.append_mark_inj` — texts that end at a mark.
-/

namespace StyleInline.Text

variable {stop : Char → Bool} {c : Char} {x x' y y' start : Text} {code : Char → Text}

/-! ## Ends -/

private theorem takeWhile_append_stop (hx : ∀ c ∈ x, stop c = false)
    (hy : ∀ c ∈ y.head?, stop c = true) : (x ++ y).takeWhile (!stop ·) = x := by
  rw [List.takeWhile_append_of_pos (by simpa using hx)]
  cases y with
  | nil => simp
  | cons d y => simp [hy d rfl]

/-- Two texts without characters of some kind are equal when they begin the same text and
such characters, or nothing, stand behind them. -/
theorem append_inj_of_stop (hx : ∀ c ∈ x, stop c = false) (hx' : ∀ c ∈ x', stop c = false)
    (hy : ∀ c ∈ y.head?, stop c = true) (hy' : ∀ c ∈ y'.head?, stop c = true)
    (h : x ++ y = x' ++ y') : x = x' ∧ y = y' := by
  have hfirst : x = x' := by
    calc x = (x ++ y).takeWhile (!stop ·) := (takeWhile_append_stop hx hy).symm
      _ = (x' ++ y').takeWhile (!stop ·) := by rw [h]
      _ = x' := takeWhile_append_stop hx' hy'
  subst hfirst
  exact ⟨rfl, List.append_cancel_left h⟩

/-- Two texts without a character are equal when they begin the same text and that character
stands behind them. -/
theorem append_cons_inj (hx : c ∉ x) (hx' : c ∉ x') (h : x ++ c :: y = x' ++ c :: y') :
    x = x' ∧ y = y' := by
  have hother {x : Text} (hx : c ∉ x) : ∀ d ∈ x, (d == c) = false := by
    intro d hd
    simpa using ne_of_mem_of_not_mem hd hx
  have hstop (y : Text) : ∀ d ∈ (c :: y).head?, (d == c) = true := by simp
  obtain ⟨hfirst, hrest⟩ := append_inj_of_stop (hother hx) (hother hx') (hstop y) (hstop y') h
  exact ⟨hfirst, (List.cons.inj hrest).2⟩

/-- A mark whose last character occurs in it only once does not overlap itself: where it
stands at the start of a text and again behind `z`, it stands in `z`, unless `z` is empty. -/
private theorem eq_nil_of_append_mark {z : Text} (hc : c ∉ start)
    (hz : ¬ start ++ [c] <:+: z) (h : start ++ c :: y = z ++ (start ++ c :: y')) : z = [] := by
  rcases List.append_eq_append_iff.1 h with ⟨w, rfl, hw⟩ | ⟨w, hstart, hw⟩
  · cases w with
    | nil =>
      -- the second mark would begin with the last character of the first
      cases start with
      | nil => rfl
      | cons d start =>
        rw [List.nil_append, List.cons_append, List.cons.injEq] at hw
        exact absurd (hw.1 ▸ List.mem_cons_self) hc
    | cons d w =>
      rw [List.cons_append, List.cons.injEq] at hw
      obtain ⟨rfl, -⟩ := hw
      exact absurd ⟨[], w, by simp⟩ hz
  · have hrest : c ∉ w := fun hmem => hc (hstart ▸ List.mem_append_right z hmem)
    have hsame := (append_cons_inj hc hrest hw).1
    exact List.append_left_eq_self.1 (hstart.symm.trans hsame)

/-- Two texts without a mark are equal when they begin the same text and the mark stands
behind them, if the last character of the mark occurs in it only once. -/
theorem append_mark_inj (hc : c ∉ start) (hx : ¬ start ++ [c] <:+: x)
    (hx' : ¬ start ++ [c] <:+: x') (h : x ++ (start ++ c :: y) = x' ++ (start ++ c :: y')) :
    x = x' ∧ y = y' := by
  have hfirst : x = x' := by
    rcases List.append_eq_append_iff.1 h with ⟨z, rfl, hz⟩ | ⟨z, rfl, hz⟩
    · have hshort : ¬ start ++ [c] <:+: z :=
        fun hoccurs => hx' (hoccurs.trans (List.suffix_append _ _).isInfix)
      rw [eq_nil_of_append_mark hc hshort hz, List.append_nil]
    · have hshort : ¬ start ++ [c] <:+: z :=
        fun hoccurs => hx (hoccurs.trans (List.suffix_append _ _).isInfix)
      rw [eq_nil_of_append_mark hc hshort hz, List.append_nil]
  subst hfirst
  have hrest : start ++ c :: y = start ++ c :: y' := List.append_cancel_left h
  exact ⟨rfl, (List.cons.inj (List.append_cancel_left hrest)).2⟩

/-! ## Codes -/

/-- A way to write characters in which every character is written and none is written as the
beginning of another. -/
structure IsPrefixCode (code : Char → Text) : Prop where
  ne_nil : ∀ c, code c ≠ []
  eq_of_append_eq : ∀ {c d : Char} {x y : Text}, code c ++ x = code d ++ y → c = d

/-- A text that is written in a prefix code can be read back. -/
theorem IsPrefixCode.flatMap_injective (h : IsPrefixCode code) :
    Function.Injective (List.flatMap code) := by
  intro x
  induction x with
  | nil =>
    intro x' heq
    cases x' with
    | nil => rfl
    | cons c x' =>
      rw [List.flatMap_nil, List.flatMap_cons] at heq
      exact absurd (List.append_eq_nil_iff.1 heq.symm).1 (h.ne_nil c)
  | cons c x ih =>
    intro x' heq
    cases x' with
    | nil =>
      rw [List.flatMap_nil, List.flatMap_cons] at heq
      exact absurd (List.append_eq_nil_iff.1 heq).1 (h.ne_nil c)
    | cons d x' =>
      rw [List.flatMap_cons, List.flatMap_cons] at heq
      obtain rfl := h.eq_of_append_eq heq
      rw [ih (List.append_cancel_left heq)]

end StyleInline.Text
