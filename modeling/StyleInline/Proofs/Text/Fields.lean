import StyleInline.Text.Blank

/-!
# Cutting texts

The parts of a text between separators.  Cutting is the library's `splitOnP`, so joining
the parts again and cutting joined parts come from there; what is added is what the parts
are made of.

## Main results

* `Text.fields_eq_splitOnP`, `Text.splitOn_eq` — cutting is the library's.
* `Text.mem_fields`, `Text.infix_of_mem_fields` — a part holds no separator and stands in
  the text.
-/

namespace StyleInline.Text

variable {isSep : Char → Bool} {sep : Char} {text part before after : Text}

/-- Cutting at the first character cuts it off or puts it before the first part. -/
theorem fields_cons (c : Char) (rest : Text) :
    fields isSep (c :: rest) =
      if isSep c then [] :: fields isSep rest else (fields isSep rest).modifyHead (c :: ·) := by
  rw [fields]
  split
  · rfl
  · cases h : fields isSep rest with
    | nil => exact absurd h (fields_ne_nil isSep rest)
    | cons part parts => rfl

theorem fields_eq_splitOnP (isSep : Char → Bool) (text : Text) :
    fields isSep text = List.splitOnP isSep text := by
  induction text with
  | nil => rfl
  | cons c rest ih => rw [fields_cons, List.splitOnP_cons_eq_if_modifyHead, ih]

theorem splitOn_eq (sep : Char) (text : Text) : splitOn sep text = List.splitOn sep text := by
  rw [splitOn, fields_eq_splitOnP, List.splitOn_eq_splitOnP]

/-- A text without a separator is one part. -/
theorem splitOn_of_notMem (h : sep ∉ text) : splitOn sep text = [text] := by
  rw [splitOn_eq, List.splitOn_eq_singleton h]

/-- What stands before the first separator is the first part. -/
theorem splitOn_append_cons (h : sep ∉ before) :
    splitOn sep (before ++ sep :: after) = before :: splitOn sep after := by
  rw [splitOn_eq, splitOn_eq, List.splitOn_append_cons_self_of_not_mem h]

/-- No part holds a separator. -/
theorem mem_fields (h : part ∈ fields isSep text) : ∀ c ∈ part, isSep c = false := by
  induction text generalizing part with
  | nil =>
    rw [fields_nil, List.mem_singleton] at h
    simp [h]
  | cons c rest ih =>
    rw [fields_cons] at h
    by_cases hc : isSep c = true
    · rw [if_pos hc, List.mem_cons] at h
      rcases h with rfl | h
      · simp
      · exact ih h
    · rw [if_neg hc] at h
      obtain ⟨first, later, hf⟩ := List.exists_cons_of_ne_nil (fields_ne_nil isSep rest)
      rw [hf, List.modifyHead_cons, List.mem_cons] at h
      rcases h with rfl | h
      · have hfirst : ∀ d ∈ first, isSep d = false := ih (by simp [hf])
        simpa [hc] using hfirst
      · exact ih (by simp [hf, h])

/-- A part between occurrences of a character does not hold it. -/
theorem notMem_of_mem_splitOn (h : part ∈ splitOn sep text) : sep ∉ part := by
  intro hsep
  have := mem_fields h sep hsep
  simp at this

/-- The first part stands at the start of a text, and every part stands in it. -/
private theorem isPrefix_and_infix_of_fields (isSep : Char → Bool) (text : Text) :
    (∀ part ∈ (fields isSep text).head?, part <+: text) ∧
      ∀ part ∈ fields isSep text, part <:+: text := by
  induction text with
  | nil => simp
  | cons c rest ih =>
    obtain ⟨first, later, hf⟩ := List.exists_cons_of_ne_nil (fields_ne_nil isSep rest)
    rw [fields_cons, hf]
    rw [hf] at ih
    obtain ⟨hhead, hall⟩ := ih
    by_cases hc : isSep c = true
    · rw [if_pos hc]
      refine ⟨by simp, ?_⟩
      intro part hp
      rcases List.mem_cons.1 hp with rfl | hp
      · exact List.nil_infix
      · exact (hall part hp).trans (List.suffix_cons c rest).isInfix
    · rw [if_neg hc, List.modifyHead_cons]
      have hfirst : c :: first <+: c :: rest := List.cons_prefix_cons.2 ⟨rfl, hhead first (by simp)⟩
      refine ⟨by simpa using hfirst, ?_⟩
      intro part hp
      rcases List.mem_cons.1 hp with rfl | hp
      · exact hfirst.isInfix
      · exact (hall part (by simp [hp])).trans (List.suffix_cons c rest).isInfix

/-- A part stands in the text. -/
theorem infix_of_mem_fields (h : part ∈ fields isSep text) : part <:+: text :=
  (isPrefix_and_infix_of_fields isSep text).2 part h

/-- A part that is not empty holds no separator and stands in the text. -/
theorem mem_nonEmptyFields (h : part ∈ nonEmptyFields isSep text) :
    part ≠ [] ∧ (∀ c ∈ part, isSep c = false) ∧ part <:+: text := by
  obtain ⟨hpart, hne⟩ := List.mem_filter.1 h
  exact ⟨by simpa using hne, mem_fields hpart, infix_of_mem_fields hpart⟩

end StyleInline.Text
