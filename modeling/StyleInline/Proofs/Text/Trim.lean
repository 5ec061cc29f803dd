import Mathlib.Data.List.DropRight
import StyleInline.Proofs.Text.Fields

/-!
# Trimming

A text is trimmed when it neither begins nor ends with a blank; `trim_eq_self_iff` says
that these are the texts that trimming leaves alone, and `trim_trim` that it always
leaves such a text.

## Main results

* `Text.trim_eq_self_iff` — the trimmed texts.
* `Text.trim_append_of_blank` — blanks around a text are not seen.
* `Text.mem_trimmed_splitOn` — the trimmed parts between separators.
* `Text.words_eq_nil_iff` — the texts without words are blank.
* `Text.trim_lower` — trimming and lower case do not interfere.
-/

namespace StyleInline.Text

variable {text part before after : Text} {c sep : Char} {isSep : Char → Bool}

/-- Among blanks there is no other character. -/
theorem notMem_of_blank (h : ∀ c ∈ text, isBlank c = true) (hc : isBlank c = false) : c ∉ text := by
  intro hmem
  rw [h c hmem] at hc
  cases hc

theorem isBlank_of_mem_space : ∀ c ∈ [' '], isBlank c = true := List.forall_mem_singleton.2 rfl

/-! ## The end of a text -/

theorem trimEnd_eq_rdropWhile (text : Text) : trimEnd text = text.rdropWhile isBlank := by
  induction text using List.reverseRecOn with
  | nil => rfl
  | append_singleton text c ih =>
    have hsnoc : ∀ t : Text, trimEnd (t ++ [c]) = if isBlank c then trimEnd t else t ++ [c] := by
      intro t
      induction t with
      | nil => simp [trimEnd]
      | cons d t iht =>
        rw [List.cons_append, trimEnd, iht]
        by_cases hc : isBlank c = true
        · simp [hc, trimEnd]
        · simp [hc]
    rw [hsnoc, List.rdropWhile_concat, ih]

/-- Trimming takes away a start and an end. -/
theorem trim_eq (text : Text) : trim text = (text.dropWhile isBlank).rdropWhile isBlank := by
  rw [trim, trimStart, trimEnd_eq_rdropWhile]

/-- What is left stands in the text. -/
theorem trim_isInfix (text : Text) : trim text <:+: text := by
  rw [trim_eq]
  exact (List.rdropWhile_prefix _ _).isInfix.trans (List.dropWhile_suffix _).isInfix

/-- A character that is left was there. -/
theorem mem_of_mem_trim (h : c ∈ trim text) : c ∈ text := (trim_isInfix text).subset h

/-- Nothing is left exactly of the texts that hold blanks only. -/
theorem trim_eq_nil_iff : trim text = [] ↔ ∀ c ∈ text, isBlank c = true := by
  rw [trim_eq, List.rdropWhile_eq_nil_iff]
  constructor
  · intro h c hc
    rw [← List.takeWhile_append_dropWhile (p := isBlank) (l := text), List.mem_append] at hc
    rcases hc with hc | hc
    · exact List.mem_takeWhile_imp hc
    · exact h c hc
  · intro h c hc
    exact h c ((List.dropWhile_suffix _).subset hc)

/-- Blanks around a text are not seen. -/
theorem trim_append_of_blank (hbefore : ∀ c ∈ before, isBlank c = true)
    (hafter : ∀ c ∈ after, isBlank c = true) : trim (before ++ (text ++ after)) = trim text := by
  rw [trim_eq, trim_eq, List.dropWhile_append_of_pos hbefore, List.dropWhile_append]
  split
  · next h =>
    rw [List.isEmpty_iff.1 h, List.dropWhile_eq_nil_iff.2 hafter]
  · rw [List.rdropWhile, List.rdropWhile, List.reverse_append,
      List.dropWhile_append_of_pos fun c hc => hafter c (List.mem_reverse.1 hc)]

theorem trim_blank_append (h : ∀ c ∈ before, isBlank c = true) :
    trim (before ++ text) = trim text := by
  have htrim : trim (before ++ (text ++ [])) = trim text := trim_append_of_blank h (by simp)
  rwa [List.append_nil] at htrim

theorem trim_append_blank (h : ∀ c ∈ after, isBlank c = true) :
    trim (text ++ after) = trim text := by
  have htrim : trim ([] ++ (text ++ after)) = trim text := trim_append_of_blank (by simp) h
  rwa [List.nil_append] at htrim

/-! ## Trimmed texts -/

private theorem dropWhile_eq_self_iff_head? :
    text.dropWhile isBlank = text ↔ ∀ c ∈ text.head?, isBlank c = false := by
  cases text <;> simp [List.dropWhile_eq_self_iff]

private theorem rdropWhile_eq_self_iff_getLast? :
    text.rdropWhile isBlank = text ↔ ∀ c ∈ text.getLast?, isBlank c = false := by
  rw [List.rdropWhile_eq_self_iff]
  cases text using List.reverseRecOn <;> simp

/-- The trimmed texts neither begin nor end with a blank. -/
theorem trim_eq_self_iff :
    trim text = text ↔
      (∀ c ∈ text.head?, isBlank c = false) ∧ ∀ c ∈ text.getLast?, isBlank c = false := by
  rw [trim_eq, ← dropWhile_eq_self_iff_head?, ← rdropWhile_eq_self_iff_getLast?]
  constructor
  · intro h
    -- nothing can have been taken from the start, or what is left would be shorter
    have hle := (List.rdropWhile_prefix isBlank (text.dropWhile isBlank)).length_le
    have hs : text.dropWhile isBlank = text :=
      (List.dropWhile_suffix isBlank).eq_of_length_le (by rw [h] at hle; exact hle)
    rw [hs] at h
    exact ⟨hs, h⟩
  · rintro ⟨hs, he⟩
    rw [hs, he]

/-- A text without blanks is trimmed. -/
theorem trim_eq_self_of_forall (h : ∀ c ∈ text, isBlank c = false) : trim text = text :=
  trim_eq_self_iff.2
    ⟨fun c hc => h c (List.mem_of_mem_head? hc), fun c hc => h c (List.mem_of_getLast? hc)⟩

/-- What trimming leaves is trimmed. -/
@[simp] theorem trim_trim (text : Text) : trim (trim text) = trim text := by
  rw [trim_eq_self_iff, ← rdropWhile_eq_self_iff_getLast?, trim_eq]
  refine ⟨?_, List.rdropWhile_idempotent _ _⟩
  intro c hc
  obtain ⟨after, h⟩ := List.rdropWhile_prefix isBlank (text.dropWhile isBlank)
  have hnot := List.head?_dropWhile_not isBlank text
  rw [← h, List.head?_append, hc] at hnot
  simpa using hnot

/-- The parts between separators, trimmed and less those that are blank: a part is trimmed,
is not empty, holds no separator and stands in the text. -/
theorem mem_trimmed_splitOn (h : part ∈ ((splitOn sep text).map trim).filter (!·.isEmpty)) :
    trim part = part ∧ part ≠ [] ∧ sep ∉ part ∧ part <:+: text := by
  rw [List.mem_filter, List.mem_map] at h
  obtain ⟨⟨whole, hwhole, rfl⟩, hne⟩ := h
  refine ⟨trim_trim whole, by simpa using hne, fun hsep => ?_, ?_⟩
  · exact notMem_of_mem_splitOn hwhole (mem_of_mem_trim hsep)
  · exact (trim_isInfix whole).trans (infix_of_mem_fields hwhole)

/-! ## Words -/

/-- A text has no parts between separators when it holds nothing else. -/
theorem nonEmptyFields_eq_nil_iff :
    nonEmptyFields isSep text = [] ↔ ∀ c ∈ text, isSep c = true := by
  rw [nonEmptyFields, List.filter_eq_nil_iff]
  induction text with
  | nil => simp
  | cons c rest ih =>
    rw [fields_cons, List.forall_mem_cons, ← ih]
    by_cases hc : isSep c = true
    · simp [hc]
    · obtain ⟨first, later, hf⟩ := List.exists_cons_of_ne_nil (fields_ne_nil isSep rest)
      simp [hc, hf]

/-- The texts without words are blank. -/
theorem words_eq_nil_iff : words text = [] ↔ trim text = [] := by
  rw [words, nonEmptyFields_eq_nil_iff, trim_eq_nil_iff]

/-- A text without blanks is one word. -/
theorem words_eq_singleton (hne : text ≠ []) (h : ∀ c ∈ text, isBlank c = false) :
    words text = [text] := by
  have hfields : fields isBlank text = [text] := by
    rw [fields_eq_splitOnP, List.splitOnP_eq_singleton (by simpa using h)]
  simp [words, nonEmptyFields, hfields, hne]

/-! ## Lower case -/

private theorem toNat_toLower (c : Char) :
    c.toLower.toNat = if 65 ≤ c.toNat ∧ c.toNat ≤ 90 then c.toNat + 32 else c.toNat := by
  have hval : c.val.toNat = c.toNat := rfl
  delta Char.toLower
  by_cases h : 65 ≤ c.toNat ∧ c.toNat ≤ 90
  · rw [dif_pos (by simpa [UInt32.le_iff_toNat_le, hval] using h), if_pos h]
    have hadd : (c.val + ('a'.val - 'A'.val)).toNat = c.val.toNat + 32 := by
      rw [UInt32.toNat_add]
      have hdiff : ('a'.val - 'A'.val).toNat = 32 := by decide
      omega
    exact hadd
  · rw [dif_neg (by simpa [UInt32.le_iff_toNat_le, hval] using h), if_neg h]

/-- Lower case keeps the class of blanks. -/
@[simp] theorem isBlank_toLower (c : Char) : isBlank c.toLower = isBlank c := by
  simp only [isBlank, toNat_toLower]
  split
  · grind
  · rfl

/-- Trimming and lower case do not interfere. -/
theorem trim_lower (text : Text) : trim (lower text) = lower (trim text) := by
  have hblank : isBlank ∘ Char.toLower = isBlank := funext isBlank_toLower
  simp only [trim_eq, lower, List.rdropWhile, List.dropWhile_map, ← List.map_reverse, hblank]

/-- A text in lower case stays as it is. -/
@[simp] theorem lower_lower (text : Text) : lower (lower text) = lower text := by
  have hchar (c : Char) : c.toLower.toLower = c.toLower := by
    apply Char.toNat_inj.1
    simp only [toNat_toLower]
    split <;> grind
  simp [lower, hchar]

/-- A character that is no small letter is not made by putting another in lower case. -/
theorem eq_of_toLower_eq {d : Char} (hc : ¬ (97 ≤ c.toNat ∧ c.toNat ≤ 122))
    (h : d.toLower = c) : d = c := by
  subst h
  rw [toNat_toLower] at hc
  apply Char.toNat_inj.1
  rw [toNat_toLower]
  split_ifs at hc ⊢
  · omega
  · rfl

/-- A character that is no small letter was there before the text was put in lower case. -/
theorem mem_of_mem_lower (hc : ¬ (97 ≤ c.toNat ∧ c.toNat ≤ 122)) (h : c ∈ lower text) :
    c ∈ text := by
  obtain ⟨d, hd, hdc⟩ := List.mem_map.1 h
  rw [← eq_of_toLower_eq hc hdc]
  exact hd

end StyleInline.Text
