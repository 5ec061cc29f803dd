import StyleInline.Proofs.Document.Canonical

/-!
# Escaped texts

Escaping writes an ampersand and the marks of a place as references and leaves every other
character as it is.  The marks depend on the place: running text must not open or close a tag,
and an attribute value must not end itself.  Decoding replaces references from left to right and
knows neither the place nor its marks.  It gives the text back, also where the text itself looks
like a reference.

A text has one escaped form in each place, so this can be turned around.  A text that holds no
mark, and no ampersand but at the start of a reference, is the escaped form of what it is decoded
as.

## Main definitions

* `Escape.references`, `Escape.decode` — the five references, and a text with all of them
  replaced.
* `Escape.IsSafe` — the texts that may stand in a place.
* `Escape.IsEscaping` — the ways to write characters that escape the marks of a place.

## Main results

* `Escape.IsSafe.induction` — induction on the texts that may stand in a place.
* `Escape.eq_escaped_iff` — the escaped forms of a text.
-/

namespace StyleInline.Escape

variable {c : Char} {marks : List Char} {code : Char → Text} {s written rest : Text}
  {r : Text × Char}

/-! ## References -/

/-- The references, with the characters that they stand for. -/
def references : List (Text × Char) := [
  ("&amp;".toList, '&'), ("&nbsp;".toList, '\u00a0'), ("&quot;".toList, '"'),
  ("&lt;".toList, '<'), ("&gt;".toList, '>')]

/-- The reference that a text begins with. -/
def reference? (text : Text) : Option (Text × Char) :=
  references.find? fun r => r.1.isPrefixOf text

/-- The text with its references replaced by their characters, from left to right, behind
`skip` characters that belong to a reference which has been replaced. -/
def decodeFrom : (skip : Nat) → Text → Text
  | _, [] => []
  | skip + 1, _ :: rest => decodeFrom skip rest
  | 0, c :: rest =>
    match reference? (c :: rest) with
    | some r => r.2 :: decodeFrom (r.1.length - 1) rest
    | none => c :: decodeFrom 0 rest

/-- The text with its references replaced by their characters, from left to right. -/
def decode (text : Text) : Text := decodeFrom 0 text

/-- Every reference begins with an ampersand and holds no other. -/
theorem exists_eq_cons_of_mem : ∀ r ∈ references, ∃ name, r.1 = '&' :: name ∧ '&' ∉ name := by
  simp [references]

/-- A character has one reference. -/
theorem eq_of_snd_eq : ∀ r ∈ references, ∀ r' ∈ references, r.2 = r'.2 → r.1 = r'.1 := by
  decide

/-- No reference holds a character that has one, apart from the ampersand. -/
theorem snd_notMem : ∀ r ∈ references, r.2 ≠ '&' → ∀ r' ∈ references, r.2 ∉ r'.1 := by
  decide

/-- No reference is the beginning of another. -/
theorem reference?_append (h : r ∈ references) (rest : Text) :
    reference? (r.1 ++ rest) = some r := by
  simp only [references, List.mem_cons, List.not_mem_nil, or_false] at h
  rcases h with rfl | rfl | rfl | rfl | rfl <;> rfl

theorem reference?_cons_of_ne (h : c ≠ '&') (rest : Text) : reference? (c :: rest) = none := by
  rw [reference?, List.find?_eq_none]
  intro r hr
  obtain ⟨name, hname, -⟩ := exists_eq_cons_of_mem r hr
  simp [hname, Ne.symm h]

/-! ## Decoding -/

@[simp] theorem decode_nil : decode [] = [] := rfl

theorem decodeFrom_append (before rest : Text) :
    decodeFrom before.length (before ++ rest) = decode rest := by
  induction before with
  | nil => rfl
  | cons _ before ih => exact ih

/-- A reference is replaced by its character. -/
theorem decode_append (h : r ∈ references) (rest : Text) :
    decode (r.1 ++ rest) = r.2 :: decode rest := by
  have hfound := reference?_append h rest
  obtain ⟨name, hname, -⟩ := exists_eq_cons_of_mem r h
  rw [hname, List.cons_append] at hfound ⊢
  rw [decode, decodeFrom, hfound]
  simp only [hname, List.length_cons, Nat.add_sub_cancel, decodeFrom_append]

/-- A character that begins no reference stays. -/
theorem decode_cons_of_ne (h : c ≠ '&') (rest : Text) :
    decode (c :: rest) = c :: decode rest := by
  rw [decode, decodeFrom, reference?_cons_of_ne h]
  rfl

/-! ## Safe texts -/

/-- A text that may stand where the marks have a meaning: it holds none of them, and every
ampersand in it begins a reference, to an ampersand or to one of the marks. -/
structure IsSafe (marks : List Char) (written : Text) : Prop where
  notMem : ∀ c ∈ marks, c ∉ written
  exists_reference : ∀ before after, written = before ++ '&' :: after →
    ∃ r ∈ references, r.2 ∈ '&' :: marks ∧ r.1 <+: '&' :: after

theorem isSafe_nil : IsSafe marks [] := ⟨by simp, by simp⟩

/-- The end of a safe text is safe. -/
theorem IsSafe.of_append {before : Text} (h : IsSafe marks (before ++ rest)) :
    IsSafe marks rest where
  notMem c hc := fun hmem => h.notMem c hc (List.mem_append_right before hmem)
  exists_reference start after hrest :=
    h.exists_reference (before ++ start) after (by rw [hrest, List.append_assoc])

/-- A character that is neither an ampersand nor a mark may stand in front. -/
theorem IsSafe.cons (h : IsSafe marks rest) (hc : c ∉ '&' :: marks) :
    IsSafe marks (c :: rest) where
  notMem d hd := by
    rw [List.mem_cons, not_or] at hc ⊢
    exact ⟨ne_of_mem_of_not_mem hd hc.2, h.notMem d hd⟩
  exists_reference before after hwritten := by
    cases before with
    | nil =>
      cases hwritten
      exact absurd List.mem_cons_self hc
    | cons b before =>
      exact h.exists_reference before after (List.cons.inj hwritten).2

/-- A reference may stand in front. -/
theorem IsSafe.reference_append (h : IsSafe marks rest) (hr : r ∈ references)
    (hmark : r.2 ∈ '&' :: marks) (hnotMem : ∀ c ∈ marks, c ∉ r.1) :
    IsSafe marks (r.1 ++ rest) where
  notMem c hc := by
    rw [List.mem_append, not_or]
    exact ⟨hnotMem c hc, h.notMem c hc⟩
  exists_reference before after hwritten := by
    obtain ⟨name, hname, hamp⟩ := exists_eq_cons_of_mem r hr
    cases before with
    | nil =>
      rw [List.nil_append] at hwritten
      exact ⟨r, hr, hmark, rest, hwritten⟩
    | cons b before =>
      -- an ampersand further on does not belong to the reference
      rw [hname, List.cons_append, List.cons_append, List.cons.injEq] at hwritten
      rcases List.append_eq_append_iff.1 hwritten.2 with ⟨between, -, hrest⟩ | ⟨tail, hcut, hrest⟩
      · exact h.exists_reference between after hrest
      · cases tail with
        | nil => exact h.exists_reference [] after hrest.symm
        | cons d tail =>
          cases hrest
          exact absurd (hcut ▸ by simp) hamp

/-- Induction on a safe text: it is empty, or a reference or a character stands in front of a
safe text for which the statement holds. -/
@[elab_as_elim] theorem IsSafe.induction {motive : Text → Prop} (h : IsSafe marks written)
    (nil : motive [])
    (reference : ∀ r ∈ references, r.2 ∈ '&' :: marks → ∀ rest, motive rest →
      motive (r.1 ++ rest))
    (char : ∀ c ∉ '&' :: marks, ∀ rest, motive rest → motive (c :: rest)) : motive written := by
  -- by the length of the text, which is less behind its first reference
  generalize hn : written.length = n
  induction n using Nat.strong_induction_on generalizing written with
  | _ n ih =>
    cases written with
    | nil => exact nil
    | cons c rest =>
      by_cases hc : c = '&'
      · subst hc
        obtain ⟨r, hr, hmark, later, hwritten⟩ := h.exists_reference [] rest rfl
        obtain ⟨name, hname, -⟩ := exists_eq_cons_of_mem r hr
        have hlt : later.length < n := by
          rw [← hn, ← hwritten, hname, List.length_append, List.length_cons]
          omega
        rw [← hwritten] at h ⊢
        exact reference r hr hmark later (ih _ hlt h.of_append rfl)
      · have hlt : rest.length < n := by
          rw [← hn, List.length_cons]
          exact Nat.lt_succ_self _
        have hmark : c ∉ '&' :: marks := by
          rw [List.mem_cons, not_or]
          exact ⟨hc, fun hmem => h.notMem c hmem List.mem_cons_self⟩
        have hrest : IsSafe marks rest :=
          IsSafe.of_append (show IsSafe marks ([c] ++ rest) from h)
        exact char c hmark rest (ih _ hlt hrest rfl)

/-! ## Escaping -/

/-- A way to write characters in which `&` and the marks are written as references and every
other character as itself. -/
structure IsEscaping (marks : List Char) (code : Char → Text) : Prop where
  amp_notMem : '&' ∉ marks
  mem_references : ∀ c ∈ '&' :: marks, (code c, c) ∈ references
  eq_self : ∀ c ∉ '&' :: marks, code c = [c]

/-- No mark stands in a reference. -/
theorem IsEscaping.notMem_reference (h : IsEscaping marks code) (hr : r ∈ references) :
    ∀ c ∈ marks, c ∉ r.1 := by
  intro c hc
  have hne : c ≠ '&' := ne_of_mem_of_not_mem hc h.amp_notMem
  exact snd_notMem _ (h.mem_references c (List.mem_cons_of_mem _ hc)) hne r hr

/-- What is written is decoded as what it was. -/
theorem IsEscaping.decode_flatMap (h : IsEscaping marks code) (s : Text) :
    decode (s.flatMap code) = s := by
  induction s with
  | nil => rfl
  | cons c s ih =>
    rw [List.flatMap_cons]
    by_cases hc : c ∈ '&' :: marks
    · rw [decode_append (h.mem_references c hc), ih]
    · have hne : c ≠ '&' := List.ne_of_not_mem_cons hc
      rw [h.eq_self c hc, List.singleton_append, decode_cons_of_ne hne, ih]

/-- What is written is safe. -/
theorem IsEscaping.isSafe_flatMap (h : IsEscaping marks code) (s : Text) :
    IsSafe marks (s.flatMap code) := by
  induction s with
  | nil => exact isSafe_nil
  | cons c s ih =>
    rw [List.flatMap_cons]
    by_cases hc : c ∈ '&' :: marks
    · have hr := h.mem_references c hc
      exact ih.reference_append hr hc (h.notMem_reference hr)
    · rw [h.eq_self c hc]
      exact ih.cons hc

/-- A safe text is the written form of what it is decoded as. -/
theorem IsEscaping.flatMap_decode (h : IsEscaping marks code) (hsafe : IsSafe marks written) :
    (decode written).flatMap code = written := by
  refine hsafe.induction ?_ ?_ ?_
  · rfl
  · intro r hr hmark rest ih
    have hcode : code r.2 = r.1 := eq_of_snd_eq _ (h.mem_references r.2 hmark) r hr rfl
    rw [decode_append hr, List.flatMap_cons, hcode, ih]
  · intro c hc rest ih
    have hne : c ≠ '&' := List.ne_of_not_mem_cons hc
    rw [decode_cons_of_ne hne, List.flatMap_cons, h.eq_self c hc, ih, List.singleton_append]

/-- The written form of a text is the safe text that is decoded as it. -/
theorem IsEscaping.eq_flatMap_iff (h : IsEscaping marks code) :
    written = s.flatMap code ↔ IsSafe marks written ∧ decode written = s := by
  constructor
  · rintro rfl
    exact ⟨h.isSafe_flatMap s, h.decode_flatMap s⟩
  · rintro ⟨hsafe, rfl⟩
    exact (h.flatMap_decode hsafe).symm

/-! ## The two places -/

/-- The marks of running text. -/
def textMarks : List Char := ['<', '>', '\u00a0']

/-- The marks of an attribute value. -/
def valueMarks : List Char := ['"', '\u00a0']

theorem isEscaping_textChar : IsEscaping textMarks textChar where
  amp_notMem := by decide
  mem_references := by simp [textMarks, references, textChar_eq]
  eq_self c hc := by
    simp only [textMarks, List.mem_cons, List.not_mem_nil, or_false, not_or] at hc
    rw [textChar_eq, if_neg hc.1, if_neg hc.2.2.2, if_neg hc.2.1, if_neg hc.2.2.1]

theorem isEscaping_valueChar : IsEscaping valueMarks valueChar where
  amp_notMem := by decide
  mem_references := by simp [valueMarks, references, valueChar_eq]
  eq_self c hc := by
    simp only [valueMarks, List.mem_cons, List.not_mem_nil, or_false, not_or] at hc
    rw [valueChar_eq, if_neg hc.1, if_neg hc.2.2, if_neg hc.2.1]

/-- **Escaping can be undone and leaks no mark.**  The escaped form of a text is the one text
that is decoded as it, holds no mark of its place, and has ampersands only where a reference
begins. -/
theorem eq_escaped_iff (s written : Text) :
    (written = text s ↔ IsSafe textMarks written ∧ decode written = s) ∧
      (written = value s ↔ IsSafe valueMarks written ∧ decode written = s) :=
  ⟨isEscaping_textChar.eq_flatMap_iff, isEscaping_valueChar.eq_flatMap_iff⟩

/-- A text that looks escaped is escaped once more, and only that is undone. -/
example : text "&lt;".toList = "&amp;lt;".toList ∧ decode "&amp;lt;".toList = "&lt;".toList := by
  decide

end StyleInline.Escape
