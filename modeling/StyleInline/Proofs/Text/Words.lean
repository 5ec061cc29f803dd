import StyleInline.Proofs.Text.TrimmedParts

/-!
# Words and parts

The words of a text are those of its parts between spaces, one part after the other, because a
space is a blank.  Blanks around a text belong to no word, so a trimmed text is a word, or it
begins with one word and goes on to another.

## Main results

* `Text.words_append_blank` — a blank divides the words.
* `Text.flatMap_words_splitOn` — the words of the parts of a text.
* `Text.words_trim` — the words of a trimmed text.
* `Text.words_of_trim_eq_self` — how a trimmed text begins.
-/

namespace StyleInline.Text

variable {text before after : Text} {blank sep : Char}

/-- The words on the two sides of a blank are the words of a text. -/
theorem words_append_blank (h : isBlank blank = true) (before after : Text) :
    words (before ++ blank :: after) = words before ++ words after := by
  simp only [words, nonEmptyFields, fields_eq_splitOnP]
  rw [List.splitOnP_append_cons before after h, List.filter_append]

/-- The words of the parts of a text, if what divides them is a blank. -/
theorem flatMap_words_splitOn (hsep : isBlank sep = true) (text : Text) :
    (splitOn sep text).flatMap words = words text := by
  have hjoined (parts : List Text) :
      words ([sep].intercalate parts) = parts.flatMap words := by
    induction parts with
    | nil => rfl
    | cons part parts ih =>
      cases parts with
      | nil => simp
      | cons next later =>
        rw [List.intercalate_cons_cons, List.append_assoc, List.singleton_append,
          words_append_blank hsep, ih]
        rfl
  rw [← hjoined, splitOn_eq, List.intercalate_splitOn]

/-- A text of blanks has no word. -/
theorem words_eq_nil_of_blank (h : ∀ c ∈ text, isBlank c = true) : words text = [] :=
  words_eq_nil_iff.2 (trim_eq_nil_iff.2 h)

/-- Blanks around a text belong to no word. -/
theorem words_append_of_blank (hbefore : ∀ c ∈ before, isBlank c = true)
    (hafter : ∀ c ∈ after, isBlank c = true) : words (before ++ (text ++ after)) = words text := by
  have hstart (text : Text) : words (before ++ text) = words text := by
    induction before with
    | nil => rfl
    | cons c before ih =>
      obtain ⟨hc, hbefore⟩ := List.forall_mem_cons.1 hbefore
      have hcut := words_append_blank hc [] (before ++ text)
      rw [List.nil_append, words_nil, List.nil_append] at hcut
      rw [List.cons_append, hcut, ih hbefore]
  rw [hstart]
  cases after with
  | nil => rw [List.append_nil]
  | cons c after =>
    obtain ⟨hc, hafter⟩ := List.forall_mem_cons.1 hafter
    rw [words_append_blank hc, words_eq_nil_of_blank hafter, List.append_nil]

/-- Trimming takes no word away. -/
@[simp] theorem words_trim (text : Text) : words (trim text) = words text := by
  obtain ⟨before, after, hbefore, hafter, htext⟩ := exists_blanks_append_trim text
  calc words (trim text) = words (before ++ (trim text ++ after)) :=
        (words_append_of_blank hbefore hafter).symm
    _ = words text := by rw [← htext]

/-- A trimmed text is one word, or it begins with a word and has another behind it. -/
theorem words_of_trim_eq_self (h : trim text = text) (hne : text ≠ []) :
    words text = [text] ∨
      ∃ word blank rest next later, text = word ++ blank :: rest ∧ word ≠ [] ∧
        isBlank blank = true ∧ words text = word :: next :: later := by
  obtain ⟨hhead, hlast⟩ := trim_eq_self_iff.1 h
  have hcut := List.takeWhile_append_dropWhile (p := fun c => !isBlank c) (l := text)
  have hword : ∀ c ∈ text.takeWhile fun c => !isBlank c, isBlank c = false :=
    fun c hc => by simpa using List.mem_takeWhile_imp hc
  have hstop := List.head?_dropWhile_not (fun c => !isBlank c) text
  generalize text.takeWhile (fun c => !isBlank c) = word at hcut hword
  generalize text.dropWhile (fun c => !isBlank c) = rest at hcut hstop
  cases rest with
  | nil =>
    rw [List.append_nil] at hcut
    subst hcut
    exact .inl (words_eq_singleton hne hword)
  | cons blank rest =>
    have hblank : isBlank blank = true := by simpa using hstop
    subst hcut
    have hwordne : word ≠ [] := by
      rintro rfl
      rw [hhead blank rfl] at hblank
      cases hblank
    -- the last character is no blank, so what is behind the blank has a word
    have hnext : words rest ≠ [] := by
      intro hnil
      have hrest : ∀ c ∈ blank :: rest, isBlank c = true :=
        List.forall_mem_cons.2 ⟨hblank, trim_eq_nil_iff.1 (words_eq_nil_iff.1 hnil)⟩
      obtain ⟨last, hmem⟩ : ∃ last, (blank :: rest).getLast? = some last :=
        ⟨_, List.getLast?_eq_some_getLast (List.cons_ne_nil _ _)⟩
      have hfalse : isBlank last = false := hlast last (by rw [List.getLast?_append, hmem]; rfl)
      rw [hrest last (List.mem_of_getLast? hmem)] at hfalse
      cases hfalse
    obtain ⟨next, later, hwords⟩ := List.exists_cons_of_ne_nil hnext
    refine .inr ⟨word, blank, rest, next, later, rfl, hwordne, hblank, ?_⟩
    rw [words_append_blank hblank, words_eq_singleton hwordne hword, hwords]
    rfl

end StyleInline.Text
