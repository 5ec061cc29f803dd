import StyleInline.Proofs.Outcome
import StyleInline.Proofs.Text.Trim
import StyleInline.Selector.Parser

/-!
# How reading a selector fails

A selector is reported to be empty for one reason only: its text has no words.  A fault in a
compound, or a combinator without compound, is reported as such.

## Main results

* `Compound.ofToken_ne_empty` — no word is reported to be empty.
* `Selector.parse_eq_empty_iff` — the texts that are reported to be empty.
* `SelectorGroup.parse_of_notMem` — a text without commas is one branch.
-/

namespace StyleInline

variable {text token residue name : Text} {words : List Text}
  {pending : Option Combinator}

/-! ## Compounds -/

namespace Compound

theorem nameError?_ne_empty : nameError? token name ≠ some .empty := by
  rw [nameError?]
  split_ifs <;> simp

/-- No reader reports a token to be empty. -/
theorem reader_ne_empty {reader : Reader} (h : reader ∈ readers) :
    reader token ≠ .error .empty := by
  have hoperator (operator : Text) (test : Text → Text → Predicate) :
      readOperator operator test token ≠ .error .empty := by
    intro hempty
    rw [readOperator] at hempty
    split at hempty
    · cases hempty
    · split at hempty
      · cases hempty
      · next name written _ =>
        split_ifs at hempty
        split at hempty
        · next e he =>
          cases hempty
          exact nameError?_ne_empty he
        · split at hempty <;> cases hempty
  have hpresent : readPresent token ≠ .error .empty := by
    intro hempty
    rw [readPresent] at hempty
    split at hempty
    · cases hempty
    · split at hempty
      · next e he =>
        cases hempty
        exact nameError?_ne_empty he
      · cases hempty
  simp only [readers, List.mem_cons, List.not_mem_nil, or_false] at h
  rcases h with rfl | rfl | rfl | rfl | rfl | rfl
  · simp [readId]
  · simp [readClass]
  · exact hoperator _ _
  · exact hoperator _ _
  · exact hoperator _ _
  · exact hpresent

theorem readSuffixes_ne_empty {later : List Reader} (h : later ⊆ readers) :
    readSuffixes later token ≠ .error .empty := by
  induction later generalizing token with
  | nil => simp
  | cons reader later ih =>
    obtain ⟨hreader, hlater⟩ := List.cons_subset.1 h
    have hne : reader token ≠ .error .empty := reader_ne_empty hreader
    rw [readSuffixes]
    cases hread : reader token with
    | error e => simpa [hread] using hne
    | ok found =>
      cases found with
      | none => exact ih hlater
      | some found => exact fun hempty => ih hlater (map_eq_error_iff.1 hempty)

theorem ofResidue_ne_empty {predicates : List Predicate} :
    ofResidue token residue predicates ≠ .error .empty := by
  rw [ofResidue]
  split
  · split_ifs
    · split <;> simp
    · simp
  · split_ifs <;> simp

/-- A word that is no compound is not reported to be empty. -/
theorem ofToken_ne_empty : ofToken token ≠ .error .empty := by
  have hne : readSuffixes readers token ≠ .error .empty :=
    readSuffixes_ne_empty (List.Subset.refl readers)
  rw [ofToken]
  split_ifs
  · simp
  · cases hread : readSuffixes readers token with
    | error e => simpa [hread] using hne
    | ok found => exact ofResidue_ne_empty

end Compound

/-! ## Selectors -/

namespace Selector

theorem readSteps_ne_empty : readSteps pending words ≠ .error .empty := by
  induction words generalizing pending with
  | nil => cases pending <;> simp [readSteps]
  | cons word rest ih =>
    cases hword : combinator? word with
    | some combinator =>
      cases pending with
      | none => simpa only [readSteps, hword] using ih
      | some _ => simp [readSteps, hword]
    | none =>
      simp only [readSteps, hword]
      cases htoken : Compound.ofToken word with
      | error e =>
        rintro ⟨⟩
        exact Compound.ofToken_ne_empty htoken
      | ok compound => exact fun hempty => ih (map_eq_error_iff.1 hempty)

/-- A selector is reported to be empty when its text is blank, and only then. -/
theorem parse_eq_empty_iff : parse text = .error .empty ↔ Text.trim text = [] := by
  rw [parse, ← Text.words_eq_nil_iff]
  cases Text.words text with
  | nil => simp [ofWords]
  | cons word rest =>
    rw [ofWords]
    cases combinator? word with
    | some combinator => simp
    | none =>
      cases htoken : Compound.ofToken word with
      | error e =>
        refine iff_of_false ?_ (List.cons_ne_nil word rest)
        rintro ⟨⟩
        exact Compound.ofToken_ne_empty htoken
      | ok first =>
        refine iff_of_false ?_ (List.cons_ne_nil word rest)
        exact fun hempty => readSteps_ne_empty (map_eq_error_iff.1 hempty)

end Selector

/-- A text without commas is one branch. -/
theorem SelectorGroup.parse_of_notMem (h : ',' ∉ text) :
    parse text = (Selector.parse text).map ([·]) := by
  rw [parse, Text.splitOn_of_notMem h, ofBranches]
  cases Selector.parse text <;> rfl

end StyleInline
