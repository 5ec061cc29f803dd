import StyleInline.Proofs.Selector.Token

/-!
# Reading selectors

The words of a selector are read one by one, with a combinator kept until the compound
that belongs to it is read.  What is read is what the grammar says.

## Main definitions

* `Selector.StepsAfter` — the grammar of steps of which a combinator has been read already.

## Main results

* `Selector.readSteps_eq_ok_iff`, `Selector.ofWords_eq_ok_iff` — the reading of steps, and of words.
* `Selector.parse_eq_ok_iff_written` — the reading of a selector.
-/

namespace StyleInline

namespace Selector

variable {word : Text} {words : List Text} {compound : Compound} {combinator : Combinator}
  {pending : Option Combinator} {steps : List (Combinator × Compound)}

/-- The words that are combinators. -/
theorem combinator?_eq_some_iff :
    combinator? word = some combinator ↔ combinator.words = [word] := by
  rw [combinator?]
  by_cases hchild : word = ['>']
  · subst hchild
    cases combinator <;> simp [Combinator.words]
  · by_cases hadjacent : word = ['+']
    · subst hadjacent
      cases combinator <;> simp [Combinator.words]
    · cases combinator <;> simp [Combinator.words, hchild, hadjacent, Ne.symm]

/-- No compound is written as a combinator. -/
theorem not_written_of_words_eq (h : combinator.words = [word]) : ¬ compound.Written word := by
  intro hwritten
  cases combinator with
  | descendant => cases h
  | child | adjacent =>
    cases h
    have hread := (Compound.ofToken_eq_ok_iff (by simp)).2 hwritten
    cases hread

/-- The written form of steps of which the first combinator, if it is `pending`, has been
read already. -/
def StepsAfter : (pending : Option Combinator) → List Text → List (Combinator × Compound) → Prop
  | none, words, steps => Steps words steps
  | some combinator, words, steps =>
    ∃ token compound words' steps', words = token :: words' ∧ compound.Written token ∧
      Steps words' steps' ∧ steps = (combinator, compound) :: steps'

/-- There are no steps, or a combinator, a compound and further steps. -/
theorem steps_iff :
    Steps words steps ↔ (words = [] ∧ steps = []) ∨
      ∃ combinator, ∃ words', words = combinator.words ++ words' ∧
        StepsAfter (some combinator) words' steps := by
  constructor
  · intro h
    cases h with
    | nil => exact .inl ⟨rfl, rfl⟩
    | cons htoken hsteps => exact .inr ⟨_, _, rfl, _, _, _, _, rfl, htoken, hsteps, rfl⟩
  · rintro (⟨rfl, rfl⟩ | ⟨combinator, words', rfl, token, compound, rest, later, rfl, htoken,
      hsteps, rfl⟩)
    · exact .nil
    · exact .cons htoken hsteps

theorem stepsAfter_nil : StepsAfter pending [] steps ↔ pending = none ∧ steps = [] := by
  cases pending with
  | none =>
    rw [StepsAfter, steps_iff]
    constructor
    · rintro (⟨-, rfl⟩ | ⟨combinator, words', hwords, token, compound, rest, later, rfl, -⟩)
      · exact ⟨rfl, rfl⟩
      · simp at hwords
    · rintro ⟨-, rfl⟩
      exact .inl ⟨rfl, rfl⟩
  | some combinator => simp [StepsAfter]

/-- A combinator comes first only if none is pending. -/
theorem stepsAfter_combinator (hword : combinator.words = [word]) :
    StepsAfter pending (word :: words) steps ↔
      pending = none ∧ StepsAfter (some combinator) words steps := by
  have hnot {compound : Compound} : ¬ compound.Written word := not_written_of_words_eq hword
  cases pending with
  | some other =>
    simp only [reduceCtorEq, false_and, iff_false]
    rintro ⟨token, compound, rest, later, ⟨⟩, htoken, -⟩
    exact hnot htoken
  | none =>
    simp only [StepsAfter, true_and]
    rw [steps_iff]
    constructor
    · rintro (⟨⟨⟩, -⟩ | ⟨other, words', hwords, hafter⟩)
      cases other with
      | descendant =>
        obtain ⟨token, compound, rest, later, rfl, htoken, -⟩ := hafter
        cases hwords
        exact absurd htoken hnot
      | child | adjacent =>
        cases hwords
        cases combinator <;> cases hword
        exact hafter
    · intro hafter
      exact .inr ⟨combinator, words, by rw [hword, List.singleton_append], hafter⟩

/-- Any other word is a compound; without a pending combinator it is sought among the
descendants. -/
theorem stepsAfter_compound (hword : combinator? word = none) :
    StepsAfter pending (word :: words) steps ↔
      ∃ compound later, compound.Written word ∧ Steps words later ∧
        steps = (pending.getD .descendant, compound) :: later := by
  cases pending with
  | some combinator =>
    constructor
    · rintro ⟨token, compound, rest, later, ⟨⟩, htoken, hsteps, rfl⟩
      exact ⟨compound, later, htoken, hsteps, rfl⟩
    · rintro ⟨compound, later, htoken, hsteps, rfl⟩
      exact ⟨word, compound, words, later, rfl, htoken, hsteps, rfl⟩
  | none =>
    constructor
    · intro h
      rcases steps_iff.1 h with ⟨⟨⟩, -⟩ | ⟨combinator, words', hwords, hafter⟩
      cases combinator with
      | descendant =>
        obtain ⟨token, compound, rest, later, rfl, htoken, hsteps, rfl⟩ := hafter
        cases hwords
        exact ⟨compound, later, htoken, hsteps, rfl⟩
      | child | adjacent =>
        cases hwords
        cases hword
    · rintro ⟨compound, later, htoken, hsteps, rfl⟩
      refine steps_iff.2 (.inr ⟨.descendant, word :: words, rfl, ?_⟩)
      exact ⟨word, compound, words, later, rfl, htoken, hsteps, rfl⟩

/-- The steps that are read are those that are written. -/
theorem readSteps_eq_ok_iff (hwords : ∀ word ∈ words, word ≠ []) :
    readSteps pending words = .ok steps ↔ StepsAfter pending words steps := by
  induction words generalizing pending steps with
  | nil =>
    rw [stepsAfter_nil]
    cases pending <;> simp [readSteps, eq_comm]
  | cons word words ih =>
    have hrest : ∀ w ∈ words, w ≠ [] := fun w hw => hwords w (List.mem_cons_of_mem _ hw)
    cases hword : combinator? word with
    | some combinator =>
      rw [stepsAfter_combinator (combinator?_eq_some_iff.1 hword), ← ih hrest]
      cases pending <;> simp [readSteps, hword]
    | none =>
      rw [stepsAfter_compound hword]
      simp only [← Compound.ofToken_eq_ok_iff (hwords word List.mem_cons_self)]
      have hlater {later : List (Combinator × Compound)} :
          readSteps none words = .ok later ↔ Steps words later := ih hrest
      simp only [readSteps, hword, ← hlater]
      cases Compound.ofToken word with
      | error e => simp
      | ok compound =>
        simp only [map_eq_ok_iff, Except.ok.injEq]
        constructor
        · rintro ⟨later, hsteps, rfl⟩
          exact ⟨compound, later, rfl, hsteps, rfl⟩
        · rintro ⟨_, later, rfl, hsteps, rfl⟩
          exact ⟨later, hsteps, rfl⟩

/-- The selector that is read of words is the one that they are a written form of. -/
theorem ofWords_eq_ok_iff {s : Selector} (hwords : ∀ word ∈ words, word ≠ []) :
    ofWords words = .ok s ↔ Written words s := by
  cases words with
  | nil =>
    constructor
    · rintro ⟨⟩
    · rintro ⟨⟩
  | cons word rest =>
    have hrest : ∀ w ∈ rest, w ≠ [] := fun w hw => hwords w (List.mem_cons_of_mem _ hw)
    have hread {steps : List (Combinator × Compound)} :
        readSteps none rest = .ok steps ↔ Steps rest steps := readSteps_eq_ok_iff hrest
    have htoken {first : Compound} : Compound.ofToken word = .ok first ↔ first.Written word :=
      Compound.ofToken_eq_ok_iff (hwords word List.mem_cons_self)
    constructor
    · intro h
      rw [ofWords] at h
      split at h
      · cases h
      · split at h
        · cases h
        · next first hfirst =>
          obtain ⟨steps, hsteps, rfl⟩ := map_eq_ok_iff.1 h
          exact .mk (htoken.1 hfirst) (hread.1 hsteps)
    · rintro ⟨hfirst, hsteps⟩
      have hnone : combinator? word = none := by
        cases hcombinator : combinator? word with
        | none => rfl
        | some combinator =>
          exact absurd hfirst (not_written_of_words_eq (combinator?_eq_some_iff.1 hcombinator))
      simp [ofWords, hnone, htoken.2 hfirst, hread.2 hsteps, Except.map]

/-- **A text is read as a selector exactly when its words are a written form of it.** -/
theorem parse_eq_ok_iff_written {text : Text} {s : Selector} :
    parse text = .ok s ↔ Written (Text.words text) s := by
  have hwords : ∀ word ∈ Text.words text, word ≠ [] := by
    intro word hword
    simpa using (List.mem_filter.1 hword).2
  rw [parse, ofWords_eq_ok_iff hwords]

end Selector

end StyleInline
