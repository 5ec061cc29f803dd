import StyleInline.Proofs.Outcome
import StyleInline.Proofs.Text.Trim
import StyleInline.Stylesheet.Rule

/-!
# The rules of a text

Braces cut a text into sections and what follows the last of them.  The prelude of a
section stands before the next opening brace and its body before the closing one, so the
first holds no `{` and the second no `}`; a section that is read as a rule holds no brace at
all.

## Main definitions

* `Rule.IsListable` — the selectors that a prelude can list.

## Main results

* `Outline.ofText_append` — the first section of a text, and the outline of the rest.
* `Outline.sections_induction` — induction on the sections of a text.
* `Rule.of_mem_parseAll` — what the rules of a text are made of.
* `Rule.parseAll_section` — a text read section by section.
-/

namespace StyleInline

/-! ## Sections -/

namespace Outline

variable {inside : Bool} {text prelude body rest before : Text} {s : Section}

theorem chunks_of_notMem (h : brace inside ∉ text) : chunks inside text = [text] := by
  induction text with
  | nil => rfl
  | cons c rest ih =>
    rw [List.mem_cons, not_or] at h
    rw [chunks, if_neg (Ne.symm h.1), ih h.2]

/-- What stands before the brace that is due is the first part. -/
theorem chunks_append_cons (h : brace inside ∉ before) :
    chunks inside (before ++ brace inside :: rest) = before :: chunks (!inside) rest := by
  induction before with
  | nil => rw [List.nil_append, chunks, if_pos rfl]
  | cons c before ih =>
    rw [List.mem_cons, not_or] at h
    rw [List.cons_append, chunks, if_neg (Ne.symm h.1), ih h.2]

/-- A text without an opening brace has no sections. -/
theorem ofText_of_notMem (h : '{' ∉ text) : ofText text = ⟨[], .trailing text⟩ := by
  have hchunks : chunks false text = [text] := chunks_of_notMem h
  rw [ofText, hchunks, ofChunks]

/-- A block that is not closed is no section. -/
theorem ofText_unclosed (hprelude : '{' ∉ prelude) (hrest : '}' ∉ rest) :
    ofText (prelude ++ '{' :: rest) = ⟨[], .unclosed prelude⟩ := by
  have hchunks : chunks false (prelude ++ '{' :: rest) = prelude :: chunks true rest :=
    chunks_append_cons hprelude
  have hbody : chunks true rest = [rest] := chunks_of_notMem hrest
  rw [ofText, hchunks, hbody, ofChunks]

/-- A block that is closed is the first section. -/
theorem ofText_append (hprelude : '{' ∉ prelude) (hbody : '}' ∉ body) :
    ofText (prelude ++ '{' :: (body ++ '}' :: rest))
      = ⟨⟨prelude, body⟩ :: (ofText rest).sections, (ofText rest).ending⟩ := by
  have hfirst : chunks false (prelude ++ '{' :: (body ++ '}' :: rest))
      = prelude :: chunks true (body ++ '}' :: rest) := chunks_append_cons hprelude
  have hsecond : chunks true (body ++ '}' :: rest) = body :: chunks false rest :=
    chunks_append_cons hbody
  obtain ⟨chunk, later, hrest⟩ := List.exists_cons_of_ne_nil (chunks_ne_nil false rest)
  rw [ofText, hfirst, hsecond, hrest, ofChunks, ← hrest, ← ofText]
  simp

/-- Induction on the sections of a text: it holds no `{`, or its first block is not closed,
or its first section stands before a text for which the statement holds. -/
@[elab_as_elim] theorem sections_induction {P : Text → Prop}
    (trailing : ∀ text, '{' ∉ text → P text)
    (unclosed : ∀ prelude rest, '{' ∉ prelude → '}' ∉ rest → P (prelude ++ '{' :: rest))
    (append : ∀ prelude body rest, '{' ∉ prelude → '}' ∉ body → P rest →
      P (prelude ++ '{' :: (body ++ '}' :: rest))) (text : Text) : P text := by
  -- by the length of the text, which is less behind the first section
  generalize hn : text.length = n
  induction n using Nat.strong_induction_on generalizing text with
  | _ n ih =>
    by_cases hopen : '{' ∈ text
    · obtain ⟨prelude, rest, rfl, hprelude⟩ := List.eq_append_cons_of_mem hopen
      by_cases hclose : '}' ∈ rest
      · obtain ⟨body, rest, rfl, hbody⟩ := List.eq_append_cons_of_mem hclose
        have hlt : rest.length < n := by
          simp only [List.length_append, List.length_cons] at hn
          omega
        exact append prelude body rest hprelude hbody (ih rest.length hlt rest rfl)
      · exact unclosed prelude rest hprelude hclose
    · exact trailing text hopen

/-- A section stands in its text, its prelude before the opening brace and its body before
the closing one. -/
theorem mem_sections (h : s ∈ (ofText text).sections) :
    s.prelude <:+: text ∧ '{' ∉ s.prelude ∧ s.body <:+: text ∧ '}' ∉ s.body := by
  induction text using sections_induction with
  | trailing text hopen =>
    rw [ofText_of_notMem hopen] at h
    cases h
  | unclosed prelude rest hprelude hrest =>
    rw [ofText_unclosed hprelude hrest] at h
    cases h
  | append prelude body rest hprelude hbody ih =>
    rw [ofText_append hprelude hbody, List.mem_cons] at h
    rcases h with rfl | h
    · refine ⟨⟨[], _, rfl⟩, hprelude, ?_, hbody⟩
      exact ⟨prelude ++ ['{'], '}' :: rest, by simp⟩
    · have hrest : rest <:+: prelude ++ '{' :: (body ++ '}' :: rest) :=
        ⟨prelude ++ '{' :: (body ++ ['}']), [], by simp⟩
      obtain ⟨hp, hpnot, hb, hbnot⟩ := ih h
      exact ⟨hp.trans hrest, hpnot, hb.trans hrest, hbnot⟩

end Outline

/-! ## Rules -/

namespace Rule

variable {text prelude body rest selector : Text} {s : Section} {ending : Ending} {rule : Rule}
  {rules : List Rule}

/-- The selectors that a prelude can list: trimmed, not empty, and without the characters
that end a selector or a prelude or may not stand in one. -/
structure IsListable (selector : Text) : Prop where
  trim_eq : Text.trim selector = selector
  ne_nil : selector ≠ []
  comma_notMem : ',' ∉ selector
  semicolon_notMem : ';' ∉ selector
  open_notMem : '{' ∉ selector
  close_notMem : '}' ∉ selector

/-- Nothing is wrong with a prelude that closes no block, begins no at-rule and holds no
semicolon. -/
theorem preludeError?_eq_none_iff :
    preludeError? prelude = none ↔ '}' ∉ prelude ∧ prelude.head? ≠ some '@' ∧ ';' ∉ prelude := by
  rw [preludeError?]
  split_ifs with hclose hat hsemicolon <;> simp_all

/-- A listable selector is listed alone by the prelude that it is. -/
theorem selectorsOf_of_isListable (h : IsListable selector) :
    selectorsOf selector = [selector] := by
  rw [selectorsOf, Text.splitOn_of_notMem h.comma_notMem]
  simp [h.trim_eq, h.ne_nil]

/-- A section is read as a rule when nothing is wrong with its prelude, no block begins in
its body, and the prelude lists selectors and the body declarations. -/
theorem ofSection?_eq_some_iff :
    ofSection? s = .ok (some rule) ↔
      preludeError? (Text.trim s.prelude) = none ∧ '{' ∉ s.body ∧
        selectorsOf (Text.trim s.prelude) = rule.selectors ∧ rule.selectors ≠ [] ∧
        Declarations.parse s.body = .ok rule.declarations := by
  rw [ofSection?]
  cases herror : preludeError? (Text.trim s.prelude) with
  | some e => simp
  | none =>
    by_cases hopen : '{' ∈ s.body
    · simp [hopen]
    · have hinner : ¬ s.body.contains '{' = true := by simpa using hopen
      cases hselectors : selectorsOf (Text.trim s.prelude) with
      | nil =>
        simp only [if_neg hinner]
        constructor
        · intro hnone
          cases hnone
        · rintro ⟨-, -, hnil, hne, -⟩
          exact absurd hnil.symm hne
      | cons selector later =>
        simp only [if_neg hinner, map_eq_ok_iff]
        constructor
        · rintro ⟨block, hblock, hrule⟩
          cases hrule
          exact ⟨trivial, hopen, rfl, by simp, hblock⟩
        · rintro ⟨-, -, hselectors, -, hblock⟩
          exact ⟨rule.declarations, hblock, by rw [hselectors]⟩

/-- A section is passed over when nothing is wrong with its prelude, no block begins in its
body, and the prelude lists no selector. -/
theorem ofSection?_eq_none_iff :
    ofSection? s = .ok none ↔
      preludeError? (Text.trim s.prelude) = none ∧ '{' ∉ s.body ∧
        selectorsOf (Text.trim s.prelude) = [] := by
  rw [ofSection?]
  cases herror : preludeError? (Text.trim s.prelude) with
  | some e => simp
  | none =>
    by_cases hopen : '{' ∈ s.body
    · simp [hopen]
    · have hinner : ¬ s.body.contains '{' = true := by simpa using hopen
      cases hselectors : selectorsOf (Text.trim s.prelude) with
      | nil => simp [hopen]
      | cons selector later =>
        simp only [if_neg hinner, map_eq_ok_iff]
        constructor
        · rintro ⟨_, -, hrule⟩
          cases hrule
        · rintro ⟨-, -, hnil⟩
          cases hnil

/-- A rule of an outline is read from a section of it. -/
theorem exists_section_of_mem {sections : List Section}
    (h : ofOutline sections ending = .ok rules) (hrule : rule ∈ rules) :
    ∃ s ∈ sections, ofSection? s = .ok (some rule) := by
  induction sections generalizing rules with
  | nil =>
    rw [ofOutline] at h
    split at h
    · cases h
    · cases h
      cases hrule
  | cons s rest ih =>
    rw [ofOutline] at h
    cases hfirst : ofSection? s with
    | error e => simp [hfirst] at h
    | ok first =>
      cases hlater : ofOutline rest ending with
      | error e => simp [hfirst, hlater] at h
      | ok later =>
        simp only [hfirst, hlater, Except.ok.injEq] at h
        rw [← h, List.mem_append, Option.mem_toList] at hrule
        rcases hrule with rfl | hrule
        · exact ⟨s, List.mem_cons_self, hfirst⟩
        · obtain ⟨t, ht, hrule⟩ := ih hlater hrule
          exact ⟨t, List.mem_cons_of_mem s ht, hrule⟩

/-- The selectors of a rule are listable, and its declarations are read from a text without
braces; both stand in the text that is read. -/
theorem of_mem_parseAll (h : parseAll text = .ok rules) (hrule : rule ∈ rules) :
    (∀ selector ∈ rule.selectors, IsListable selector ∧ selector <:+: text) ∧
      ∃ body, body <:+: text ∧ '{' ∉ body ∧ '}' ∉ body ∧
        Declarations.parse body = .ok rule.declarations := by
  obtain ⟨s, hs, hrule⟩ := exists_section_of_mem h hrule
  obtain ⟨hprelude, hopen, hbody, hclose⟩ := Outline.mem_sections hs
  obtain ⟨herror, hinner, hselectors, -, hparse⟩ := ofSection?_eq_some_iff.1 hrule
  obtain ⟨hunbalanced, -, hstray⟩ := preludeError?_eq_none_iff.1 herror
  refine ⟨?_, s.body, hbody, hinner, hclose, hparse⟩
  intro selector hselector
  rw [← hselectors] at hselector
  obtain ⟨htrim, hne, hcomma, hpart⟩ := Text.mem_trimmed_splitOn hselector
  have htext : selector <:+: s.prelude := hpart.trans (Text.trim_isInfix s.prelude)
  exact ⟨{
    trim_eq := htrim
    ne_nil := hne
    comma_notMem := hcomma
    semicolon_notMem := fun hmem => hstray (hpart.subset hmem)
    open_notMem := fun hmem => hopen (htext.subset hmem)
    close_notMem := fun hmem => hunbalanced (hpart.subset hmem) }, htext.trans hprelude⟩

/-! ## Rules one after the other -/

/-- A text without an opening brace is read when it holds blanks only, and then holds no
rules. -/
theorem parseAll_eq_ok_iff_of_notMem (h : '{' ∉ text) :
    parseAll text = .ok rules ↔ (∀ c ∈ text, Text.isBlank c = true) ∧ rules = [] := by
  rw [parseAll, Outline.ofText_of_notMem h, ← Text.trim_eq_nil_iff]
  cases htrim : Text.trim text with
  | nil => simp [ofOutline, endingError?, htrim, eq_comm]
  | cons c rest => simp [ofOutline, endingError?, htrim]

/-- Blanks hold no rules. -/
theorem parseAll_of_blank (h : ∀ c ∈ text, Text.isBlank c = true) : parseAll text = .ok [] :=
  (parseAll_eq_ok_iff_of_notMem (Text.notMem_of_blank h rfl)).2 ⟨h, rfl⟩

/-- A text with a block that is not closed is not read. -/
theorem parseAll_unclosed_ne_ok (hprelude : '{' ∉ prelude) (hrest : '}' ∉ rest) :
    parseAll (prelude ++ '{' :: rest) ≠ .ok rules := by
  rw [parseAll, Outline.ofText_unclosed hprelude hrest]
  simp [ofOutline, endingError?]

/-- A text is read section by section: an error in the first section is the error of the text,
and otherwise the rule of the section, if it makes one, stands before those of the rest. -/
theorem parseAll_section (hprelude : '{' ∉ prelude) (hbody : '}' ∉ body) (rest : Text) :
    parseAll (prelude ++ '{' :: (body ++ '}' :: rest)) =
      (ofSection? ⟨prelude, body⟩).bind fun first => (parseAll rest).map (first.toList ++ ·) := by
  simp only [parseAll, Outline.ofText_append hprelude hbody, ofOutline]
  cases ofSection? ⟨prelude, body⟩ with
  | error e => rfl
  | ok first =>
    cases ofOutline (Outline.ofText rest).sections (Outline.ofText rest).ending <;> rfl

/-- A text is read when its first section and the rest are. -/
theorem parseAll_append_eq_ok_iff (hprelude : '{' ∉ prelude) (hbody : '}' ∉ body) :
    parseAll (prelude ++ '{' :: (body ++ '}' :: rest)) = .ok rules ↔
      ∃ first later, ofSection? ⟨prelude, body⟩ = .ok first ∧ parseAll rest = .ok later ∧
        first.toList ++ later = rules := by
  rw [parseAll_section hprelude hbody]
  cases ofSection? ⟨prelude, body⟩ with
  | error e => simp [Except.bind]
  | ok first => simp [Except.bind, map_eq_ok_iff]

end Rule

end StyleInline
