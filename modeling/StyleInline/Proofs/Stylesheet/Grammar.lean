import StyleInline.Proofs.Stylesheet.Outline
import StyleInline.Proofs.Text.TrimmedParts

/-!
# The grammar of stylesheets

A stylesheet is a sequence of sections, each a prelude and a body in braces, with nothing but
blanks behind the last of them.  The grammar below says which texts these are and what rules
they hold, without saying how a text is cut or in which order it is looked at.

A prelude may be a list of nothing: blanks, or blanks between commas.  Its section makes no
rule, and its body may then hold anything but braces.

## Main definitions

* `Section.IsWellFormed` — what may stand before and between the braces.
* `Section.Lists` — the selectors that a prelude lists.
* `Section.States` — the rule that a section makes, if it makes one.
* `Rule.Written` — the grammar of stylesheets.

## Main results

* `Rule.parseAll_eq_ok_iff_written` — the texts that are read are those of the grammar.
-/

namespace StyleInline

/-! ## Sections -/

/-- What may stand before and between the braces of a section.  Its prelude ends no
declaration and begins no at-rule. -/
structure Section.IsWellFormed (s : Section) : Prop where
  prelude_open_notMem : '{' ∉ s.prelude
  prelude_close_notMem : '}' ∉ s.prelude
  prelude_semicolon_notMem : ';' ∉ s.prelude
  prelude_head?_ne : (Text.trim s.prelude).head? ≠ some '@'
  body_open_notMem : '{' ∉ s.body
  body_close_notMem : '}' ∉ s.body

/-- The selectors that a section lists.  Its prelude is parts with commas between them, and
each part that is not blank is a selector once the blanks around it are taken away. -/
def Section.Lists (s : Section) (selectors : List Text) : Prop :=
  ∃ parts : List Text, parts ≠ [] ∧ (∀ part ∈ parts, ',' ∉ part) ∧
    s.prelude = List.intercalate [','] parts ∧
    selectors = (parts.map Text.trim).filter (!·.isEmpty)

/-- The rule that a section makes, if it makes one.  Only a section that lists selectors has
to hold declarations. -/
inductive Section.States : Section → Option Rule → Prop
  | nothing {s : Section} (hselectors : s.Lists []) : States s none
  | rule {s : Section} {selectors : List Text} {declarations : Declarations}
      (hselectors : s.Lists selectors) (hne : selectors ≠ [])
      (hdeclarations : Declarations.parse s.body = .ok declarations) :
      States s (some ⟨selectors, declarations⟩)

/-- The written form of a stylesheet: sections one after the other, and blanks.  The rules
are those of the sections in order. -/
inductive Rule.Written : Text → List Rule → Prop
  | blank {text : Text} (hblank : ∀ c ∈ text, Text.isBlank c = true) : Written text []
  | append {s : Section} {rest : Text} {first : Option Rule} {later : List Rule}
      (hsection : s.IsWellFormed) (hfirst : s.States first) (hrest : Written rest later) :
      Written (s.prelude ++ '{' :: (s.body ++ '}' :: rest)) (first.toList ++ later)

namespace Rule

variable {text : Text} {s : Section} {first : Option Rule} {rules : List Rule}

/-! ## Reading a section -/

/-- Blanks around a prelude are not seen by its selectors. -/
theorem selectorsOf_trim (prelude : Text) :
    selectorsOf (Text.trim prelude) = selectorsOf prelude := by
  rw [selectorsOf, selectorsOf, Text.map_trim_splitOn_trim rfl]

/-- A section lists the selectors that its trimmed prelude is read as. -/
theorem lists_iff {selectors : List Text} :
    s.Lists selectors ↔ selectorsOf (Text.trim s.prelude) = selectors := by
  rw [selectorsOf_trim, selectorsOf, Text.splitOn_eq]
  constructor
  · rintro ⟨parts, hne, hcomma, hprelude, rfl⟩
    rw [hprelude, List.splitOn_intercalate ',' hcomma hne]
  · rintro rfl
    refine ⟨List.splitOn ',' s.prelude, List.splitOn_ne_nil _ _, ?_, ?_, rfl⟩
    · intro part hpart
      rw [← Text.splitOn_eq] at hpart
      exact Text.notMem_of_mem_splitOn hpart
    · rw [List.intercalate_splitOn]

/-- A section is read when nothing is wrong with its prelude and no block begins in its body,
and the outcome is then what it states. -/
theorem ofSection?_eq_ok_iff_states :
    ofSection? s = .ok first ↔
      (preludeError? (Text.trim s.prelude) = none ∧ '{' ∉ s.body) ∧ s.States first := by
  cases first with
  | none =>
    rw [ofSection?_eq_none_iff, ← lists_iff]
    constructor
    · rintro ⟨herror, hopen, hselectors⟩
      exact ⟨⟨herror, hopen⟩, .nothing hselectors⟩
    · rintro ⟨⟨herror, hopen⟩, hstates⟩
      cases hstates with
      | nothing hselectors => exact ⟨herror, hopen, hselectors⟩
  | some rule =>
    rw [ofSection?_eq_some_iff, ← lists_iff]
    constructor
    · rintro ⟨herror, hopen, hselectors, hne, hdeclarations⟩
      exact ⟨⟨herror, hopen⟩, .rule hselectors hne hdeclarations⟩
    · rintro ⟨⟨herror, hopen⟩, hstates⟩
      cases hstates with
      | rule hselectors hne hdeclarations =>
        exact ⟨herror, hopen, hselectors, hne, hdeclarations⟩

/-- A section as it is cut from a text is well-formed when nothing is wrong with its prelude
and no block begins in its body. -/
theorem isWellFormed_iff (hprelude : '{' ∉ s.prelude) (hbody : '}' ∉ s.body) :
    s.IsWellFormed ↔ preludeError? (Text.trim s.prelude) = none ∧ '{' ∉ s.body := by
  rw [preludeError?_eq_none_iff, Text.mem_trim_iff rfl, Text.mem_trim_iff rfl]
  constructor
  · intro h
    exact ⟨⟨h.prelude_close_notMem, h.prelude_head?_ne, h.prelude_semicolon_notMem⟩,
      h.body_open_notMem⟩
  · rintro ⟨⟨hclose, hat, hsemicolon⟩, hopen⟩
    exact ⟨hprelude, hclose, hsemicolon, hat, hopen, hbody⟩

/-! ## Reading a text -/

/-- A text of the grammar is read as the rules that the grammar says. -/
theorem Written.parseAll_eq (h : Written text rules) : parseAll text = .ok rules := by
  induction h with
  | blank hblank => exact parseAll_of_blank hblank
  | append hsection hfirst _ ih =>
    have hprelude := hsection.prelude_open_notMem
    have hbody := hsection.body_close_notMem
    have hread := ofSection?_eq_ok_iff_states.2
      ⟨(isWellFormed_iff hprelude hbody).1 hsection, hfirst⟩
    exact (parseAll_append_eq_ok_iff hprelude hbody).2 ⟨_, _, hread, ih, rfl⟩

/-- A text that is read belongs to the grammar. -/
theorem written_of_parseAll (h : parseAll text = .ok rules) : Written text rules := by
  induction text using Outline.sections_induction generalizing rules with
  | trailing text hopen =>
    obtain ⟨hblank, rfl⟩ := (parseAll_eq_ok_iff_of_notMem hopen).1 h
    exact .blank hblank
  | unclosed prelude rest hprelude hrest =>
    exact absurd h (parseAll_unclosed_ne_ok hprelude hrest)
  | append prelude body rest hprelude hbody ih =>
    obtain ⟨first, later, hread, hrest, rfl⟩ := (parseAll_append_eq_ok_iff hprelude hbody).1 h
    obtain ⟨hsound, hstates⟩ := ofSection?_eq_ok_iff_states.1 hread
    exact .append ((isWellFormed_iff hprelude hbody).2 hsound) hstates (ih hrest)

/-- **A text is read as rules exactly when it is a written form of them.** -/
theorem parseAll_eq_ok_iff_written : parseAll text = .ok rules ↔ Written text rules := by
  constructor
  · exact written_of_parseAll
  · exact Written.parseAll_eq

end Rule

end StyleInline
