import StyleInline.Proofs.Stylesheet.Grammar

/-!
# Stylesheets one after the other

Behind a stylesheet that can be read any text may follow: the rules come first, and then what
the text behind them is read as, be it rules or an error.  The blanks at the end of the first
text go before the first prelude of the second, or to what follows its last section, and
nothing that is read or reported shows them.

## Main results

* `Rule.parseAll_blank_append` — blanks in front of a text.
* `Rule.Written.parseAll_append_eq` — sections in front of a text, by induction on the grammar.
* `Rule.parseAll_append` — a text that can be read in front of any other.
-/

namespace StyleInline.Rule

variable {lead text rest : Text} {rules later : List Rule}

/-! ## Blanks in front -/

/-- A section does not show the blanks in front of its prelude. -/
theorem ofSection?_blank_append (hlead : ∀ c ∈ lead, Text.isBlank c = true)
    (prelude body : Text) :
    ofSection? ⟨lead ++ prelude, body⟩ = ofSection? ⟨prelude, body⟩ := by
  rw [ofSection?, ofSection?, Text.trim_blank_append hlead]

/-- Neither does an error behind the last section. -/
theorem endingError?_trailing_blank_append (hlead : ∀ c ∈ lead, Text.isBlank c = true)
    (text : Text) : endingError? (.trailing (lead ++ text)) = endingError? (.trailing text) := by
  rw [endingError?, endingError?, Text.trim_blank_append hlead]

theorem endingError?_unclosed_blank_append (hlead : ∀ c ∈ lead, Text.isBlank c = true)
    (prelude : Text) :
    endingError? (.unclosed (lead ++ prelude)) = endingError? (.unclosed prelude) := by
  rw [endingError?, endingError?, Text.trim_blank_append hlead]

/-- Blanks in front of a text change neither its rules nor its error. -/
theorem parseAll_blank_append (hlead : ∀ c ∈ lead, Text.isBlank c = true) (text : Text) :
    parseAll (lead ++ text) = parseAll text := by
  have hopen : '{' ∉ lead := Text.notMem_of_blank hlead rfl
  have hfront {prelude : Text} (hprelude : '{' ∉ prelude) : '{' ∉ lead ++ prelude := by
    rw [List.mem_append, not_or]
    exact ⟨hopen, hprelude⟩
  -- the blanks reach the first section only, so no induction hypothesis is used
  cases text using Outline.sections_induction with
  | trailing text htext =>
    rw [parseAll, parseAll, Outline.ofText_of_notMem (hfront htext),
      Outline.ofText_of_notMem htext, ofOutline, ofOutline,
      endingError?_trailing_blank_append hlead]
  | unclosed prelude rest hprelude hrest =>
    rw [← List.append_assoc, parseAll, parseAll, Outline.ofText_unclosed (hfront hprelude) hrest,
      Outline.ofText_unclosed hprelude hrest, ofOutline, ofOutline,
      endingError?_unclosed_blank_append hlead]
  | append prelude body rest hprelude hbody _ =>
    rw [← List.append_assoc, parseAll_section (hfront hprelude) hbody,
      parseAll_section hprelude hbody, ofSection?_blank_append hlead]

/-! ## Sections in front -/

/-- Behind a text of the grammar a text is read as it is alone. -/
theorem Written.parseAll_append_eq (h : Written text rules) (rest : Text) :
    parseAll (text ++ rest) = (parseAll rest).map (rules ++ ·) := by
  induction h with
  | blank hblank =>
    -- what ends the grammar is blank, and becomes the front of `rest`
    rw [parseAll_blank_append hblank]
    cases parseAll rest <;> rfl
  | @append s text first _ hsection hfirst _ ih =>
    have hread := ofSection?_eq_ok_iff_states.2
      ⟨(isWellFormed_iff hsection.prelude_open_notMem hsection.body_close_notMem).1 hsection,
        hfirst⟩
    have htext : s.prelude ++ '{' :: (s.body ++ '}' :: text) ++ rest
        = s.prelude ++ '{' :: (s.body ++ '}' :: (text ++ rest)) := by simp
    rw [htext, parseAll_section hsection.prelude_open_notMem hsection.body_close_notMem, hread, ih]
    cases parseAll rest with
    | error e => rfl
    | ok behind => exact congrArg Except.ok (List.append_assoc ..).symm

/-- Two texts of the grammar, one behind the other, are a text of the grammar. -/
theorem Written.append_text (h : Written text rules) (hrest : Written rest later) :
    Written (text ++ rest) (rules ++ later) := by
  refine written_of_parseAll ?_
  rw [h.parseAll_append_eq, hrest.parseAll_eq]
  rfl

/-- **Reading is compositional**: behind a text that can be read, any text gives its own rules,
which go behind those of the first, or its own error. -/
theorem parseAll_append (h : parseAll text = .ok rules) (rest : Text) :
    (∀ later, parseAll rest = .ok later → parseAll (text ++ rest) = .ok (rules ++ later)) ∧
      ∀ e, parseAll rest = .error e → parseAll (text ++ rest) = .error e := by
  rw [(written_of_parseAll h).parseAll_append_eq rest]
  constructor
  · intro later hrest
    rw [hrest]
    rfl
  · intro e hrest
    rw [hrest]
    rfl

/-- A rule, a section that is dropped and a line feed: `a{x:1} ,{?}`. -/
def droppedText : Text := "a\x7bx:1\x7d ,\x7b?\x7d\n".toList

/-- Its rule. -/
def droppedRule : Rule := ⟨["a".toList], ⟨[("x".toList, "1".toList)]⟩⟩

theorem parseAll_append_dropped :
    parseAll droppedText = .ok [droppedRule] ∧
      parseAll (droppedText ++ " b\x7b\x7d".toList)
        = .ok ([droppedRule] ++ [⟨["b".toList], .empty⟩]) ∧
      parseAll (droppedText ++ " b;c".toList) = .error (.straySemicolon "b;c".toList) :=
  have htext : parseAll droppedText = .ok [droppedRule] := by decide
  ⟨htext, (parseAll_append htext " b\x7b\x7d".toList).1 _ (by decide),
    (parseAll_append htext " b;c".toList).2 _ (by decide)⟩

end StyleInline.Rule
