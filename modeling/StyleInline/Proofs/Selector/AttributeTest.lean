import StyleInline.Proofs.Outcome
import StyleInline.Proofs.Selector.Grammar

/-!
# Reading attribute tests

Four readers look for an attribute test at the end of a token, each for its own operator.
What they find, taken together, is what the grammar allows between brackets: a reader
passes on what does not hold its operator, and the last one takes a name alone.

## Main results

* `Compound.readSuffixes_cons_iff` — one reader in front of others.
* `Compound.test_of_readSuffixes`, `Compound.readSuffixes_of_test` — what the four readers
  find is a test of the grammar, and every such test is found.
-/

namespace StyleInline.Compound

variable {token inner tag before name residue text rest : Text} {p : Predicate}
  {found predicates : List Predicate} {mark c : Char} {operator : Text}
  {test : Text → Text → Predicate} {compound : Compound}

/-! ## Values and brackets -/

/-- Values are read as they are written. -/
theorem unquote?_eq_some_iff {written value : Text} (hw : written ≠ []) :
    unquote? written = some value ↔ Value written value := by
  obtain ⟨c, rest, rfl⟩ := List.exists_cons_of_ne_nil hw
  rw [unquote?]
  by_cases hc : isQuote c = true
  · rw [if_pos hc, Text.dropEnd?_eq_some_iff]
    constructor
    · rintro rfl
      exact .quoted hc
    · intro h
      cases h with
      | plain h => simp [hc] at h
      | quoted h => rfl
  · rw [if_neg hc]
    constructor
    · rintro ⟨⟩
      exact .plain (by simpa using hc)
    · intro h
      cases h with
      | plain h => rfl
      | quoted h => exact absurd h hc

/-- The brackets are at the end of the token and behind an identifier. -/
theorem cutBrackets?_eq_some_iff :
    cutBrackets? token = some (tag, inner) ↔
      token = tag ++ '[' :: (inner ++ [']']) ∧ Text.isIdent tag = true ∧ inner ≠ [] ∧
        ']' ∉ inner := by
  constructor
  · intro h
    rw [cutBrackets?] at h
    split at h
    · cases h
    · next body hbody =>
      split at h
      · cases h
      · next tag' inner' hcut =>
        obtain ⟨hconditions, ⟨⟩⟩ := Option.ite_none_right_eq_some.1 h
        simp only [Bool.and_eq_true, Bool.not_eq_true', List.isEmpty_eq_false_iff,
          List.contains_eq_mem, decide_eq_false_iff_not] at hconditions
        rw [Text.dropEnd?_eq_some_iff] at hbody
        rw [(Text.cut?_eq_some_iff.1 hcut).1] at hbody
        exact ⟨by simpa using hbody, hconditions.1.1, hconditions.1.2, hconditions.2⟩
  · rintro ⟨rfl, htag, hne, hinner⟩
    have hbody : Text.dropEnd? ']' (tag ++ '[' :: (inner ++ [']'])) = some (tag ++ '[' :: inner) :=
      Text.dropEnd?_eq_some_iff.2 (by simp)
    have hcut : Text.cut? '[' (tag ++ '[' :: inner) = some (tag, inner) :=
      Text.cut?_eq_some_iff.2 ⟨rfl, Text.notMem_of_isIdent htag (by decide)⟩
    rw [cutBrackets?, hbody]
    simp [hcut, htag, hne, hinner]

/-- Without an opening bracket there is no attribute test. -/
theorem cutBrackets?_eq_none_of_notMem (h : '[' ∉ token) : cutBrackets? token = none := by
  rw [Option.eq_none_iff_forall_ne_some]
  rintro ⟨tag, inner⟩ hcut
  rw [(cutBrackets?_eq_some_iff.1 hcut).1] at h
  simp at h

/-! ## Readers in a row -/

/-- The first reader finds a suffix that the later ones do not see, or nothing. -/
theorem readSuffixes_cons_iff {reader : Reader} {later : List Reader} :
    readSuffixes (reader :: later) token = .ok (residue, found) ↔
      (∃ before p more, reader token = .ok (some (before, p)) ∧
        readSuffixes later before = .ok (residue, more) ∧ found = p :: more) ∨
      (reader token = .ok none ∧ readSuffixes later token = .ok (residue, found)) := by
  simp only [readSuffixes]
  cases reader token with
  | error e => simp
  | ok answer =>
    cases answer with
    | none => simp
    | some cut =>
      simp only [map_eq_ok_iff, Prod.exists, Prod.mk.injEq, Except.ok.injEq, reduceCtorEq,
        false_and, or_false]
      constructor
      · rintro ⟨residue, more, hlater, rfl, rfl⟩
        exact ⟨cut.1, cut.2, more, rfl, hlater, rfl⟩
      · rintro ⟨before, p, more, ⟨⟩, hlater, rfl⟩
        exact ⟨residue, more, hlater, rfl, rfl⟩

/-- Readers that find nothing leave the token as it is. -/
theorem readSuffixes_of_forall_none {readers : List Reader}
    (h : ∀ reader ∈ readers, reader token = .ok none) :
    readSuffixes readers token = .ok (token, []) := by
  induction readers with
  | nil => rfl
  | cons reader later ih =>
    refine readSuffixes_cons_iff.2 (.inr ⟨h reader List.mem_cons_self, ih fun r hr => ?_⟩)
    exact h r (List.mem_cons_of_mem _ hr)

/-- The readers of attribute tests, in their order. -/
def attributeReaders : List Reader := [
  readOperator ['~', '='] .word,
  readOperator ['|', '='] .dash,
  readOperator ['='] .equals,
  readPresent]

theorem readers_eq : readers = readId :: readClass :: attributeReaders := rfl

/-- Without brackets a reader of attribute tests finds nothing. -/
theorem eq_none_of_mem_attributeReaders (h : cutBrackets? token = none) {reader : Reader}
    (hreader : reader ∈ attributeReaders) : reader token = .ok none := by
  simp only [attributeReaders, List.mem_cons, List.not_mem_nil, or_false] at hreader
  rcases hreader with rfl | rfl | rfl | rfl <;> simp [readOperator, readPresent, h]

theorem readSuffixes_attributeReaders_of_none (h : cutBrackets? token = none) :
    readSuffixes attributeReaders token = .ok (token, []) :=
  readSuffixes_of_forall_none fun _ => eq_none_of_mem_attributeReaders h

/-! ## One operator -/

theorem nameError?_eq_none_iff : nameError? token name = none ↔ Text.isIdent name = true := by
  rw [nameError?]
  split
  · simp [*]
  · split <;> simp [*]

/-- A reader finds nothing if its operator does not occur with something on both sides. -/
theorem readOperator_eq_none_iff (h : cutBrackets? token = some (tag, inner)) :
    readOperator operator test token = .ok none ↔
      ∀ name written, Text.cutAtLast? operator inner = some (name, written) →
        name = [] ∨ written = [] := by
  simp only [readOperator, h]
  cases Text.cutAtLast? operator inner with
  | none => simp
  | some cut =>
    obtain ⟨name, written⟩ := cut
    by_cases hside : name = [] ∨ written = []
    · rcases hside with rfl | rfl <;> simp
    · simp only [Bool.or_eq_true, List.isEmpty_iff, hside, if_false, Option.some.injEq,
        Prod.mk.injEq]
      constructor
      · intro hread
        split at hread
        · cases hread
        · split at hread <;> cases hread
      · intro hside'
        exact absurd (hside' name written ⟨rfl, rfl⟩) hside

/-- A reader finds its operator behind an identifier and before a value. -/
theorem readOperator_eq_some_iff (h : cutBrackets? token = some (tag, inner)) :
    readOperator operator test token = .ok (some (before, p)) ↔
      before = tag ∧ ∃ name written value, Text.cutAtLast? operator inner = some (name, written) ∧
        Text.isIdent name = true ∧ Value written value ∧ p = test name value := by
  simp only [readOperator, h]
  cases Text.cutAtLast? operator inner with
  | none => simp
  | some cut =>
    obtain ⟨name, written⟩ := cut
    constructor
    · intro hread
      dsimp only at hread
      split at hread
      · cases hread
      · next hside =>
        split at hread
        · cases hread
        · next hname =>
          split at hread
          · cases hread
          · next value hvalue =>
            cases hread
            simp only [Bool.or_eq_true, List.isEmpty_iff, not_or] at hside
            exact ⟨rfl, name, written, value, rfl, nameError?_eq_none_iff.1 hname,
              (unquote?_eq_some_iff hside.2).1 hvalue, rfl⟩
    · rintro ⟨rfl, name, written, value, ⟨⟩, hname, hvalue, rfl⟩
      have hread := (unquote?_eq_some_iff hvalue.ne_nil).2 hvalue
      simp [Text.ne_nil_of_isIdent hname, hvalue.ne_nil, nameError?_eq_none_iff.2 hname, hread]

/-- A reader finds nothing in a test that does not hold its operator. -/
theorem readOperator_eq_none_of_not_infix (h : cutBrackets? token = some (tag, inner))
    (hoperator : ¬ c :: operator <:+: inner) :
    readOperator (c :: operator) test token = .ok none := by
  refine (readOperator_eq_none_iff h).2 ?_
  intro name written hcut
  rw [(Text.cutAtLast?_eq_none_iff (by simp)).2 hoperator] at hcut
  cases hcut

/-- Where an operator of two characters is cut. -/
theorem cutAtLast?_pair_eq_some_iff {written : Text} (hc : c ≠ '=') :
    Text.cutAtLast? [c, '='] inner = some (name, written) ↔
      inner = name ++ c :: '=' :: written ∧ ¬ [c, '='] <:+: written := by
  have hoccurs : [c, '='] <:+: '=' :: written ↔ [c, '='] <:+: written :=
    ⟨Text.infix_of_infix_append (show c ∉ ['='] by simpa using hc), List.infix_cons⟩
  rw [Text.cutAtLast?_eq_some_iff, List.singleton_append, hoccurs]

/-- What the reader of an operator of two characters finds. -/
theorem readOperator_pair_eq_some_iff (h : cutBrackets? token = some (tag, inner))
    (hc : c ≠ '=') :
    readOperator [c, '='] test token = .ok (some (before, p)) ↔
      before = tag ∧ ∃ name written value, inner = name ++ c :: '=' :: written ∧
        Text.isIdent name = true ∧ Value written value ∧ ¬ [c, '='] <:+: written ∧
        p = test name value := by
  simp only [readOperator_eq_some_iff h, cutAtLast?_pair_eq_some_iff hc]
  grind

/-- What the reader of the sign of equality finds. -/
theorem readOperator_equals_eq_some_iff (h : cutBrackets? token = some (tag, inner)) :
    readOperator ['='] test token = .ok (some (before, p)) ↔
      before = tag ∧ ∃ name written value, inner = name ++ '=' :: written ∧
        Text.isIdent name = true ∧ Value written value ∧ '=' ∉ written ∧ p = test name value := by
  simp only [readOperator_eq_some_iff h, Text.cutAtLast?_eq_some_iff, List.nil_append,
    List.singleton_infix_iff]
  grind

/-- Between brackets the last reader accepts an identifier and nothing else. -/
theorem readPresent_eq_ok_iff (h : cutBrackets? token = some (tag, inner)) {answer : Found} :
    readPresent token = .ok answer ↔
      Text.isIdent inner = true ∧ answer = some (tag, .present inner) := by
  have hname : nameError? token inner = none ↔ Text.isIdent inner = true := nameError?_eq_none_iff
  rw [← hname]
  simp only [readPresent, h]
  cases nameError? token inner <;> simp [eq_comm]

/-- In a test with a dash, the reader that comes first finds nothing exactly when its
operator does not occur in the value, or ends it. -/
theorem readOperator_word_eq_none_iff {written : Text}
    (h : cutBrackets? token = some (tag, name ++ '|' :: '=' :: written))
    (hname : Text.isIdent name = true) :
    readOperator ['~', '='] test token = .ok none ↔
      ¬ ['~', '='] <:+: written ∨ ['~', '='] <:+ written := by
  -- an occurrence in the value is one in the test, with the same text behind it
  have hcut {before after : Text} (hw : Text.cutAtLast? ['~', '='] written = some (before, after)) :
      Text.cutAtLast? ['~', '='] (name ++ '|' :: '=' :: written)
        = some (name ++ '|' :: '=' :: before, after) := by
    rw [cutAtLast?_pair_eq_some_iff (by decide)] at hw ⊢
    exact ⟨by rw [hw.1]; simp, hw.2⟩
  constructor
  · intro hread
    cases hw : Text.cutAtLast? ['~', '='] written with
    | none => exact .inl ((Text.cutAtLast?_eq_none_iff (by simp)).1 hw)
    | some cut =>
      obtain ⟨before, after⟩ := cut
      rcases (readOperator_eq_none_iff h).1 hread _ _ (hcut hw) with hnil | rfl
      · simp at hnil
      · exact .inr ⟨before, ((cutAtLast?_pair_eq_some_iff (by decide)).1 hw).1.symm⟩
  · rintro (hnot | ⟨before, rfl⟩)
    · refine readOperator_eq_none_of_not_infix h fun hoccurs => hnot ?_
      have hbefore : '~' ∉ name ++ ['|', '='] := by
        simpa using Text.notMem_of_isIdent hname (by decide)
      exact Text.infix_of_infix_append hbefore (by simpa using hoccurs)
    · have hw : Text.cutAtLast? ['~', '='] (before ++ ['~', '=']) = some (before, []) :=
        (cutAtLast?_pair_eq_some_iff (by decide)).2 ⟨rfl, by simp⟩
      refine (readOperator_eq_none_iff h).2 ?_
      intro n w hnw
      rw [hcut hw] at hnw
      cases hnw
      exact .inr rfl

/-! ## All tests -/

/-- In an identifier no reader of attribute tests finds anything. -/
theorem readSuffixes_of_isIdent (htag : Text.isIdent tag = true) {later : List Reader}
    (hlater : later ⊆ attributeReaders) : readSuffixes later tag = .ok (tag, []) := by
  have hnone : cutBrackets? tag = none :=
    cutBrackets?_eq_none_of_notMem (Text.notMem_of_isIdent htag (by decide))
  exact readSuffixes_of_forall_none fun reader hreader =>
    eq_none_of_mem_attributeReaders hnone (hlater hreader)

/-- What the readers find between brackets is a test of the grammar. -/
theorem test_of_readSuffixes (h : cutBrackets? token = some (tag, inner))
    (hread : readSuffixes attributeReaders token = .ok (residue, found)) :
    residue = tag ∧ ∃ p, found = [p] ∧ Test inner p := by
  have htag : Text.isIdent tag = true := (cutBrackets?_eq_some_iff.1 h).2.1
  have hdone {later : List Reader} {residue : Text} {more : List Predicate}
      (hlater : later ⊆ attributeReaders) (hread : readSuffixes later tag = .ok (residue, more)) :
      residue = tag ∧ more = [] := by
    rw [readSuffixes_of_isIdent htag hlater] at hread
    cases hread
    exact ⟨rfl, rfl⟩
  rw [attributeReaders, readSuffixes_cons_iff] at hread
  rcases hread with ⟨before, p, more, hword, hread, rfl⟩ | ⟨hword, hread⟩
  · obtain ⟨rfl, name, written, value, rfl, hname, hvalue, hnot, rfl⟩ :=
      (readOperator_pair_eq_some_iff h (by decide)).1 hword
    obtain ⟨rfl, rfl⟩ := hdone (by simp [attributeReaders]) hread
    exact ⟨rfl, _, rfl, .word hname hvalue hnot⟩
  rw [readSuffixes_cons_iff] at hread
  rcases hread with ⟨before, p, more, hdash, hread, rfl⟩ | ⟨-, hread⟩
  · obtain ⟨rfl, name, written, value, rfl, hname, hvalue, hnot, rfl⟩ :=
      (readOperator_pair_eq_some_iff h (by decide)).1 hdash
    obtain ⟨rfl, rfl⟩ := hdone (by simp [attributeReaders]) hread
    have hends := (readOperator_word_eq_none_iff h hname).1 hword
    exact ⟨rfl, _, rfl, .dash hname hvalue hnot hends⟩
  rw [readSuffixes_cons_iff] at hread
  rcases hread with ⟨before, p, more, hequals, hread, rfl⟩ | ⟨-, hread⟩
  · obtain ⟨rfl, name, written, value, rfl, hname, hvalue, hnot, rfl⟩ :=
      (readOperator_equals_eq_some_iff h).1 hequals
    obtain ⟨rfl, rfl⟩ := hdone (by simp [attributeReaders]) hread
    exact ⟨rfl, _, rfl, .equals hname hvalue hnot⟩
  rw [readSuffixes_cons_iff] at hread
  rcases hread with ⟨before, p, more, hpresent, hread, rfl⟩ | ⟨hpresent, -⟩
  · obtain ⟨hname, ⟨⟩⟩ := (readPresent_eq_ok_iff h).1 hpresent
    cases hread
    exact ⟨rfl, _, rfl, .present hname⟩
  · cases ((readPresent_eq_ok_iff h).1 hpresent).2

/-- The readers find the tests of the grammar between brackets. -/
theorem readSuffixes_of_test (h : cutBrackets? token = some (tag, inner)) (htest : Test inner p) :
    readSuffixes attributeReaders token = .ok (tag, [p]) := by
  have htag : Text.isIdent tag = true := (cutBrackets?_eq_some_iff.1 h).2.1
  have hdone {later : List Reader} (hlater : later ⊆ attributeReaders) :
      readSuffixes later tag = .ok (tag, []) := readSuffixes_of_isIdent htag hlater
  rw [attributeReaders]
  cases htest with
  | word hname hvalue hword =>
    refine readSuffixes_cons_iff.2 (.inl ⟨tag, _, [], ?_, hdone (by simp [attributeReaders]), rfl⟩)
    exact (readOperator_pair_eq_some_iff h (by decide)).2
      ⟨rfl, _, _, _, rfl, hname, hvalue, hword, rfl⟩
  | dash hname hvalue hdash hword =>
    refine readSuffixes_cons_iff.2 (.inr ⟨(readOperator_word_eq_none_iff h hname).2 hword, ?_⟩)
    refine readSuffixes_cons_iff.2 (.inl ⟨tag, _, [], ?_, hdone (by simp [attributeReaders]), rfl⟩)
    exact (readOperator_pair_eq_some_iff h (by decide)).2
      ⟨rfl, _, _, _, rfl, hname, hvalue, hdash, rfl⟩
  | @equals name written value hname hvalue hequals =>
    have hnone {c : Char} (hc : c ≠ '=') (hchar : Text.isIdentChar c = false)
        (test : Text → Text → Predicate) : readOperator [c, '='] test token = .ok none := by
      refine readOperator_eq_none_of_not_infix h fun hoccurs => hequals ?_
      have hbefore : c ∉ name ++ ['='] := by
        simpa [hc] using Text.notMem_of_isIdent hname hchar
      have hwritten : [c, '='] <:+: written :=
        Text.infix_of_infix_append hbefore (by simpa using hoccurs)
      exact hwritten.subset (by simp)
    refine readSuffixes_cons_iff.2 (.inr ⟨hnone (by decide) (by decide) _, ?_⟩)
    refine readSuffixes_cons_iff.2 (.inr ⟨hnone (by decide) (by decide) _, ?_⟩)
    refine readSuffixes_cons_iff.2 (.inl ⟨tag, _, [], ?_, hdone (by simp [attributeReaders]), rfl⟩)
    exact (readOperator_equals_eq_some_iff h).2 ⟨rfl, _, _, _, rfl, hname, hvalue, hequals, rfl⟩
  | present hname =>
    have hequals : '=' ∉ inner := Text.notMem_of_isIdent hname (by decide)
    have hnone {c : Char} {operator : Text} (hmem : '=' ∈ c :: operator)
        (test : Text → Text → Predicate) : readOperator (c :: operator) test token = .ok none :=
      readOperator_eq_none_of_not_infix h fun hoccurs => hequals (hoccurs.subset hmem)
    refine readSuffixes_cons_iff.2 (.inr ⟨hnone (by simp) _, ?_⟩)
    refine readSuffixes_cons_iff.2 (.inr ⟨hnone (by simp) _, ?_⟩)
    refine readSuffixes_cons_iff.2 (.inr ⟨hnone (by simp) _, ?_⟩)
    refine readSuffixes_cons_iff.2 (.inl ⟨tag, _, [], ?_, rfl, rfl⟩)
    exact (readPresent_eq_ok_iff h).2 ⟨hname, rfl⟩

end StyleInline.Compound
