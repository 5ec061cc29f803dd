import StyleInline.Proofs.Selector.Reading
import StyleInline.Proofs.Text.Trim

/-!
# Quoted values

An attribute test with its value between quotation marks is read as it is written unless the
value holds a sign of equality.  Marks of classes, ids and combinators do no harm there, but
the readers of operators look for the last occurrence and do not know quotation marks: they cut
the value in two, and what they take for the name of the attribute holds a quotation mark.  So
a quoted value is never read wrongly; it is read, or the selector is reported to be faulty.

## Main definitions

* `Compound.quotedTest` — the token `tag[name="value"]`.
* `Compound.beforeOperator?` — where a value is cut.

## Main results

* `Selector.parse_quotedTest` — what is read of the token.
-/

namespace StyleInline

namespace Compound

variable {token inner tag name value before after written mark : Text} {c : Char}
  {operator : Text} {test : Text → Text → Predicate} {reader : Reader} {later : List Reader}
  {e : SelectorError}

/-! ## Readers that fail -/

theorem readSuffixes_cons_of_none (h : reader token = .ok none) :
    readSuffixes (reader :: later) token = readSuffixes later token := by
  simp only [readSuffixes, h]

theorem readSuffixes_cons_of_error (h : reader token = .error e) :
    readSuffixes (reader :: later) token = .error e := by
  simp only [readSuffixes, h]

/-- A reader fails when no name stands in front of its operator. -/
theorem readOperator_eq_error (h : cutBrackets? token = some (tag, inner))
    (hcut : Text.cutAtLast? operator inner = some (name, written)) (hname : name ≠ [])
    (hwritten : written ≠ []) (he : nameError? token name = some e) :
    readOperator operator test token = .error e := by
  simp [readOperator, h, hcut, hname, hwritten, he]

/-! ## The token -/

/-- What stands between the brackets of `tag[name="value"]`. -/
def quotedInner (name value : Text) : Text := name ++ '=' :: '"' :: (value ++ ['"'])

/-- The token `tag[name="value"]`. -/
def quotedTest (tag name value : Text) : Text := tag ++ '[' :: (quotedInner name value ++ [']'])

/-- What stands in a value in front of the operator that is found in it: the last occurrence of
the first that occurs. -/
def beforeOperator? (value : Text) : Option Text :=
  ([['~', '='], ['|', '='], ['=']].findSome? fun operator =>
    Text.cutAtLast? operator value).map Prod.fst

/-- What a token is reported for if `before` stands in its value in front of an operator: it is
malformed, or unsupported where the operator looks like one of those outside the language. -/
def operatorFault (token before : Text) : SelectorError :=
  if before.getLast? ∈ [some '^', some '$', some '*'] then .unsupported token
  else .malformed token

theorem close_notMem_quotedInner (hname : Text.isIdent name = true) (hclose : ']' ∉ value) :
    ']' ∉ quotedInner name value := by
  have hnot : ']' ∉ name := Text.notMem_of_isIdent hname (by decide)
  simp [quotedInner, hnot, hclose]

theorem cutBrackets?_quotedTest (htag : Text.isIdent tag = true)
    (hname : Text.isIdent name = true) (hclose : ']' ∉ value) :
    cutBrackets? (quotedTest tag name value) = some (tag, quotedInner name value) :=
  cutBrackets?_eq_some_iff.2
    ⟨rfl, htag, by simp [quotedInner], close_notMem_quotedInner hname hclose⟩

/-- The token has neither class nor id. -/
theorem cutIdent?_quotedTest (hmark : Text.isIdentChar c = false) (hbracket : c ≠ ']') :
    cutIdent? c (quotedTest tag name value) = none := by
  have htoken : quotedTest tag name value = (tag ++ '[' :: quotedInner name value) ++ [']'] := by
    simp [quotedTest]
  rw [htoken]
  exact cutIdent?_append_eq_none hmark (show Text.isIdentChar ']' = false by decide) (by simp)
    (by simpa using hbracket)

/-- The token is at fault if an attribute reader says so. -/
theorem ofToken_quotedTest_eq_error (htag : Text.isIdent tag = true)
    (hname : Text.isIdent name = true) (hclose : ']' ∉ value)
    (h : readSuffixes attributeReaders (quotedTest tag name value) = .error e) :
    ofToken (quotedTest tag name value) = .error e := by
  have hid : readId (quotedTest tag name value) = .ok none := by
    rw [readId, cutIdent?_quotedTest (by decide) (by decide)]
    rfl
  have hclass : readClass (quotedTest tag name value) = .ok none := by
    rw [readClass, cutIdent?_quotedTest (by decide) (by decide)]
    rfl
  have htilde : hasOuterTilde 0 (quotedTest tag name value) = false :=
    hasOuterTilde_brackets htag (close_notMem_quotedInner hname hclose) (by simp)
  have hread : readSuffixes readers (quotedTest tag name value) = .error e := by
    rw [readers_eq, readSuffixes_cons_of_none hid, readSuffixes_cons_of_none hclass, h]
  simp only [ofToken, htilde, hread]
  rfl

/-! ## Operators in the value -/

/-- An operator that occurs in the value is cut there. -/
theorem cutAtLast?_quotedInner (hquote : '"' ∉ c :: mark)
    (h : Text.cutAtLast? (c :: mark) value = some (before, after)) :
    Text.cutAtLast? (c :: mark) (quotedInner name value)
      = some (name ++ '=' :: '"' :: before, after ++ ['"']) := by
  rw [Text.cutAtLast?_eq_some_iff] at h ⊢
  obtain ⟨rfl, hlast⟩ := h
  refine ⟨by simp [quotedInner], ?_⟩
  intro hoccurs
  rw [← List.append_assoc] at hoccurs
  exact hlast (Text.infix_of_infix_concat (by simp) hquote hoccurs)

/-- An operator that does not occur in the value does not occur in the test, the sign of
equality aside. -/
theorem not_infix_quotedInner (hname : Text.isIdent name = true) (hc : Text.isIdentChar c = false)
    (hequals : c ≠ '=') (hquote : '"' ∉ c :: mark) (h : ¬ c :: mark <:+: value) :
    ¬ c :: mark <:+: quotedInner name value := by
  have hinner : quotedInner name value = (name ++ ['=', '"']) ++ (value ++ ['"']) := by
    simp [quotedInner]
  have hnot : c ∉ name ++ ['=', '"'] := by
    have hcname : c ∉ name := Text.notMem_of_isIdent hname hc
    have hcquote : c ≠ '"' := fun heq => hquote (by simp [heq])
    simp [hcname, hequals, hcquote]
  intro hoccurs
  rw [hinner] at hoccurs
  exact h (Text.infix_of_infix_concat (by simp) hquote (Text.infix_of_infix_append hnot hoccurs))

/-- What stands in front of an operator in the value is no name. -/
theorem nameError?_quoted (token name before : Text) :
    nameError? token (name ++ '=' :: '"' :: before) = some (operatorFault token before) := by
  have hident : Text.isIdent (name ++ '=' :: '"' :: before) = false := by
    rw [← Bool.not_eq_true]
    intro hident
    exact Text.notMem_of_isIdent hident (show Text.isIdentChar '"' = false by decide) (by simp)
  have hlast : (name ++ '=' :: '"' :: before).getLast? = some (before.getLast?.getD '"') := by
    simp [List.getLast?_append, List.getLast?_cons]
  rw [nameError?, hident, hlast, operatorFault]
  cases before.getLast? <;> simp [apply_ite some, or_assoc]

/-- An operator in the value makes its reader fail. -/
theorem readOperator_quotedTest_eq_error (htag : Text.isIdent tag = true)
    (hname : Text.isIdent name = true) (hclose : ']' ∉ value) (hquote : '"' ∉ c :: mark)
    (h : Text.cutAtLast? (c :: mark) value = some (before, after)) :
    readOperator (c :: mark) test (quotedTest tag name value) =
      .error (operatorFault (quotedTest tag name value) before) :=
  readOperator_eq_error (cutBrackets?_quotedTest htag hname hclose)
    (cutAtLast?_quotedInner hquote h) (by simp) (by simp) (nameError?_quoted _ _ _)

/-- The reader of an operator of two characters passes on a value that does not hold it. -/
theorem readOperator_quotedTest_eq_none (htag : Text.isIdent tag = true)
    (hname : Text.isIdent name = true) (hclose : ']' ∉ value)
    (hc : Text.isIdentChar c = false) (hequals : c ≠ '=') (hquote : '"' ∉ c :: mark)
    (h : Text.cutAtLast? (c :: mark) value = none) :
    readOperator (c :: mark) test (quotedTest tag name value) = .ok none := by
  rw [Text.cutAtLast?_eq_none_iff (by simp)] at h
  exact readOperator_eq_none_of_not_infix (cutBrackets?_quotedTest htag hname hclose)
    (not_infix_quotedInner hname hc hequals hquote h)

/-- An operator is found in the values that hold a sign of equality. -/
theorem beforeOperator?_eq_none_iff : beforeOperator? value = none ↔ '=' ∉ value := by
  have hsub {operator : Text} (h : ['='] <:+: operator) (hne : operator ≠ [])
      (hequals : ¬ ['='] <:+: value) : Text.cutAtLast? operator value = none :=
    (Text.cutAtLast?_eq_none_iff hne).2 fun hoccurs => hequals (h.trans hoccurs)
  rw [beforeOperator?, Option.map_eq_none_iff, List.findSome?_eq_none_iff,
    ← List.singleton_infix_iff]
  constructor
  · intro h
    exact (Text.cutAtLast?_eq_none_iff (by simp)).1 (h ['='] (by simp))
  · intro hequals operator hoperator
    simp only [List.mem_cons, List.not_mem_nil, or_false] at hoperator
    rcases hoperator with rfl | rfl | rfl
    · exact hsub ⟨['~'], [], rfl⟩ (by simp) hequals
    · exact hsub ⟨['|'], [], rfl⟩ (by simp) hequals
    · exact hsub List.infix_rfl (by simp) hequals

/-- A value with an operator makes the readers of attribute tests fail. -/
theorem readSuffixes_quotedTest_eq_error (htag : Text.isIdent tag = true)
    (hname : Text.isIdent name = true) (hclose : ']' ∉ value)
    (h : beforeOperator? value = some before) :
    readSuffixes attributeReaders (quotedTest tag name value) =
      .error (operatorFault (quotedTest tag name value) before) := by
  obtain ⟨⟨before, after⟩, hfind, rfl⟩ := Option.map_eq_some_iff.1 h
  simp only [List.findSome?_cons, List.findSome?_nil] at hfind
  rw [attributeReaders]
  cases hword : Text.cutAtLast? ['~', '='] value with
  | some cut =>
    rw [hword] at hfind
    cases hfind
    exact readSuffixes_cons_of_error
      (readOperator_quotedTest_eq_error htag hname hclose (by decide) hword)
  | none =>
    rw [readSuffixes_cons_of_none (readOperator_quotedTest_eq_none htag hname hclose
      (by decide) (by decide) (by decide) hword)]
    cases hdash : Text.cutAtLast? ['|', '='] value with
    | some cut =>
      rw [hword, hdash] at hfind
      cases hfind
      exact readSuffixes_cons_of_error
        (readOperator_quotedTest_eq_error htag hname hclose (by decide) hdash)
    | none =>
      rw [readSuffixes_cons_of_none (readOperator_quotedTest_eq_none htag hname hclose
        (by decide) (by decide) (by decide) hdash)]
      cases hequals : Text.cutAtLast? ['='] value with
      | some cut =>
        rw [hword, hdash, hequals] at hfind
        cases hfind
        exact readSuffixes_cons_of_error
          (readOperator_quotedTest_eq_error htag hname hclose (by decide) hequals)
      | none =>
        rw [hword, hdash, hequals] at hfind
        cases hfind

/-- Without an operator in the value the token is a written form of the test. -/
theorem written_quotedTest (htag : Text.isIdent tag = true) (hname : Text.isIdent name = true)
    (hclose : ']' ∉ value) (hequals : '=' ∉ value) :
    Written (quotedTest tag name value) ⟨some tag, [.equals name value]⟩ := by
  have htest : Test (quotedInner name value) (.equals name value) :=
    .equals hname (.quoted rfl) (by simp [hequals])
  have hcore : Core (quotedTest tag name value) (some tag) [.equals name value] :=
    .test htag (close_notMem_quotedInner hname hclose) htest
  have hclass : Suffix '.' .hasClass [] [] := .absent
  have hid : Suffix '#' .id [] [] := .absent
  simpa using Written.mk hcore hclass hid (by simp [quotedTest])

end Compound

namespace Selector

variable {tag name value before : Text}

open Compound

theorem combinator?_quotedTest (tag name value : Text) :
    combinator? (quotedTest tag name value) = none := by
  have hmem : '[' ∈ quotedTest tag name value := by simp [quotedTest]
  rw [combinator?]
  split_ifs with hchild hadjacent
  · simp [hchild] at hmem
  · simp [hadjacent] at hmem
  · rfl

/-- A selector of one word is at fault if the word is. -/
theorem ofWords_singleton_eq_error {word : Text} {e : SelectorError}
    (hword : combinator? word = none) (h : Compound.ofToken word = .error e) :
    ofWords [word] = .error e := by
  simp only [ofWords, hword, h]

/-- The token is one word. -/
theorem words_quotedTest (htag : Text.isIdent tag = true) (hname : Text.isIdent name = true)
    (hblank : ∀ c ∈ value, Text.isBlank c = false) :
    Text.words (quotedTest tag name value) = [quotedTest tag name value] := by
  refine Text.words_eq_singleton (by simp [quotedTest]) ?_
  intro c hc
  simp only [quotedTest, quotedInner, List.mem_append, List.mem_cons, List.not_mem_nil,
    or_false] at hc
  rcases hc with hc | rfl | (hc | rfl | rfl | hc | rfl) | rfl
  · exact Text.isBlank_eq_false_of_isIdent htag c hc
  · rfl
  · exact Text.isBlank_eq_false_of_isIdent hname c hc
  · rfl
  · rfl
  · exact hblank c hc
  · rfl
  · rfl

theorem parse_quotedTest_of_notMem (htag : Text.isIdent tag = true)
    (hname : Text.isIdent name = true) (hblank : ∀ c ∈ value, Text.isBlank c = false)
    (hclose : ']' ∉ value) (hequals : '=' ∉ value) :
    parse (quotedTest tag name value) = .ok ⟨⟨some tag, [.equals name value]⟩, []⟩ := by
  rw [parse, words_quotedTest htag hname hblank, ofWords_eq_ok_iff (by simp [quotedTest])]
  exact .mk (written_quotedTest htag hname hclose hequals) .nil

theorem parse_quotedTest_eq_error (htag : Text.isIdent tag = true)
    (hname : Text.isIdent name = true) (hblank : ∀ c ∈ value, Text.isBlank c = false)
    (hclose : ']' ∉ value) (h : beforeOperator? value = some before) :
    parse (quotedTest tag name value) =
      .error (operatorFault (quotedTest tag name value) before) := by
  rw [parse, words_quotedTest htag hname hblank]
  exact ofWords_singleton_eq_error (combinator?_quotedTest tag name value)
    (ofToken_quotedTest_eq_error htag hname hclose
      (readSuffixes_quotedTest_eq_error htag hname hclose h))

/-- **A quoted value is read as it is written unless it holds a sign of equality.**  Then the
selector is malformed, or it is said to be unsupported if `^`, `$` or `*` stands in front of
the operator that is found in the value. -/
theorem parse_quotedTest (htag : Text.isIdent tag = true) (hname : Text.isIdent name = true)
    (hblank : ∀ c ∈ value, Text.isBlank c = false) (hclose : ']' ∉ value) :
    (∀ s, parse (quotedTest tag name value) = .ok s ↔
      '=' ∉ value ∧ s = ⟨⟨some tag, [.equals name value]⟩, []⟩) ∧
    ('=' ∈ value → ∃ before, beforeOperator? value = some before ∧
      parse (quotedTest tag name value) =
        .error (operatorFault (quotedTest tag name value) before)) := by
  by_cases hequals : '=' ∈ value
  · obtain ⟨before, hbefore⟩ := Option.ne_none_iff_exists'.1
      (mt beforeOperator?_eq_none_iff.1 (not_not.2 hequals))
    have herror := parse_quotedTest_eq_error htag hname hblank hclose hbefore
    refine ⟨?_, fun _ => ⟨before, hbefore, herror⟩⟩
    simp [herror, hequals]
  · have hread := parse_quotedTest_of_notMem htag hname hblank hclose hequals
    refine ⟨?_, fun h => absurd h hequals⟩
    simp [hread, hequals, eq_comm]

/-- A value with the marks of words, dashes, ids, classes, pseudo-classes and tests. -/
def markedValue : Text := "x~y|z#a.b:c[d".toList

/-- The marks are read as parts of the value. -/
theorem parse_quotedTest_marked :
    Text.isIdent "a".toList = true ∧ Text.isIdent "href".toList = true ∧
      (∀ c ∈ markedValue, Text.isBlank c = false) ∧ ']' ∉ markedValue ∧
      quotedTest "a".toList "href".toList markedValue
        = "a[href=\"x~y|z#a.b:c[d\"]".toList ∧
      parse (quotedTest "a".toList "href".toList markedValue)
        = .ok ⟨⟨some "a".toList, [.equals "href".toList markedValue]⟩, []⟩ := by
  have htag : Text.isIdent "a".toList = true := by decide +kernel
  have hname : Text.isIdent "href".toList = true := by decide +kernel
  have hall : markedValue.all (fun c => !Text.isBlank c) = true := by decide +kernel
  have hblank : ∀ c ∈ markedValue, Text.isBlank c = false := by simpa using hall
  have hclose : ']' ∉ markedValue := by decide +kernel
  have htoken : quotedTest "a".toList "href".toList markedValue
      = "a[href=\"x~y|z#a.b:c[d\"]".toList := by decide +kernel
  have hread := (parse_quotedTest htag hname hblank hclose).1
  exact ⟨htag, hname, hblank, hclose, htoken, (hread _).2 ⟨by decide +kernel, rfl⟩⟩

/-- A sign of equality in the value makes the selector malformed. -/
theorem parse_quotedTest_query :
    quotedTest "a".toList "href".toList "x=y".toList = "a[href=\"x=y\"]".toList ∧
      parse "a[href=\"x=y\"]".toList = .error (.malformed "a[href=\"x=y\"]".toList) :=
  ⟨by decide +kernel, by decide +kernel⟩

end Selector

end StyleInline
