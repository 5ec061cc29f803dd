import StyleInline.Proofs.Selector.AttributeTest

/-!
# Reading tokens

A token is read as a compound exactly when the grammar says so.  The readers of ids and
classes look at it first, so it has to be seen that they take nothing from an attribute
test: whatever mark stands in its value, the closing bracket stands behind it.

## Main results

* `Compound.readCore_eq_ok_iff` — the reading of what stands before class and id.
* `Compound.readSuffixes_cutIdent?_iff` — the readers of ids and classes.
* `Compound.ofToken_eq_ok_iff` — the reading of a token.
-/

namespace StyleInline.Compound

variable {token inner tag before name residue text rest : Text} {p : Predicate}
  {found predicates : List Predicate} {mark c : Char} {operator : Text}
  {test : Text → Text → Predicate} {compound : Compound}

/-! ## The core -/

theorem pseudoClass?_eq_some_iff :
    pseudoClass? name = some predicates ↔ Pseudo name predicates := by
  constructor
  · intro h
    rw [pseudoClass?] at h
    split at h
    · next hname =>
      cases h
      exact hname ▸ .firstChild
    · split at h
      · next hname =>
        cases h
        exact hname ▸ .lastChild
      · obtain ⟨hname, ⟨⟩⟩ := Option.ite_none_right_eq_some.1 h
        simp only [Bool.or_eq_true, decide_eq_true_eq, or_assoc] at hname
        exact .stateless (by simpa only [List.mem_cons, List.not_mem_nil, or_false] using hname)
  · intro h
    cases h with
    | firstChild | lastChild => rfl
    | stateless h =>
      simp only [List.mem_cons, List.not_mem_nil, or_false] at h
      rcases h with rfl | rfl | rfl | rfl <;> rfl

/-- What the suffixes leave is read as a core without brackets. -/
theorem ofResidue_eq_ok_iff :
    ofResidue token residue predicates = .ok compound ↔
      ∃ tag more, Core residue tag more ∧ '[' ∉ residue ∧ compound = ⟨tag, predicates ++ more⟩ := by
  constructor
  · intro h
    rw [ofResidue] at h
    split at h
    · next tag pseudo hcut =>
      split at h
      · next htag =>
        split at h
        · next more hpseudo =>
          cases h
          obtain ⟨rfl, -⟩ := Text.cut?_eq_some_iff.1 hcut
          rw [pseudoClass?_eq_some_iff] at hpseudo
          refine ⟨some tag, more, .pseudo htag hpseudo, ?_, rfl⟩
          rw [List.mem_append, List.mem_cons]
          rintro (hbracket | hbracket | hbracket)
          · exact Text.notMem_of_isIdent htag (by decide) hbracket
          · cases hbracket
          · exact Text.notMem_of_isIdent hpseudo.isIdent (by decide) hbracket
        · cases h
      · cases h
    · split at h
      · next hblank =>
        cases h
        simp only [Bool.or_eq_true, List.isEmpty_iff, decide_eq_true_eq] at hblank
        rcases hblank with rfl | rfl
        · exact ⟨none, [], .blank, by simp, by simp⟩
        · exact ⟨none, [], .any, by decide, by simp⟩
      · split at h
        · next htag =>
          cases h
          exact ⟨some residue, [], .tag htag, Text.notMem_of_isIdent htag (by decide), by simp⟩
        · cases h
  · rintro ⟨tag, more, hcore, hbracket, rfl⟩
    cases hcore with
    | blank => simp [ofResidue, Text.cut?]
    | any => simp [ofResidue, Text.cut?]
    | tag htag =>
      have hcut : Text.cut? ':' residue = none :=
        Text.cut?_eq_none_iff.2 (Text.notMem_of_isIdent htag (by decide))
      have hstar : residue ≠ ['*'] := by
        rintro rfl
        exact absurd htag (by decide)
      simp [ofResidue, hcut, htag, hstar, Text.ne_nil_of_isIdent htag]
    | @pseudo tag pseudo _ htag hpseudo =>
      have hcut : Text.cut? ':' (tag ++ ':' :: pseudo) = some (tag, pseudo) :=
        Text.cut?_eq_some_iff.2 ⟨rfl, Text.notMem_of_isIdent htag (by decide)⟩
      simp [ofResidue, hcut, htag, pseudoClass?_eq_some_iff.2 hpseudo]
    | test => simp at hbracket

/-- The readers of attribute tests and the reading of what they leave accept the cores. -/
theorem readCore_eq_ok_iff {core : Text} :
    (∃ residue more, readSuffixes attributeReaders core = .ok (residue, more) ∧
        ofResidue token residue (predicates ++ more) = .ok compound) ↔
      ∃ tag more, Core core tag more ∧ compound = ⟨tag, predicates ++ more⟩ := by
  have hident {tag : Text} {more : List Predicate} (htag : Text.isIdent tag = true) :
      ofResidue token tag (predicates ++ more) = .ok ⟨some tag, predicates ++ more⟩ :=
    ofResidue_eq_ok_iff.2
      ⟨some tag, [], .tag htag, Text.notMem_of_isIdent htag (by decide), by simp⟩
  constructor
  · rintro ⟨residue, more, hread, hresidue⟩
    cases hcut : cutBrackets? core with
    | none =>
      rw [readSuffixes_attributeReaders_of_none hcut] at hread
      cases hread
      rw [List.append_nil] at hresidue
      obtain ⟨tag, more, hcore, -, rfl⟩ := ofResidue_eq_ok_iff.1 hresidue
      exact ⟨tag, more, hcore, rfl⟩
    | some cut =>
      obtain ⟨tag, inner⟩ := cut
      obtain ⟨rfl, htag, -, hinner⟩ := cutBrackets?_eq_some_iff.1 hcut
      obtain ⟨rfl, p, rfl, htest⟩ := test_of_readSuffixes hcut hread
      rw [hident htag] at hresidue
      cases hresidue
      exact ⟨_, _, .test htag hinner htest, rfl⟩
  · rintro ⟨tag, more, hcore, rfl⟩
    by_cases hbracket : '[' ∈ core
    · obtain ⟨name, inner, p, htag, hinner, htest, rfl, rfl, rfl⟩ :=
        hcore.exists_test_of_mem (by decide) (by decide) (by decide) hbracket
      have hcut : cutBrackets? (name ++ '[' :: (inner ++ [']'])) = some (name, inner) :=
        cutBrackets?_eq_some_iff.2 ⟨rfl, htag, htest.ne_nil, hinner⟩
      exact ⟨name, [p], readSuffixes_of_test hcut htest, hident htag⟩
    · have hread : readSuffixes attributeReaders core = .ok (core, []) :=
        readSuffixes_attributeReaders_of_none (cutBrackets?_eq_none_of_notMem hbracket)
      refine ⟨core, [], hread, ofResidue_eq_ok_iff.2 ⟨tag, more, hcore, hbracket, ?_⟩⟩
      rw [List.append_nil]

/-! ## Classes and ids -/

/-- An identifier is cut off at a mark when it stands behind it. -/
theorem cutIdent?_eq_some_iff (hmark : Text.isIdentChar mark = false) :
    cutIdent? mark token = some (before, name) ↔
      token = before ++ mark :: name ∧ Text.isIdent name = true := by
  rw [cutIdent?]
  constructor
  · intro h
    split at h
    · next before' name' hcut =>
      obtain ⟨hname, ⟨⟩⟩ := Option.ite_none_right_eq_some.1 h
      exact ⟨(Text.cutLast?_eq_some_iff.1 hcut).1, hname⟩
    · cases h
  · rintro ⟨rfl, hname⟩
    have hcut : Text.cutLast? mark (before ++ mark :: name) = some (before, name) :=
      Text.cutLast?_eq_some_iff.2 ⟨rfl, Text.notMem_of_isIdent hname hmark⟩
    simp [hcut, hname]

/-- Without the mark nothing is cut off. -/
theorem cutIdent?_eq_none_of_notMem (h : mark ∉ token) : cutIdent? mark token = none := by
  rw [cutIdent?, Text.cutLast?_eq_none_iff.2 h]

/-- Nothing is cut off where something that belongs to no identifier stands behind all
marks. -/
theorem cutIdent?_append_eq_none (hmark : Text.isIdentChar mark = false)
    (hc : Text.isIdentChar c = false) (hmem : c ∈ rest) (hrest : mark ∉ rest) :
    cutIdent? mark (before ++ rest) = none := by
  rw [Option.eq_none_iff_forall_ne_some]
  rintro ⟨before', name⟩ hcut
  obtain ⟨htoken, hname⟩ := (cutIdent?_eq_some_iff hmark).1 hcut
  rcases List.append_eq_append_iff.1 htoken with ⟨between, -, hbetween⟩ | ⟨between, -, hbetween⟩
  · exact hrest (by simp [hbetween])
  · cases between with
    | nil =>
      rw [List.nil_append] at hbetween
      exact hrest (hbetween ▸ List.mem_cons_self)
    | cons b between =>
      rw [List.cons_append, List.cons.injEq] at hbetween
      exact Text.notMem_of_isIdent hname hc (by simp [hbetween.2, hmem])

/-- The readers of ids and classes accept a suffix, and pass on what has none. -/
theorem readSuffixes_cutIdent?_iff (hmark : Text.isIdentChar mark = false) {reader : Reader}
    {later : List Reader} {test : Text → Predicate}
    (hreader : ∀ token, reader token =
      .ok ((cutIdent? mark token).map fun (before, name) => (before, test name))) :
    readSuffixes (reader :: later) token = .ok (residue, found) ↔
      ∃ before suffix ps more, token = before ++ suffix ∧ Suffix mark test suffix ps ∧
        (suffix = [] → cutIdent? mark before = none) ∧
        readSuffixes later before = .ok (residue, more) ∧ found = ps ++ more := by
  rw [readSuffixes_cons_iff]
  simp only [hreader, Except.ok.injEq, Option.map_eq_none_iff, Option.map_eq_some_iff]
  constructor
  · rintro (⟨before, p, more, ⟨⟨before', name⟩, hcut, ⟨⟩⟩, hlater, rfl⟩ | ⟨hnone, hlater⟩)
    · obtain ⟨rfl, hname⟩ := (cutIdent?_eq_some_iff hmark).1 hcut
      exact ⟨before', mark :: name, _, more, rfl, .present hname, by simp, hlater, rfl⟩
    · exact ⟨token, [], [], found, by simp, .absent, fun _ => hnone, hlater, rfl⟩
  · rintro ⟨before, suffix, ps, more, rfl, hsuffix, hnone, hlater, rfl⟩
    cases hsuffix with
    | absent => exact .inr (by simpa using ⟨hnone rfl, hlater⟩)
    | @present name hname =>
      refine .inl ⟨before, _, more, ⟨(before, name), ?_, rfl⟩, hlater, rfl⟩
      exact (cutIdent?_eq_some_iff hmark).2 ⟨rfl, hname⟩

/-- A core has no class and no id. -/
theorem Core.cutIdent?_eq_none {core : Text} {tag : Option Text} {more : List Predicate}
    (h : Core core tag more) (hmark : Text.isIdentChar mark = false) (hcolon : mark ≠ ':')
    (hstar : mark ≠ '*') (hbracket : mark ≠ ']') : cutIdent? mark core = none := by
  by_cases hmem : mark ∈ core
  · obtain ⟨name, inner, p, -, -, -, rfl, -, -⟩ := h.exists_test_of_mem hmark hcolon hstar hmem
    have hcore : name ++ '[' :: (inner ++ [']']) = (name ++ '[' :: inner) ++ [']'] := by simp
    rw [hcore]
    exact cutIdent?_append_eq_none hmark (show Text.isIdentChar ']' = false by decide) (by simp)
      (by simpa using hbracket)
  · exact cutIdent?_eq_none_of_notMem hmem

/-! ## Tildes -/

/-- Without a tilde there is none outside brackets. -/
theorem hasOuterTilde_of_notMem {depth : Nat} (h : '~' ∉ text) :
    hasOuterTilde depth text = false := by
  induction text generalizing depth with
  | nil => rfl
  | cons c text ih =>
    rw [List.mem_cons, not_or] at h
    simp [hasOuterTilde, ih h.2, Ne.symm h.1]

/-- What holds neither brackets nor tildes does not matter. -/
theorem hasOuterTilde_append {depth : Nat} (h : ∀ c ∈ before, c ≠ '[' ∧ c ≠ ']' ∧ c ≠ '~') :
    hasOuterTilde depth (before ++ text) = hasOuterTilde depth text := by
  induction before with
  | nil => rfl
  | cons c before ih =>
    obtain ⟨hopen, hclose, htilde⟩ := h c List.mem_cons_self
    simp [hasOuterTilde, hopen, hclose, htilde, ih fun d hd => h d (List.mem_cons_of_mem _ hd)]

/-- Between brackets tildes do not count; opening brackets there are never closed, which
does no harm. -/
theorem hasOuterTilde_between {depth : Nat} (hinner : ']' ∉ inner) (hrest : '~' ∉ rest) :
    hasOuterTilde (depth + 1) (inner ++ ']' :: rest) = false := by
  induction inner generalizing depth with
  | nil => simp [hasOuterTilde, hasOuterTilde_of_notMem hrest]
  | cons c inner ih =>
    rw [List.mem_cons, not_or] at hinner
    by_cases hopen : c = '['
    · simp [hasOuterTilde, hopen, ih hinner.2]
    · simp [hasOuterTilde, hopen, Ne.symm hinner.1, ih hinner.2]

/-- No tilde stands outside the brackets of an attribute test. -/
theorem hasOuterTilde_brackets (htag : Text.isIdent tag = true) (hinner : ']' ∉ inner)
    (hrest : '~' ∉ rest) : hasOuterTilde 0 (tag ++ '[' :: (inner ++ ']' :: rest)) = false := by
  have hbefore : ∀ c ∈ tag, c ≠ '[' ∧ c ≠ ']' ∧ c ≠ '~' := by
    intro c hc
    refine ⟨?_, ?_, ?_⟩ <;> rintro rfl <;> exact Text.notMem_of_isIdent htag (by decide) hc
  rw [hasOuterTilde_append hbefore, hasOuterTilde, if_pos rfl]
  exact hasOuterTilde_between hinner hrest

/-- In a written compound no tilde stands outside brackets. -/
theorem Written.hasOuterTilde_eq_false (h : Written token compound) :
    hasOuterTilde 0 token = false := by
  obtain ⟨hcore, hclass, hid, -⟩ := h
  rename_i core classText idText tag more classes ids
  have hclass : '~' ∉ classText := hclass.notMem (by decide) (by decide)
  have hid : '~' ∉ idText := hid.notMem (by decide) (by decide)
  by_cases hmem : '~' ∈ core
  · obtain ⟨name, inner, p, hname, hinner, -, rfl, -, -⟩ :=
      hcore.exists_test_of_mem (by decide) (by decide) (by decide) hmem
    have htoken : name ++ '[' :: (inner ++ [']']) ++ classText ++ idText
        = name ++ '[' :: (inner ++ ']' :: (classText ++ idText)) := by simp
    rw [htoken]
    exact hasOuterTilde_brackets hname hinner (by simp [hclass, hid])
  · exact hasOuterTilde_of_notMem (by simp [hmem, hclass, hid])

/-! ## Compounds -/

/-- A compound is read when no tilde stands outside brackets, its suffixes are read, and
what they leave is. -/
theorem ofToken_eq_ok_iff_readSuffixes :
    ofToken token = .ok compound ↔ hasOuterTilde 0 token = false ∧
      ∃ residue predicates, readSuffixes readers token = .ok (residue, predicates) ∧
        ofResidue token residue predicates = .ok compound := by
  rw [ofToken]
  cases hasOuterTilde 0 token with
  | true => simp
  | false => rcases readSuffixes readers token with e | ⟨residue, predicates⟩ <;> simp

/-- **A token is read as a compound exactly when it is a written form of it.** -/
theorem ofToken_eq_ok_iff (hne : token ≠ []) :
    ofToken token = .ok compound ↔ Written token compound := by
  have hidReader : ∀ token, readId token =
      .ok ((cutIdent? '#' token).map fun (before, name) => (before, .id name)) := fun _ => rfl
  have hclassReader : ∀ token, readClass token =
      .ok ((cutIdent? '.' token).map fun (before, name) => (before, .hasClass name)) := fun _ => rfl
  rw [ofToken_eq_ok_iff_readSuffixes, readers_eq]
  constructor
  · rintro ⟨-, residue, predicates, hsuffixes, hresidue⟩
    obtain ⟨before, idText, ids, found, rfl, hid, -, hlater, rfl⟩ :=
      (readSuffixes_cutIdent?_iff (by decide) hidReader).1 hsuffixes
    obtain ⟨core, classText, classes, more, rfl, hclass, -, hattributes, rfl⟩ :=
      (readSuffixes_cutIdent?_iff (by decide) hclassReader).1 hlater
    rw [← List.append_assoc] at hresidue
    obtain ⟨tag, more, hcore, rfl⟩ := readCore_eq_ok_iff.1 ⟨residue, more, hattributes, hresidue⟩
    exact .mk hcore hclass hid hne
  · intro h
    refine ⟨h.hasOuterTilde_eq_false, ?_⟩
    obtain ⟨hcore, hclass, hid, -⟩ := h
    rename_i core classText idText tag more classes ids
    have hread : ∃ residue found, readSuffixes attributeReaders core = .ok (residue, found) ∧
        ofResidue (core ++ classText ++ idText) residue (ids ++ classes ++ found)
          = .ok ⟨tag, ids ++ classes ++ more⟩ := readCore_eq_ok_iff.2 ⟨tag, more, hcore, rfl⟩
    obtain ⟨residue, found, hfound, hresidue⟩ := hread
    have hnoClass : cutIdent? '.' core = none :=
      hcore.cutIdent?_eq_none (by decide) (by decide) (by decide) (by decide)
    have hnoId : cutIdent? '#' (core ++ classText) = none := by
      cases hclass with
      | absent =>
        rw [List.append_nil]
        exact hcore.cutIdent?_eq_none (by decide) (by decide) (by decide) (by decide)
      | present hname =>
        refine cutIdent?_append_eq_none (by decide) (show Text.isIdentChar '.' = false by decide)
          List.mem_cons_self ?_
        simpa using Text.notMem_of_isIdent hname (by decide)
    have hclasses : readSuffixes (readClass :: attributeReaders) (core ++ classText)
        = .ok (residue, classes ++ found) :=
      (readSuffixes_cutIdent?_iff (by decide) hclassReader).2
        ⟨core, classText, classes, found, rfl, hclass, fun _ => hnoClass, hfound, rfl⟩
    refine ⟨residue, ids ++ (classes ++ found), ?_, by rw [← List.append_assoc]; exact hresidue⟩
    exact (readSuffixes_cutIdent?_iff (by decide) hidReader).2
      ⟨core ++ classText, idText, ids, classes ++ found, rfl, hid, fun _ => hnoId, hclasses, rfl⟩

/-- The value of a test with a dash may end in the operator for words. -/
example : ofToken "a[b|=c~=].d#e".toList
    = .ok ⟨some ['a'], [.id ['e'], .hasClass ['d'], .dash ['b'] ['c', '~', '=']]⟩ := by
  decide +kernel

end StyleInline.Compound
