import Mathlib.Algebra.GroupWithZero.Nat
import StyleInline.Proofs.Text.Cut
import StyleInline.Proofs.Text.Words
import StyleInline.Selector.Parser
import StyleInline.Stylesheet.Ranking

/-!
# Weight and words

A selector is read by its words, which any blanks divide, and weighed by the parts between its
spaces.  The weight of a part can be told from the words in it: a word alone counts by itself, a
part without a word counts 1, and of several words in one part only the mark of the first counts.
So a selector weighs what its words weigh together if there is one space between two of them, and
other blanks are not seen; but a second space, or a tab in place of the space, changes its weight.
Weights are words of 32 bits, so all sums are taken modulo `2 ^ 32`.

## Main definitions

* `Specificity.divided` — the words of a selector as its spaces divide them.
* `Specificity.partWeight` — the weight of the words in one part.

## Main results

* `Specificity.toNat_tokenWeight_trim` — the weight of a part can be told from its words.
* `RankedRule.rank_respelled` — spelling a selector anew in a ranking.
* `Specificity.weighsAsRead` — what the weight of a selector has to do with its words.
* `Specificity.ofSelector_ne_sum_words` — two spellings that weigh something else.
-/

namespace StyleInline

namespace Specificity

variable {selector other token : Text} {c mark : Char}

/-! ## Words and spaces -/

/-- The words of a selector as its spaces divide them. -/
def divided (selector : Text) : List (List Text) := (Text.splitOn ' ' selector).map Text.words

/-- One space, and perhaps other blanks, stand between two words, and no space around them. -/
def IsSpaced (selector : Text) : Prop := ∀ part ∈ divided selector, part.length = 1

instance (selector : Text) : Decidable (IsSpaced selector) :=
  inferInstanceAs (Decidable (∀ part ∈ divided selector, part.length = 1))

theorem flatten_divided (selector : Text) : (divided selector).flatten = Text.words selector := by
  rw [divided, ← List.flatMap_def, Text.flatMap_words_splitOn rfl]

/-- Single spaces divide the words from each other. -/
theorem divided_of_isSpaced (h : IsSpaced selector) :
    divided selector = (Text.words selector).map fun word => [word] := by
  rw [← flatten_divided]
  rw [IsSpaced] at h
  generalize divided selector = parts at h ⊢
  induction parts with
  | nil => rfl
  | cons part parts ih =>
    obtain ⟨hpart, hparts⟩ := List.forall_mem_cons.1 h
    obtain ⟨word, rfl⟩ := List.length_eq_one_iff.1 hpart
    rw [List.flatten_cons, List.map_append, ← ih hparts]
    rfl

/-! ## The weight of a part -/

/-- The weight of the words between two spaces. -/
def partWeight : List Text → Nat
  | [] => 1
  | [word] => (tokenWeight word).toNat
  | word :: _ :: _ =>
    if word.head? = some '#' then 100 else if word.head? = some '.' then 10 else 1

/-- A token with a blank in it is not made of two identifiers. -/
theorem isMarkedPair_eq_false (hmark : Text.isBlank mark = false) (hc : Text.isBlank c = true)
    (hmem : c ∈ token) : isMarkedPair mark token = false := by
  have hnot {part : Text} (hpart : c ∈ part) : Text.isIdent part = false := by
    rw [Bool.eq_false_iff]
    intro hident
    rw [Text.isBlank_eq_false_of_isIdent hident c hpart] at hc
    cases hc
  rw [isMarkedPair]
  cases hcut : Text.cut? mark token with
  | none => rfl
  | some parts =>
    obtain ⟨tag, name⟩ := parts
    obtain ⟨rfl, -⟩ := Text.cut?_eq_some_iff.1 hcut
    rw [List.mem_append, List.mem_cons] at hmem
    rcases hmem with htag | rfl | hname
    · simp [hnot htag]
    · rw [hmark] at hc
      cases hc
    · simp [hnot hname]

/-- The weight of a part can be told from its words. -/
theorem toNat_tokenWeight_trim (part : Text) :
    (tokenWeight (Text.trim part)).toNat = partWeight (Text.words part) := by
  rw [← Text.words_trim]
  by_cases hne : Text.trim part = []
  · rw [hne]
    rfl
  rcases Text.words_of_trim_eq_self (Text.trim_trim part) hne with
    hwords | ⟨word, blank, rest, next, later, htrim, hword, hblank, hwords⟩
  · rw [hwords, partWeight]
  · have hmem : blank ∈ Text.trim part := by simp [htrim]
    have hhead : (Text.trim part).head? = word.head? := by
      obtain ⟨d, word, rfl⟩ := List.exists_cons_of_ne_nil hword
      rw [htrim]
      rfl
    rw [hwords, partWeight, tokenWeight, isMarkedPair_eq_false rfl hblank hmem,
      isMarkedPair_eq_false rfl hblank hmem, hhead, if_neg Bool.false_ne_true,
      if_neg Bool.false_ne_true]
    split_ifs <;> rfl

/-- Weights are added up modulo `2 ^ 32`. -/
theorem toNat_foldl_add (weights : List UInt32) (start : UInt32) :
    (weights.foldl (· + ·) start).toNat
      = (start.toNat + (weights.map UInt32.toNat).sum) % 2 ^ 32 := by
  induction weights generalizing start with
  | nil => exact (Nat.mod_eq_of_lt start.toNat_lt).symm
  | cons weight weights ih =>
    rw [List.foldl_cons, ih, UInt32.toNat_add, Nat.mod_add_mod, List.map_cons, List.sum_cons,
      Nat.add_assoc]

/-- The weight of a selector is that of its parts, modulo `2 ^ 32`. -/
theorem toNat_ofSelector (selector : Text) :
    (ofSelector selector).toNat = ((divided selector).map partWeight).sum % 2 ^ 32 := by
  rw [ofSelector, toNat_foldl_add, divided, List.map_map, List.map_map, UInt32.toNat_zero,
    Nat.zero_add]
  simp only [toNat_tokenWeight_trim, Function.comp_def]

/-- Where spaces divide the words alike, the weight is the same. -/
theorem ofSelector_congr (h : divided other = divided selector) :
    ofSelector other = ofSelector selector := by
  refine UInt32.toNat.inj ?_
  rw [toNat_ofSelector, toNat_ofSelector, h]

end Specificity

/-! ## Ranking -/

namespace RankedRule

variable {f : RankedRule → RankedRule} {selector other : Text}

/-- The rule with another spelling of one selector. -/
def respelled (selector other : Text) (rule : RankedRule) : RankedRule :=
  if rule.selector = selector then { rule with selector := other } else rule

@[simp] theorem specificity_respelled (selector other : Text) (rule : RankedRule) :
    (respelled selector other rule).specificity = rule.specificity := by
  rw [respelled]
  split <;> rfl

/-- Where weights stay the same, rules are sorted alike. -/
theorem sortByWeight_map (hf : ∀ rule, (f rule).specificity = rule.specificity)
    (rules : List RankedRule) : sortByWeight (rules.map f) = (sortByWeight rules).map f := by
  have hplace (rule : RankedRule) (rules : List RankedRule) :
      place (f rule) (rules.map f) = (place rule rules).map f := by
    induction rules with
    | nil => rfl
    | cons next later ih =>
      rw [List.map_cons, place, place, hf, hf, ih]
      split <;> rfl
  induction rules with
  | nil => rfl
  | cons rule rules ih =>
    rw [List.map_cons, sortByWeight, List.foldr_cons, ← sortByWeight, ih, hplace]
    rfl

/-- A selector that is spelled anew, without a change of its weight, keeps its rank. -/
theorem rank_respelled (hweight : Specificity.ofSelector other = Specificity.ofSelector selector)
    {before after : List (Text × Declarations)} (hother : ∀ entry ∈ before ++ after,
      entry.1 ≠ selector) (block : Declarations) :
    rank (before ++ (other, block) :: after) =
      (rank (before ++ (selector, block) :: after)).map (respelled selector other) := by
  have hsame {entries : List (Text × Declarations)} (h : ∀ entry ∈ entries, entry.1 ≠ selector) :
      (entries.map ofEntry).map (respelled selector other) = entries.map ofEntry := by
    rw [List.map_map]
    exact List.map_congr_left fun entry hentry => if_neg (h entry hentry)
  have hentry : respelled selector other (ofEntry (selector, block)) = ofEntry (other, block) := by
    rw [respelled, if_pos (selector_ofEntry _), ofEntry, ofEntry, hweight]
  obtain ⟨hbefore, hafter⟩ := List.forall_mem_append.1 hother
  rw [rank, rank, ← sortByWeight_map (specificity_respelled selector other), List.map_append,
    List.map_append, List.map_append, List.map_cons, List.map_cons, List.map_cons, hsame hbefore,
    hsame hafter, hentry]

end RankedRule

namespace Specificity

/-! ## Selectors -/

/-- What the weight of a selector has to do with its words. -/
structure WeighsAsRead (selector : Text) : Prop where
  /-- Reading looks at the words, wherever the spaces are. -/
  parse_eq : Selector.parse selector = Selector.ofWords (divided selector).flatten
  /-- The weight is that of the words between the spaces, modulo `2 ^ 32`. -/
  weight_eq : (ofSelector selector).toNat = ((divided selector).map partWeight).sum % 2 ^ 32
  /-- With one space between words it is the weight of the words that are read. -/
  weight_eq_sum_words : IsSpaced selector → (ofSelector selector).toNat =
    ((Text.words selector).map fun word => (tokenWeight word).toNat).sum % 2 ^ 32
  /-- Two such spellings have the same words between the same spaces. -/
  divided_eq_of_isSpaced : IsSpaced selector → ∀ other, IsSpaced other →
    Text.words other = Text.words selector → divided other = divided selector
  /-- A spelling with the same words between the same spaces is read and weighed alike. -/
  alike : ∀ other, divided other = divided selector →
    Selector.parse other = Selector.parse selector ∧ ofSelector other = ofSelector selector
  /-- It has the same rank among the selectors of a sheet. -/
  rank_eq : ∀ other, divided other = divided selector → ∀ before after block,
    (∀ entry ∈ before ++ after, entry.1 ≠ selector) →
      RankedRule.rank (before ++ (other, block) :: after) =
        (RankedRule.rank (before ++ (selector, block) :: after)).map
          (RankedRule.respelled selector other)

/-- **A selector weighs what its words weigh**, as its spaces divide them. -/
theorem weighsAsRead (selector : Text) : WeighsAsRead selector where
  parse_eq := by rw [flatten_divided, Selector.parse]
  weight_eq := toNat_ofSelector selector
  weight_eq_sum_words h := by
    rw [toNat_ofSelector, divided_of_isSpaced h, List.map_map]
    rfl
  divided_eq_of_isSpaced h other hother hwords := by
    rw [divided_of_isSpaced h, divided_of_isSpaced hother, hwords]
  alike other h := by
    refine ⟨?_, ofSelector_congr h⟩
    rw [Selector.parse, Selector.parse, ← flatten_divided, ← flatten_divided, h]
  rank_eq other h before after block hentries :=
    RankedRule.rank_respelled (ofSelector_congr h) hentries block

/-- A second space counts as a word more, and with a tab in place of the space two words count
as one, although both spellings are read as `ul li` is. -/
theorem ofSelector_ne_sum_words :
    let selector := "ul li".toList
    let wide := "ul  li".toList
    let tabbed := "ul\tli".toList
    (Selector.parse selector).isOk = true ∧ Selector.parse wide = Selector.parse selector ∧
      Selector.parse tabbed = Selector.parse selector ∧
      Text.words wide = Text.words selector ∧ Text.words tabbed = Text.words selector ∧
      ((Text.words selector).map fun word => (tokenWeight word).toNat).sum = 2 ∧
      ofSelector selector = 2 ∧ ofSelector wide = 3 ∧ ofSelector tabbed = 1 := by
  decide +kernel

end Specificity

end StyleInline
