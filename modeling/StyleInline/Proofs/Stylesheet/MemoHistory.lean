import Mathlib.Data.List.TakeWhile
import StyleInline.Proofs.Stylesheet.Remembered

/-!
# Histories of a memo

A memo is asked for selectors, one by one or for the sheets that list them.  Whatever it has been
asked before, it answers what reading the selectors anew would answer, and it holds the
selectors that have been read so far and nothing else.  Requests that fail, also those that
fail half-way through a sheet, leave it with what was read before the failure.

## Main definitions

* `SelectorMemo.Request`, `SelectorMemo.run` — what a memo is asked for, and what it answers to
  a history of requests.
* `SelectorMemo.Holds` — what a memo holds, told from the texts that it has been given.

## Main results

* `SelectorMemo.Holds.parse`, `SelectorMemo.Holds.ofSheetWith` — one request.
* `SelectorMemo.refines_parse` — a memo makes no difference, after any history.
-/

namespace StyleInline.SelectorMemo

variable {memo : SelectorMemo} {given : List Text} {text : Text} {sheet : Stylesheet}

/-! ## Requests -/

/-- What a memo is asked for. -/
inductive Request where
  /-- One selector. -/
  | selector (text : Text)
  /-- The selectors of a sheet, in the order of ranking. -/
  | sheet (sheet : Stylesheet)

/-- What a request is answered. -/
inductive Answer where
  /-- The selector that a text reads as, or why it is none. -/
  | selector (outcome : Except SelectorError SelectorGroup)
  /-- The sheet with its selectors read, or why one is none. -/
  | sheet (outcome : Except SelectorError CompiledSheet)

/-- The answer to a request, and the memo after it. -/
def answer (memo : SelectorMemo) : Request → Answer × SelectorMemo
  | .selector text => (.selector (memo.parse text).1, (memo.parse text).2)
  | .sheet sheet =>
    (.sheet (CompiledSheet.ofSheetWith memo sheet).1, (CompiledSheet.ofSheetWith memo sheet).2)

/-- The answers to a history of requests, and the memo after it. -/
def run (memo : SelectorMemo) : List Request → List Answer × SelectorMemo
  | [] => ([], memo)
  | request :: later =>
    let first := memo.answer request
    let rest := run first.2 later
    (first.1 :: rest.1, rest.2)

/-- The answer to a request when everything is read anew. -/
def Request.plain : Request → Answer
  | .selector text => .selector (SelectorGroup.parse text)
  | .sheet sheet => .sheet (CompiledSheet.ofSheet sheet)

/-- The texts that a request gives to a memo.  Those of a sheet end in front of the first that
is no selector. -/
def Request.texts : Request → List Text
  | .selector text => [text]
  | .sheet sheet => readable (sheet.rules.map (·.selector))

/-! ## What a memo holds -/

/-- Texts that are selectors. -/
def selectors (texts : List Text) : List Text :=
  texts.filter fun text => (SelectorGroup.parse text).isOk

/-- A memo that has been given texts holds those that are selectors, each once and as it
reads. -/
structure Holds (memo : SelectorMemo) (given : List Text) : Prop where
  keys_eq : memo.keys = (selectors given).eraseDups
  get?_eq : ∀ text, memo.get? text =
    if text ∈ given then (SelectorGroup.parse text).toOption else none

theorem mem_selectors_iff :
    text ∈ selectors given ↔ text ∈ given ∧ ∃ group, SelectorGroup.parse text = .ok group := by
  rw [selectors, List.mem_filter, isOk_iff]

/-- A memo is told by its keys when it is sound. -/
theorem holds_iff : memo.Holds given ↔ memo.Sound ∧ memo.keys = (selectors given).eraseDups := by
  constructor
  · refine fun h => ⟨fun text group hget => ?_, h.keys_eq⟩
    rw [h.get?_eq] at hget
    split_ifs at hget
    cases hparse : SelectorGroup.parse text with
    | error e => simp [hparse, Except.toOption] at hget
    | ok kept => simpa [hparse, Except.toOption] using hget
  · rintro ⟨hsound, hkeys⟩
    refine ⟨hkeys, fun text => ?_⟩
    cases hget : memo.get? text with
    | some group =>
      have hmem : text ∈ selectors given := by
        rw [← List.mem_eraseDups, ← hkeys]
        exact OrderedMap.mem_keys_of_get? hget
      rw [if_pos (mem_selectors_iff.1 hmem).1, hsound text group hget]
      rfl
    | none =>
      have hmem : text ∉ selectors given := by
        rw [← List.mem_eraseDups, ← hkeys]
        exact OrderedMap.get?_eq_none_iff.1 hget
      split_ifs with hgiven
      · cases hparse : SelectorGroup.parse text with
        | error e => rfl
        | ok group => exact absurd (mem_selectors_iff.2 ⟨hgiven, group, hparse⟩) hmem
      · rfl

theorem holds_empty : Holds .empty [] :=
  holds_iff.2 ⟨sound_empty, rfl⟩

/-- What is in front of the first text that is no selector are selectors. -/
theorem selectors_readable (texts : List Text) : selectors (readable texts) = readable texts :=
  List.filter_eq_self.2 fun _ => List.mem_takeWhile_imp

namespace Holds

variable (h : memo.Holds given)
include h

theorem sound : memo.Sound := (holds_iff.1 h).1

/-- Asked for a selector, a memo answers what the text reads as, and holds it from then on. -/
theorem parse (text : Text) : (memo.parse text).1 = SelectorGroup.parse text ∧
    (memo.parse text).2.Holds (given ++ [text]) := by
  refine ⟨fst_parse h.sound text, holds_iff.2 ⟨sound_snd_parse h.sound text, ?_⟩⟩
  have hselectors : selectors (given ++ [text]) = selectors given ++ selectors [text] :=
    List.filter_append given [text]
  cases hparse : SelectorGroup.parse text with
  | error e =>
    have hnone : selectors [text] = [] := by simp [selectors, hparse]
    rw [snd_parse_of_error memo hparse, hselectors, hnone, List.append_nil, h.keys_eq]
  | ok group =>
    have hone : selectors [text] = [text] := by simp [selectors, hparse]
    rw [hselectors, hone]
    exact keys_snd_parse_of_ok hparse h.keys_eq

/-- Asked for a sheet, it answers what the sheet is compiled to, and holds the selectors of the
sheet from then on, up to the first that fails. -/
theorem ofSheetWith (sheet : Stylesheet) :
    (CompiledSheet.ofSheetWith memo sheet).1 = CompiledSheet.ofSheet sheet ∧
      (CompiledSheet.ofSheetWith memo sheet).2.Holds
        (given ++ readable (sheet.rules.map (·.selector))) := by
  refine ⟨?_, holds_iff.2 ⟨CompiledSheet.sound_snd_compileRulesWith h.sound sheet.rules, ?_⟩⟩
  · rw [CompiledSheet.ofSheetWith, CompiledSheet.fst_compileRulesWith h.sound]
    rfl
  · rw [selectors, List.filter_append, ← selectors, ← selectors, selectors_readable]
    exact CompiledSheet.keys_snd_compileRulesWith h.sound h.keys_eq sheet.rules

theorem answer (request : Request) :
    (memo.answer request).1 = request.plain ∧
      (memo.answer request).2.Holds (given ++ request.texts) := by
  cases request with
  | selector text =>
    obtain ⟨hfst, hsnd⟩ := h.parse text
    exact ⟨congrArg Answer.selector hfst, hsnd⟩
  | sheet sheet =>
    obtain ⟨hfst, hsnd⟩ := h.ofSheetWith sheet
    exact ⟨congrArg Answer.sheet hfst, hsnd⟩

/-- What a memo holds after a history. -/
theorem run (requests : List Request) :
    (memo.run requests).1 = requests.map Request.plain ∧
      (memo.run requests).2.Holds (given ++ requests.flatMap Request.texts) := by
  -- On the requests; the texts given so far grow with each of them.
  induction requests generalizing memo given with
  | nil => exact ⟨rfl, by simpa [SelectorMemo.run] using h⟩
  | cons request later ih =>
    obtain ⟨hfirst, hheld⟩ := h.answer request
    obtain ⟨hrest, hheld⟩ := ih hheld
    rw [SelectorMemo.run, List.map_cons, List.flatMap_cons, ← List.append_assoc]
    exact ⟨by rw [hfirst, hrest], hheld⟩

end Holds

/-- **A memo makes no difference to what is read**, whatever it has been asked before.  It holds
the distinct texts that have been read so far, and a sheet adds its selectors in the order of
ranking, in front of the first that fails. -/
theorem refines_parse (requests : List Request) :
    let memo := (run .empty requests).2
    let given := requests.flatMap Request.texts
    (run .empty requests).1 = requests.map Request.plain ∧ memo.Holds given ∧
    (∀ text, (memo.parse text).1 = SelectorGroup.parse text ∧
      (memo.parse text).2.Holds (given ++ [text])) ∧
    ∀ sheet : Stylesheet,
      (CompiledSheet.ofSheetWith memo sheet).1 = CompiledSheet.ofSheet sheet ∧
      (CompiledSheet.ofSheetWith memo sheet).2.Holds
        (given ++ readable (sheet.rules.map (·.selector))) := by
  intro memo given
  obtain ⟨hanswers, hheld⟩ := holds_empty.run requests
  exact ⟨hanswers, hheld, hheld.parse, hheld.ofSheetWith⟩

end StyleInline.SelectorMemo
