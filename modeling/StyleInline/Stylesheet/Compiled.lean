import StyleInline.Selector.Memo
import StyleInline.Stylesheet.Basic

/-!
# Compiled sheets

A compiled sheet is a stylesheet whose selectors have all been read, so that nothing
can go wrong any more when it is applied.

## Main definitions

* `CompiledRule`, `CompiledSheet` — a rule, and rules in ranking order, ready to apply.
* `StyleError` — why a text gives no compiled sheet.
* `CompiledSheet.ofSheet`, `CompiledSheet.ofSheetWith` — a compiled sheet, read directly
  or with the help of a memo.
* `CompiledSheet.ofText` — a compiled sheet from text.
-/

namespace StyleInline

/-- A rule whose selector has been read. -/
structure CompiledRule where
  selector : Text
  branches : SelectorGroup
  declarations : Declarations
deriving Repr, DecidableEq

/-- Rules ready to be applied, in ranking order. -/
structure CompiledSheet where
  rules : List CompiledRule
deriving Repr, DecidableEq

/-- Why a text gives no compiled sheet. -/
inductive StyleError where
  /-- The text cannot be read as a stylesheet. -/
  | stylesheet (cause : SyntaxError)
  /-- A selector of the stylesheet cannot be read. -/
  | selector (cause : SelectorError)
deriving Repr, DecidableEq

namespace StyleError

/-- The wording of an error: where it lies, and its cause. -/
def message : StyleError → Text
  | stylesheet cause => "stylesheet: ".toList ++ cause.message
  | selector cause => "selector: ".toList ++ cause.message

end StyleError

namespace CompiledSheet

/-- A ranked rule with its selector read. -/
def compiledRule (rule : RankedRule) (branches : SelectorGroup) : CompiledRule :=
  ⟨rule.selector, branches, rule.declarations⟩

/-- Reads the selectors of ranked rules; the first that fails ends the reading. -/
def compileRules : List RankedRule → Except SelectorError (List CompiledRule)
  | [] => .ok []
  | rule :: rest =>
    match SelectorGroup.parse rule.selector with
    | .error e => .error e
    | .ok branches => (compileRules rest).map (compiledRule rule branches :: ·)

/-- Reads the selectors of ranked rules with the help of a memo.  The memo keeps what was
read before a failure. -/
def compileRulesWith : SelectorMemo → List RankedRule →
    Except SelectorError (List CompiledRule) × SelectorMemo
  | memo, [] => (.ok [], memo)
  | memo, rule :: rest =>
    match memo.parse rule.selector with
    | (.error e, memo) => (.error e, memo)
    | (.ok branches, memo) =>
      let answer := compileRulesWith memo rest
      (answer.1.map (compiledRule rule branches :: ·), answer.2)

/-- The compiled form of a sheet. -/
def ofSheet (sheet : Stylesheet) : Except SelectorError CompiledSheet :=
  (compileRules sheet.rules).map CompiledSheet.mk

/-- The compiled form of a sheet, read with the help of a memo. -/
def ofSheetWith (memo : SelectorMemo) (sheet : Stylesheet) :
    Except SelectorError CompiledSheet × SelectorMemo :=
  let answer := compileRulesWith memo sheet.rules
  (answer.1.map CompiledSheet.mk, answer.2)

/-- The compiled form of a sheet in text form. -/
def ofText (text : Text) : Except StyleError CompiledSheet :=
  match Stylesheet.parse text with
  | .error e => .error (.stylesheet e)
  | .ok sheet => (ofSheet sheet).mapError .selector

/-- The compiled form of a sheet in text form, read with the help of a memo. -/
def ofTextWith (memo : SelectorMemo) (text : Text) :
    Except StyleError CompiledSheet × SelectorMemo :=
  match Stylesheet.parse text with
  | .error e => (.error (.stylesheet e), memo)
  | .ok sheet =>
    let answer := ofSheetWith memo sheet
    (answer.1.mapError .selector, answer.2)

/-- The number of rules. -/
def size (sheet : CompiledSheet) : Nat := sheet.rules.length

/-- Whether there are no rules. -/
def isEmpty (sheet : CompiledSheet) : Bool := sheet.rules.isEmpty

@[simp] theorem compileRules_nil : compileRules [] = .ok [] := rfl

@[simp] theorem compileRulesWith_nil (memo : SelectorMemo) :
    compileRulesWith memo [] = (.ok [], memo) := rfl

/-- With a sound memo the same is read as without one. -/
theorem fst_compileRulesWith {memo : SelectorMemo} (h : memo.Sound) (rules : List RankedRule) :
    (compileRulesWith memo rules).1 = compileRules rules := by
  induction rules generalizing memo with
  | nil => rfl
  | cons rule rest ih =>
    have hp := SelectorMemo.fst_parse h rule.selector
    have hs := SelectorMemo.sound_snd_parse h rule.selector
    unfold compileRulesWith compileRules
    rw [← hp]
    revert hp hs
    generalize memo.parse rule.selector = answer
    intro hp hs
    obtain ⟨outcome, memo'⟩ := answer
    cases outcome with
    | error e => rfl
    | ok branches => simp only [ih hs]

/-- A sound memo stays sound. -/
theorem sound_snd_compileRulesWith {memo : SelectorMemo} (h : memo.Sound)
    (rules : List RankedRule) : (compileRulesWith memo rules).2.Sound := by
  induction rules generalizing memo with
  | nil => exact h
  | cons rule rest ih =>
    have hs := SelectorMemo.sound_snd_parse h rule.selector
    unfold compileRulesWith
    revert hs
    generalize memo.parse rule.selector = answer
    intro hs
    obtain ⟨outcome, memo'⟩ := answer
    cases outcome with
    | error e => exact hs
    | ok branches => exact ih hs

end CompiledSheet

end StyleInline
