import StyleInline.Proofs.Stylesheet.Ranking

/-!
# What a memo holds

A memo that helps to compile a sheet keeps the selectors of the sheet in the order of
ranking, up to the first that cannot be read.  Seen over several sheets it holds every
selector that was read for one of them, each once.

## Main definitions

* `SelectorMemo.readable` — the texts in front of the first that is no selector.
* `Stylesheet.readSelectors` — the selectors that compiling a text reads.

## Main results

* `CompiledSheet.keys_snd_ofTextWith` — the memo after a text has been compiled.
-/

namespace StyleInline

variable {memo : SelectorMemo} {known : List Text}

namespace SelectorMemo

/-- The texts in front of the first that is no selector. -/
def readable (texts : List Text) : List Text :=
  texts.takeWhile fun text => (SelectorGroup.parse text).isOk

theorem readable_cons_of_ok {text : Text} {group : SelectorGroup}
    (h : SelectorGroup.parse text = .ok group) (later : List Text) :
    readable (text :: later) = text :: readable later :=
  List.takeWhile_cons_of_pos (by rw [h]; rfl)

theorem readable_cons_of_error {text : Text} {e : SelectorError}
    (h : SelectorGroup.parse text = .error e) (later : List Text) :
    readable (text :: later) = [] :=
  List.takeWhile_cons_of_neg (by simp [h, Except.isOk, Except.toBool])

/-- A selector that is read is kept. -/
theorem keys_snd_parse_of_ok {text : Text} {group : SelectorGroup}
    (h : SelectorGroup.parse text = .ok group) (hknown : memo.keys = known.eraseDups) :
    (memo.parse text).2.keys = (known ++ [text]).eraseDups := by
  have hmem : text ∈ memo.keys ↔ text ∈ known := by rw [hknown, List.mem_eraseDups]
  rw [eraseDups_append_singleton, parse]
  cases hget : memo.get? text with
  | some kept =>
    have htext : text ∈ known := hmem.1 (OrderedMap.mem_keys_of_get? hget)
    rw [if_pos htext, hknown]
  | none =>
    have htext : text ∉ known := by
      rw [← hmem]
      exact OrderedMap.get?_eq_none_iff.1 hget
    simp only [h]
    rw [OrderedMap.keys_insert, if_neg (mt hmem.1 htext), if_neg htext, hknown]

/-- A text that is no selector leaves the memo as it is. -/
theorem snd_parse_of_error (memo : SelectorMemo) {text : Text} {e : SelectorError}
    (h : SelectorGroup.parse text = .error e) : (memo.parse text).2 = memo := by
  rw [parse]
  cases hget : memo.get? text with
  | some kept => rfl
  | none => simp only [h]

end SelectorMemo

namespace CompiledSheet

open SelectorMemo

/-- The memo after the selectors of rules have been read. -/
theorem keys_snd_compileRulesWith (hsound : memo.Sound) (hknown : memo.keys = known.eraseDups)
    (rules : List RankedRule) :
    (compileRulesWith memo rules).2.keys
      = (known ++ readable (rules.map (·.selector))).eraseDups := by
  induction rules generalizing memo known with
  | nil => simpa [readable] using hknown
  | cons rule rest ih =>
    have hfst := SelectorMemo.fst_parse hsound rule.selector
    have hsnd := SelectorMemo.sound_snd_parse hsound rule.selector
    rw [compileRulesWith, List.map_cons]
    cases h : SelectorGroup.parse rule.selector with
    | error e =>
      have hmemo := snd_parse_of_error memo h
      rw [readable_cons_of_error h, List.append_nil, ← hknown]
      rw [h] at hfst
      generalize memo.parse rule.selector = answer at hfst hmemo ⊢
      obtain ⟨outcome, memo'⟩ := answer
      cases hfst
      exact congrArg OrderedMap.keys hmemo
    | ok group =>
      have hkeys := keys_snd_parse_of_ok h hknown
      rw [readable_cons_of_ok h]
      rw [h] at hfst
      generalize memo.parse rule.selector = answer at hfst hsnd hkeys ⊢
      obtain ⟨outcome, memo'⟩ := answer
      cases hfst
      rw [← List.singleton_append, ← List.append_assoc]
      exact ih hsnd hkeys

end CompiledSheet

/-- The selectors that compiling a text reads: those of the sheet in the order of ranking, up
to the first that cannot be read. -/
def Stylesheet.readSelectors (text : Text) : List Text :=
  match Stylesheet.parse text with
  | .error _ => []
  | .ok sheet => SelectorMemo.readable (sheet.rules.map (·.selector))

/-- The memo after a text has been compiled. -/
theorem CompiledSheet.keys_snd_ofTextWith (hsound : memo.Sound)
    (hknown : memo.keys = known.eraseDups) (text : Text) :
    (ofTextWith memo text).2.keys = (known ++ Stylesheet.readSelectors text).eraseDups := by
  rw [ofTextWith, Stylesheet.readSelectors]
  cases Stylesheet.parse text with
  | error e =>
    rw [List.append_nil]
    exact hknown
  | ok sheet => exact keys_snd_compileRulesWith hsound hknown sheet.rules

end StyleInline
