import StyleInline.OrderedMap
import StyleInline.Selector.Parser

/-!
# Remembered selectors

Reading a selector depends on its text alone, so what has been read once can be kept
and used for several sheets.  Texts that are no selectors are not kept.

## Main definitions

* `SelectorMemo` — the selectors read so far, by their exact text.
* `SelectorMemo.parse` — reading with the help of a memo.
* `SelectorMemo.Sound` — every entry is what its text reads as; `fst_parse` says that
  then the memo makes no difference to what is read.
-/

namespace StyleInline

/-- The selectors read so far, by their text. -/
abbrev SelectorMemo := OrderedMap Text SelectorGroup

namespace SelectorMemo

/-- Reads a selector, looking it up first, and keeps it if it is new. -/
def parse (memo : SelectorMemo) (text : Text) :
    Except SelectorError SelectorGroup × SelectorMemo :=
  match memo.get? text with
  | some group => (.ok group, memo)
  | none =>
    match SelectorGroup.parse text with
    | .ok group => (.ok group, memo.insert text group)
    | .error e => (.error e, memo)

/-- Every entry is what its text reads as. -/
def Sound (memo : SelectorMemo) : Prop :=
  ∀ text group, memo.get? text = some group → SelectorGroup.parse text = .ok group

theorem sound_empty : Sound OrderedMap.empty := by
  intro text group h
  simp at h

/-- Reading with a sound memo is reading. -/
theorem fst_parse {memo : SelectorMemo} (h : Sound memo) (text : Text) :
    (parse memo text).1 = SelectorGroup.parse text := by
  unfold parse
  split
  · next group hg => exact (h text group hg).symm
  · split <;> simp_all

/-- Reading with a sound memo leaves it sound. -/
theorem sound_snd_parse {memo : SelectorMemo} (h : Sound memo) (text : Text) :
    Sound (parse memo text).2 := by
  unfold parse
  split
  · exact h
  · split
    · next group hg =>
      intro other group' ho
      rw [OrderedMap.get?_insert] at ho
      split at ho
      · next he => subst he; simp_all
      · exact h other group' ho
    · exact h

end SelectorMemo

end StyleInline
