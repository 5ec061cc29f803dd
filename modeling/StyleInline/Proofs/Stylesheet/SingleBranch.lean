import StyleInline.Proofs.Selector.Failure
import StyleInline.Proofs.Stylesheet.Gathering
import StyleInline.Proofs.Stylesheet.Outline

/-!
# The selectors of a sheet as branches

Commas are looked at twice.  They divide a prelude into the selectors of a sheet, and they divide
the text of a group into its branches.  The selectors of a sheet are trimmed, not empty and
without commas, so the second division finds each of them whole: as a group it is itself as its
only branch, and it fails only as it fails alone.

## Main definitions

* `SelectorGroup.IsSingle` — the texts that are one branch.

## Main results

* `Rule.IsListable.isSingle` — selectors that a prelude can list are.
* `Stylesheet.isListable_of_mem_rules` — what stands in the selectors of a sheet.
* `Stylesheet.isSingle_of_mem_rules` — the selectors of a sheet are one branch each.
-/

namespace StyleInline

namespace SelectorGroup

variable {text : Text}

/-- A text that is read as a group in the way in which it is read alone: as one branch, or with
the same error, which is not that it is empty. -/
inductive IsSingle (text : Text) : Prop
  | read {s : Selector} (halone : Selector.parse text = .ok s) (hgroup : parse text = .ok [s])
  | failed {e : SelectorError} (halone : Selector.parse text = .error e)
    (hgroup : parse text = .error e) (hne : e ≠ .empty)

/-- A text that is not blank and holds no comma is one branch. -/
theorem isSingle_of_notMem (hblank : Text.trim text ≠ []) (hcomma : ',' ∉ text) :
    IsSingle text := by
  have hgroup : parse text = (Selector.parse text).map ([·]) := parse_of_notMem hcomma
  cases halone : Selector.parse text with
  | ok s =>
    rw [halone] at hgroup
    exact .read halone hgroup
  | error e =>
    rw [halone] at hgroup
    refine .failed halone hgroup ?_
    rintro rfl
    exact hblank (Selector.parse_eq_empty_iff.1 halone)

end SelectorGroup

/-- A selector that a prelude can list is one branch. -/
theorem Rule.IsListable.isSingle {selector : Text} (h : IsListable selector) :
    SelectorGroup.IsSingle selector := by
  have hblank : Text.trim selector ≠ [] := by
    rw [h.trim_eq]
    exact h.ne_nil
  exact SelectorGroup.isSingle_of_notMem hblank h.comma_notMem

namespace Stylesheet

variable {text : Text} {sheet : Stylesheet} {ranked : RankedRule}

/-- The selectors of a sheet are some that a prelude of its text lists. -/
theorem isListable_of_mem_rules (h : parse text = .ok sheet) (hranked : ranked ∈ sheet.rules) :
    Rule.IsListable ranked.selector := by
  obtain ⟨rules, hrules, rfl⟩ := map_eq_ok_iff.1 h
  obtain ⟨rule, hrule, hselector⟩ := mem_selectors_ofRules.1 (List.mem_map_of_mem hranked)
  exact ((Rule.of_mem_parseAll hrules hrule).1 _ hselector).1

/-- **Every selector of a sheet is one branch.**  It is trimmed, not empty and free of commas,
semicolons and braces, and as a group it is read, or fails, as it does alone. -/
theorem isSingle_of_mem_rules (h : parse text = .ok sheet) (hranked : ranked ∈ sheet.rules) :
    Rule.IsListable ranked.selector ∧ SelectorGroup.IsSingle ranked.selector := by
  have hlistable := isListable_of_mem_rules h hranked
  exact ⟨hlistable, hlistable.isSingle⟩

/-- A prelude with blanks, an empty part, and a selector that begins with a combinator. -/
def gappedText : Text := "ul li , ,\u00a0> p\n\x7b color: red \x7d".toList

/-- The sheet of `gappedText`. -/
def gappedSheet : Stylesheet :=
  let red : Declarations := ⟨[("color".toList, "red".toList)]⟩
  ⟨[⟨"ul li".toList, 2, red⟩, ⟨"> p".toList, 2, red⟩]⟩

/-- The first selector is read and the second is not; the empty part is no selector. -/
theorem isSingle_of_mem_rules_gapped :
    parse gappedText = .ok gappedSheet ∧
      gappedSheet.rules.map (·.selector) = ["ul li".toList, "> p".toList] ∧
      (Rule.IsListable "ul li".toList ∧ SelectorGroup.IsSingle "ul li".toList) ∧
      (Rule.IsListable "> p".toList ∧ SelectorGroup.IsSingle "> p".toList) := by
  have hparse : parse gappedText = .ok gappedSheet := by decide +kernel
  have hfirst := isSingle_of_mem_rules hparse List.mem_cons_self
  have hsecond := isSingle_of_mem_rules hparse (List.mem_cons_of_mem _ List.mem_cons_self)
  exact ⟨hparse, rfl, hfirst, hsecond⟩

end Stylesheet

end StyleInline
