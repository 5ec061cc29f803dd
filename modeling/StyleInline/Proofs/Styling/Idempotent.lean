import StyleInline.Proofs.Styling.Cascade
import StyleInline.Proofs.Stylesheet.Compiled

/-!
# Styling twice

A sheet that does not look at `style` attributes selects the same elements in a styled tree,
and it writes into each of them the rules that it wrote before.  A second pass trims what the
first has left and writes the same declarations over it, so that every property ends in its
place with its value.

## Main results

* `Styling.agreeExcept_applyRules` — a selector sees of a pass only the `style` attributes.
* `CompiledSheet.apply_apply` — a second pass changes nothing.
-/

namespace StyleInline

namespace Styling

variable {d d' : Document} {node : Node} {rules : List CompiledRule}

/-- Rules are not seen by selectors that do not look at `style` attributes. -/
theorem agreeExcept_applyRules (d : Document) (rules : List CompiledRule) :
    AgreeExcept styleName d (applyRules d rules) := by
  induction rules generalizing d with
  | nil => exact .refl _ _
  | cons rule rules ih => exact (agreeExcept_styleElements ..).trans (ih _)

/-- Rules that are written into an element again leave it as it is. -/
theorem foldl_styleNode_foldl_styleNode (hnode : node.isElement = true)
    (h : ∀ rule ∈ rules, rule.declarations.IsWritable) :
    rules.foldl (fun node rule => styleNode node rule.declarations)
        (rules.foldl (fun node rule => styleNode node rule.declarations) node)
      = rules.foldl (fun node rule => styleNode node rule.declarations) node := by
  by_cases hne : rules = []
  · subst hne
    rfl
  · have hwritable : ∀ block ∈ rules.map (·.declarations), block.IsWritable := by
      simpa using h
    rw [foldl_styleNode_eq hnode hne, foldl_styleNode_written hnode,
      StyleAttribute.mergeAll_mergeAll hwritable]

end Styling

namespace CompiledSheet

open Styling

variable {text : Text} {sheet : CompiledSheet} {d : Document} {n : Handle} {node : Node}

/-- A second pass leaves every node as it is. -/
theorem getElem?_apply_apply (h : ofText text = .ok sheet)
    (hreads : ∀ rule ∈ sheet.rules, ¬ rule.branches.Reads styleName) (d : Document) (n : Handle) :
    (sheet.apply (sheet.apply d)).nodes[n]? = (sheet.apply d).nodes[n]? := by
  have hagree : AgreeExcept styleName d (sheet.apply d) := agreeExcept_applyRules d sheet.rules
  have hfirst : (sheet.apply d).nodes[n]? = d.nodes[n]?.map fun node =>
      (sheet.matching d n).foldl (fun node rule => styleNode node rule.declarations) node :=
    getElem?_applyRules hreads (.refl _ d)
  have hsecond : (sheet.apply (sheet.apply d)).nodes[n]? = (sheet.apply d).nodes[n]?.map
      fun node => (sheet.matching d n).foldl
        (fun node rule => styleNode node rule.declarations) node :=
    getElem?_applyRules hreads hagree
  rw [hsecond, hfirst, Option.map_map]
  refine Option.map_congr ?_
  intro node hnode
  by_cases hmatching : sheet.matching d n = []
  · rw [Function.comp_apply, hmatching]
    rfl
  · obtain ⟨_, hsome, helement⟩ := exists_element_of_matching_ne_nil hmatching
    cases hnode.symm.trans hsome
    refine foldl_styleNode_foldl_styleNode helement ?_
    intro rule hrule
    exact isWritable_of_ofText h rule (mem_rules_of_mem_matching hrule)

/-- **Styling twice is styling once**: a compiled text that does not look at `style`
attributes leaves a document that it has styled as it is, whatever the attributes held at the
beginning. -/
theorem apply_apply (h : ofText text = .ok sheet)
    (hreads : ∀ rule ∈ sheet.rules, ¬ rule.branches.Reads styleName) (d : Document) :
    sheet.apply (sheet.apply d) = sheet.apply d :=
  congrArg Document.mk (Array.ext_getElem? (getElem?_apply_apply h hreads d))

/-! ## A value that is not trimmed -/

/-- Three rules that select one element; the size that the last of them gives it ends in a
tab. -/
def sizeText : Text :=
  "* \x7b margin-top: 0 \x7d #x \x7b color: blue \x7d ".toList ++
    "p \x7b font: 12px\t/2 serif; color: red \x7d".toList

/-- The sheet of `sizeText`, compiled. -/
def sizeSheet : CompiledSheet := ⟨[
  ⟨"#x".toList, [⟨⟨none, [.id "x".toList]⟩, []⟩], ⟨[("color".toList, "blue".toList)]⟩⟩,
  ⟨"*".toList, [⟨⟨none, []⟩, []⟩], ⟨[("margin-top".toList, "0".toList)]⟩⟩,
  ⟨"p".toList, [⟨⟨some "p".toList, []⟩, []⟩], ⟨[("line-height".toList, "2".toList),
    ("font-size".toList, "12px\t".toList), ("font-family".toList, "serif".toList),
    ("color".toList, "red".toList)]⟩⟩]⟩

/-- The document `<p id="x" style="Color: green; junk; top:1px"></p>`. -/
def sizeDocument : Document := ⟨#[
  ⟨.ofKind .document, none, [1]⟩,
  ⟨⟨.element ⟨none, "p".toList⟩, ⟨[("id".toList, "x".toList),
    ("style".toList, "Color: green; junk; top:1px".toList)]⟩⟩, some 0, []⟩]⟩

/-- The tab is written, trimmed when the attribute is read again, and written again. -/
theorem apply_apply_size :
    ofText sizeText = .ok sizeSheet ∧
    (∀ rule ∈ sizeSheet.rules, ¬ rule.branches.Reads styleName) ∧
    (sizeSheet.apply sizeDocument).attribute? 1 styleName = some
      "color:red;top:1px;margin-top:0;line-height:2;font-size:12px\t;font-family:serif".toList ∧
    sizeSheet.apply (sizeSheet.apply sizeDocument) = sizeSheet.apply sizeDocument := by
  have htext : ofText sizeText = .ok sizeSheet := by decide +kernel
  have hreads : ∀ rule ∈ sizeSheet.rules, ¬ rule.branches.Reads styleName := by decide +kernel
  have hstyle : (sizeSheet.apply sizeDocument).attribute? 1 styleName = some
      "color:red;top:1px;margin-top:0;line-height:2;font-size:12px\t;font-family:serif".toList := by
    decide +kernel
  exact ⟨htext, hreads, hstyle, apply_apply htext hreads sizeDocument⟩

end CompiledSheet

end StyleInline
