import StyleInline.Proofs.Declaration.Malformed
import StyleInline.Proofs.Styling.Cascade
import StyleInline.Proofs.Stylesheet.Compiled

/-!
# Segments lost on the way

The `style` attribute of an element is read again for every rule that selects it, but its
malformed segments are reported once.  When the first of these rules has been written, the
attribute holds written declarations, and in those nothing is malformed; no later rule brings a
malformed segment in, since the declarations of a sheet can be written.  So what is reported
depends on the original attributes and on the order in which elements are selected for the
first time, even where selectors look at `style` attributes.

## Main definitions

* `Styling.faults` — the malformed segments of the attribute of an element.
* `Styling.selections`, `Styling.firstSelections` — the elements in the order in which rules
  select them.

## Main results

* `Styling.faults_applyRule` — what one rule does to the faults.
* `CompiledSheet.dropped_eq_malformed` — what is reported for a document.
-/

namespace StyleInline

namespace Styling

variable {declarations : Declarations} {es : List Handle}
  {rule : CompiledRule} {rules : List CompiledRule}

/-- The segments that are lost when the `style` attribute of an element is written. -/
def faults (d : Document) (n : Handle) : List StyleAttribute.Dropped :=
  StyleAttribute.droppedByMerge (d.attribute? n styleName)

/-- The elements that rules select in the tree as it stands when they are applied, rule by
rule. -/
def selections : Document → List CompiledRule → List Handle
  | _, [] => []
  | d, rule :: later => selected rule d ++ selections (applyRule d rule) later

/-- The elements that rules select, in the order in which they are first selected. -/
def firstSelections (d : Document) (rules : List CompiledRule) : List Handle :=
  (selections d rules).eraseDups

/-! ## One rule -/

/-- Writing distinct elements reports the faults that they have at the beginning. -/
theorem droppedFromElements_eq (h : es.Nodup) (d : Document) :
    droppedFromElements declarations d es = es.flatMap (faults d) := by
  induction es generalizing d with
  | nil => rfl
  | cons e es ih =>
    obtain ⟨he, hes⟩ := List.nodup_cons.1 h
    have hlater : ∀ n ∈ es, faults (styleElement declarations d e) n = faults d n := by
      intro n hn
      have hne : e ≠ n := by
        rintro rfl
        exact he hn
      have hnode := getElem?_styleElement declarations d e n
      rw [if_neg hne] at hnode
      rw [faults, faults, Document.attribute?_congr hnode]
    rw [droppedFromElements, ih hes, List.flatMap_cons, List.flatMap_congr hlater]
    rfl

/-- A writable rule takes the faults of the elements that it selects, and of no other. -/
theorem faults_applyRule (hrule : rule.declarations.IsWritable) (d : Document) (n : Handle) :
    faults (applyRule d rule) n = if n ∈ selected rule d then [] else faults d n := by
  have hnode : (applyRule d rule).nodes[n]? =
      if n ∈ selected rule d then d.nodes[n]?.map (styleNode · rule.declarations)
      else d.nodes[n]? := getElem?_styleElements (nodup_selected rule d)
  split
  · next hn =>
    rw [if_pos hn] at hnode
    obtain ⟨node, hsome, hcontent⟩ :=
      Document.exists_node_of_isElement (isElement_of_mem_selected hn)
    rw [hsome, Option.map_some] at hnode
    have hattribute : (applyRule d rule).attribute? n styleName =
        some (StyleAttribute.merge (node.attribute? styleName) rule.declarations) := by
      rw [Document.attribute?_of_getElem?_eq_some hnode]
      exact Content.attribute?_setAttribute_self hcontent
    rw [faults, hattribute, StyleAttribute.droppedByMerge_merge hrule]
  · next hn =>
    rw [if_neg hn] at hnode
    rw [faults, faults, Document.attribute?_congr hnode]

/-! ## All rules -/

/-- Rules in front of others select their elements first. -/
theorem firstSelections_cons (d : Document) (rule : CompiledRule) (later : List CompiledRule) :
    firstSelections d (rule :: later) = selected rule d ++
      (firstSelections (applyRule d rule) later).filter fun n => n ∉ selected rule d := by
  rw [firstSelections, selections, eraseDups_append_of_nodup (nodup_selected rule d),
    firstSelections]

/-- Elements that add nothing may be left out. -/
theorem flatMap_ite_nil (p : Handle → Prop) [DecidablePred p]
    (f : Handle → List StyleAttribute.Dropped) (ns : List Handle) :
    (ns.flatMap fun n => if p n then [] else f n) = (ns.filter fun n => ¬ p n).flatMap f := by
  induction ns with
  | nil => rfl
  | cons n ns ih => by_cases h : p n <;> simp [h, ih]

/-- **Writable rules report the faults of each element when it is first selected.** -/
theorem droppedByRules_eq (h : ∀ rule ∈ rules, rule.declarations.IsWritable) (d : Document) :
    droppedByRules d rules = (firstSelections d rules).flatMap (faults d) := by
  induction rules generalizing d with
  | nil => rfl
  | cons rule later ih =>
    obtain ⟨hrule, hlater⟩ := List.forall_mem_cons.1 h
    have hfaults : faults (applyRule d rule)
        = fun n => if n ∈ selected rule d then [] else faults d n :=
      funext (faults_applyRule hrule d)
    rw [droppedByRules, droppedFromElements_eq (nodup_selected rule d), ih hlater, hfaults,
      flatMap_ite_nil, firstSelections_cons, List.flatMap_append]

end Styling

namespace CompiledSheet

open Styling

variable {text : Text} {sheet : CompiledSheet}

/-- **Each malformed segment is reported once.**  When the sheet of a text is applied to a
document, the malformed segments of the original `style` attributes are reported in the order
of the text, for one element after the other in the order in which they are first selected;
nothing else is reported. -/
theorem dropped_eq_malformed (h : ofText text = .ok sheet) (d : Document) :
    sheet.dropped d = (firstSelections d sheet.rules).flatMap fun n =>
      ((Declarations.segments ((d.attribute? n styleName).getD [])).filter fun segment =>
        Declaration.IsMalformed segment).map StyleAttribute.Dropped.mk := by
  rw [dropped, droppedByRules_eq (isWritable_of_ofText h)]
  refine List.flatMap_congr ?_
  intro n _
  rw [faults, StyleAttribute.droppedByMerge, StyleAttribute.dropped,
    Declarations.malformedSegments_eq]

/-- A sheet with a selector that looks at `style` attributes, behind one that writes them. -/
def lostText : Text :=
  "b \x7b left: 0 \x7d p \x7b top: 1px \x7d p[style] \x7b font: 12px\t/2 serif \x7d".toList

/-- The sheet of `lostText`, compiled. -/
def lostSheet : CompiledSheet := ⟨[
  ⟨"b".toList, [⟨⟨some "b".toList, []⟩, []⟩], ⟨[("left".toList, "0".toList)]⟩⟩,
  ⟨"p".toList, [⟨⟨some "p".toList, []⟩, []⟩], ⟨[("top".toList, "1px".toList)]⟩⟩,
  ⟨"p[style]".toList, [⟨⟨some "p".toList, [.present "style".toList]⟩, []⟩],
    ⟨[("line-height".toList, "2".toList), ("font-size".toList, "12px\t".toList),
      ("font-family".toList, "serif".toList)]⟩⟩]⟩

/-- The document `<p style="junk; color: blue"></p><b style=": x; y"></b><p></p>`. -/
def lostDocument : Document := ⟨#[
  ⟨.ofKind .document, none, [1, 2, 3]⟩,
  ⟨⟨.element ⟨none, "p".toList⟩, ⟨[("style".toList, "junk; color: blue".toList)]⟩⟩, some 0, []⟩,
  ⟨⟨.element ⟨none, "b".toList⟩, ⟨[("style".toList, ": x; y".toList)]⟩⟩, some 0, []⟩,
  ⟨⟨.element ⟨none, "p".toList⟩, ⟨[]⟩⟩, some 0, []⟩]⟩

/-- The segments of the second element come first, and the last rule, which selects both
paragraphs again, adds nothing. -/
theorem dropped_eq_malformed_lost :
    ofText lostText = .ok lostSheet ∧
      firstSelections lostDocument lostSheet.rules = [2, 1, 3] ∧
      lostSheet.dropped lostDocument = [⟨": x".toList⟩, ⟨"y".toList⟩, ⟨"junk".toList⟩] := by
  have htext : ofText lostText = .ok lostSheet := by decide +kernel
  have hfirst : firstSelections lostDocument lostSheet.rules = [2, 1, 3] := by decide +kernel
  refine ⟨htext, hfirst, ?_⟩
  rw [dropped_eq_malformed htext, hfirst]
  decide +kernel

end CompiledSheet

end StyleInline
