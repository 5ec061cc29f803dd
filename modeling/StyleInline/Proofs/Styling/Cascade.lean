import StyleInline.Proofs.Declaration.StyleAttribute
import StyleInline.Proofs.Document.Attribute
import StyleInline.Proofs.Selector.Chain
import StyleInline.Proofs.Stylesheet.Ranking
import StyleInline.Styling

/-!
# The cascade

Applying a sheet goes from rule to rule, and for each rule from element to element, and
writes and reads `style` attributes on the way.  Seen from one element this is simple: the
rules that select it are merged, in ranking order, into what its attribute declares.

Three facts carry this.  Rules that do not look at `style` attributes select the same
elements throughout; a rule writes an element that it selects once; and what is written is
read back for the next rule.

## Main definitions

* `Styling.styleNode` — what one rule makes of one node.
* `CompiledSheet.matching`, `CompiledSheet.cascade` — the rules that select a node, and what
  they leave of its declarations.

## Main results

* `Styling.getElem?_applyRules` — every node after all rules.
* `Styling.foldl_styleNode_eq` — rules written into a node, as rules written into a text.
* `CompiledSheet.apply_cascades` — the outcome for a node, and for each property.
-/

namespace StyleInline

namespace Styling

variable {d d' : Document} {n e : Handle} {declarations : Declarations} {node : Node}
  {rules : List CompiledRule}

/-! ## One rule -/

/-- The node with declarations written into its `style` attribute. -/
def styleNode (node : Node) (declarations : Declarations) : Node :=
  node.setAttribute styleName
    (StyleAttribute.merge (node.attribute? styleName) declarations)

/-- Styling an element changes its node and no other. -/
theorem getElem?_styleElement (declarations : Declarations) (d : Document) (e n : Handle) :
    (styleElement declarations d e).nodes[n]? =
      if e = n then d.nodes[n]?.map (styleNode · declarations) else d.nodes[n]? := by
  change (d.writeAttribute e styleName
    (StyleAttribute.merge (d.attribute? e styleName) declarations)).nodes[n]? = _
  rw [Document.getElem?_writeAttribute]
  split
  · next hen =>
    subst hen
    rw [Document.attribute?, Document.content?]
    cases d.nodes[e]? <;> rfl
  · rfl

/-- Styling distinct elements changes their nodes, each once. -/
theorem getElem?_styleElements {es : List Handle} (h : es.Nodup) :
    (styleElements declarations d es).nodes[n]? =
      if n ∈ es then d.nodes[n]?.map (styleNode · declarations) else d.nodes[n]? := by
  induction es generalizing d with
  | nil => rfl
  | cons e es ih =>
    obtain ⟨he, hes⟩ := List.nodup_cons.1 h
    rw [styleElements_cons, ih hes, getElem?_styleElement]
    by_cases hen : e = n
    · subst hen
      rw [if_neg he, if_pos rfl, if_pos List.mem_cons_self]
    · simp only [if_neg hen, List.mem_cons, Ne.symm hen, false_or]

/-- Styling elements is not seen by selectors that do not look at `style` attributes. -/
theorem agreeExcept_styleElements (declarations : Declarations) (d : Document) (es : List Handle) :
    AgreeExcept styleName d (styleElements declarations d es) := by
  induction es generalizing d with
  | nil => exact .refl _ _
  | cons e es ih => exact (Document.agreeExcept_writeAttribute ..).trans (ih _)

/-- A rule selects no element twice. -/
theorem nodup_selected (rule : CompiledRule) (d : Document) : (selected rule d).Nodup :=
  nodup_eraseDups _

/-- What a rule selects is an element. -/
theorem isElement_of_mem_selected {rule : CompiledRule} (h : n ∈ selected rule d) :
    d.isElement n = true := by
  obtain ⟨s, -, hs⟩ := SelectorGroup.mem_select_iff.1 h
  exact Document.isElement_of_mem_below ((Selector.select_sublist_preorder ..).subset hs)

/-! ## All rules -/

/-- Every node after all rules: those that select it are written into it one after the
other, where it does not matter whether they select in the tree as it stands or in the
tree `d` at the beginning. -/
theorem getElem?_applyRules
    (hreads : ∀ rule ∈ rules, ¬ rule.branches.Reads styleName) (h : AgreeExcept styleName d d') :
    (applyRules d' rules).nodes[n]? = d'.nodes[n]?.map fun node =>
      (rules.filter fun rule => n ∈ selected rule d).foldl
        (fun node rule => styleNode node rule.declarations) node := by
  induction rules generalizing d' with
  | nil => simp
  | cons rule rest ih =>
    have hselected : selected rule d' = selected rule d :=
      (SelectorGroup.select_congr h (hreads rule List.mem_cons_self) _).symm
    have hagree : AgreeExcept styleName d (applyRule d' rule) :=
      h.trans (agreeExcept_styleElements ..)
    rw [applyRules_cons, ih (fun r hr => hreads r (List.mem_cons_of_mem _ hr)) hagree, applyRule,
      getElem?_styleElements (nodup_selected rule d'), hselected]
    by_cases hn : n ∈ selected rule d
    · rw [if_pos hn, List.filter_cons_of_pos (by simpa using hn), Option.map_map]
      rfl
    · rw [if_neg hn, List.filter_cons_of_neg (by simpa using hn)]

/-! ## One node -/

/-- What the `style` attribute of a node declares. -/
def declared (d : Document) (n : Handle) : Declarations :=
  Declarations.salvage ((d.attribute? n styleName).getD [])

/-- Rules written into a node with a written attribute are written into its text. -/
theorem foldl_styleNode_written (hnode : node.isElement = true) (style : Text)
    (rules : List CompiledRule) :
    rules.foldl (fun node rule => styleNode node rule.declarations)
        (node.setAttribute styleName style)
      = node.setAttribute styleName
          (StyleAttribute.mergeAll style (rules.map (·.declarations))) := by
  induction rules generalizing style with
  | nil => rfl
  | cons rule rules ih =>
    have hstep : styleNode (node.setAttribute styleName style) rule.declarations
        = node.setAttribute styleName (StyleAttribute.merge (some style) rule.declarations) := by
      rw [styleNode, Node.setAttribute, Node.setAttribute, Node.setAttribute,
        Content.attribute?_setAttribute_self hnode, Content.setAttribute_setAttribute]
    rw [List.foldl_cons, hstep, ih, List.map_cons, StyleAttribute.mergeAll_cons]

/-- Rules written into an element are written into the text of its attribute, which is empty
if it is absent. -/
theorem foldl_styleNode_eq (hnode : node.isElement = true) (hne : rules ≠ []) :
    rules.foldl (fun node rule => styleNode node rule.declarations) node
      = node.setAttribute styleName (StyleAttribute.mergeAll
          ((node.attribute? styleName).getD []) (rules.map (·.declarations))) := by
  obtain ⟨rule, later, rfl⟩ := List.exists_cons_of_ne_nil hne
  exact foldl_styleNode_written hnode _ later

end Styling

/-! ## The outcome -/

namespace CompiledSheet

open Styling

variable {rules : List Rule} {sheet : CompiledSheet} {d : Document} {n : Handle}

/-- The rules of a sheet that select a node, in ranking order. -/
def matching (sheet : CompiledSheet) (d : Document) (n : Handle) : List CompiledRule :=
  sheet.rules.filter fun rule => n ∈ selected rule d

/-- What is left of the declarations of a node when the rules that select it have been
merged into them, in ranking order. -/
def cascade (sheet : CompiledSheet) (d : Document) (n : Handle) : Declarations :=
  (sheet.matching d n).foldl (fun block rule => block.merge rule.declarations) (declared d n)

/-- `winner` is the last rule in the order of ranking that selects a node and declares a
property. -/
structure Wins (sheet : CompiledSheet) (listed : List Text) (d : Document) (n : Handle)
    (property : Text) (winner : CompiledRule) : Prop where
  mem_matching : winner ∈ sheet.matching d n
  declares : winner.declarations.get? property ≠ none
  precedes : ∀ rule ∈ sheet.matching d n, rule.declarations.get? property ≠ none →
    rule = winner ∨ Stylesheet.Precedes listed rule.selector winner.selector

/-- A rule in `matching` is a rule of the sheet. -/
theorem mem_rules_of_mem_matching {rule : CompiledRule} (h : rule ∈ sheet.matching d n) :
    rule ∈ sheet.rules := (List.mem_filter.1 h).1

/-- A node that rules select is an element. -/
theorem exists_element_of_matching_ne_nil (h : sheet.matching d n ≠ []) :
    ∃ node, d.nodes[n]? = some node ∧ node.isElement = true := by
  obtain ⟨rule, hrule⟩ := List.exists_mem_of_ne_nil _ h
  exact Document.exists_node_of_isElement
    (isElement_of_mem_selected (of_decide_eq_true (List.mem_filter.1 hrule).2))

/-- A node that no rule selects stays as it is. -/
theorem getElem?_apply_of_matching_eq_nil
    (hreads : ∀ rule ∈ sheet.rules, ¬ rule.branches.Reads styleName)
    (h : sheet.matching d n = []) : (sheet.apply d).nodes[n]? = d.nodes[n]? := by
  rw [matching] at h
  rw [apply, getElem?_applyRules hreads (.refl _ d), h]
  simp

/-- Of a node that rules select, the `style` attribute is written and nothing else. -/
theorem getElem?_apply_of_matching_ne_nil
    (hreads : ∀ rule ∈ sheet.rules, ¬ rule.branches.Reads styleName)
    (hwf : ∀ rule ∈ sheet.rules, ∀ declaration ∈ rule.declarations.entries,
      Declaration.IsWellFormed declaration)
    (h : sheet.matching d n ≠ []) :
    ∃ node, d.nodes[n]? = some node ∧ node.isElement = true ∧
      (sheet.apply d).nodes[n]? =
        some (node.setAttribute styleName (sheet.cascade d n).render) := by
  obtain ⟨node, hnode, hcontent⟩ := exists_element_of_matching_ne_nil h
  refine ⟨node, hnode, hcontent, ?_⟩
  have hdeclared : declared d n =
      Declarations.salvage ((node.attribute? styleName).getD []) := by
    rw [declared, Document.attribute?_of_getElem?_eq_some hnode]
  have hrules : ∀ block ∈ (sheet.matching d n).map (·.declarations),
      ∀ declaration ∈ block.entries, Declaration.IsWellFormed declaration := by
    rw [List.forall_mem_map]
    exact fun rule hrule => hwf rule (mem_rules_of_mem_matching hrule)
  rw [apply, getElem?_applyRules hreads (.refl _ d), hnode, Option.map_some, ← matching,
    foldl_styleNode_eq hcontent h,
    StyleAttribute.mergeAll_eq_render_merge (mt List.map_eq_nil_iff.1 h) hrules, ← hdeclared,
    List.foldl_map, cascade]

/-- What an attribute declares after the sheet has been applied is what the cascade leaves. -/
theorem declared_apply (hreads : ∀ rule ∈ sheet.rules, ¬ rule.branches.Reads styleName)
    (hwf : ∀ rule ∈ sheet.rules, ∀ declaration ∈ rule.declarations.entries,
      Declaration.IsWellFormed declaration) :
    declared (sheet.apply d) n = sheet.cascade d n := by
  by_cases h : sheet.matching d n = []
  · rw [declared, Document.attribute?_congr (getElem?_apply_of_matching_eq_nil hreads h), cascade,
      h]
    rfl
  · obtain ⟨node, -, hnode, happly⟩ := getElem?_apply_of_matching_ne_nil hreads hwf h
    have hattribute : (sheet.apply d).attribute? n styleName
        = some (sheet.cascade d n).render := by
      rw [Document.attribute?_of_getElem?_eq_some happly]
      exact Content.attribute?_setAttribute_self hnode
    have hwellFormed : (sheet.cascade d n).IsWellFormed := by
      rw [cascade]
      refine List.foldlRecOn _ _ (Declarations.isWellFormed_salvage _) ?_
      exact fun block hblock rule hrule => hblock.merge (hwf rule (mem_rules_of_mem_matching hrule))
    rw [declared, hattribute, Option.getD_some, Declarations.salvage_render hwellFormed]

/-- In what the cascade leaves, a property has the value that the last rule gives it, and
the original one if no rule declares it. -/
theorem get?_cascade (hsheet : ofSheet (Stylesheet.ofRules rules) = .ok sheet) (d : Document)
    (n : Handle) (property : Text) :
    ((∀ rule ∈ sheet.matching d n, rule.declarations.get? property = none) ∧
        (sheet.cascade d n).get? property = (declared d n).get? property) ∨
      ∃ winner, sheet.Wins (Stylesheet.listed rules) d n property winner ∧
        (sheet.cascade d n).get? property = winner.declarations.get? property := by
  have hpairwise : (sheet.matching d n).Pairwise fun a b =>
      Stylesheet.Precedes (Stylesheet.listed rules) a.selector b.selector :=
    (pairwise_precedes hsheet).filter _
  have hdistinct : ∀ rule ∈ sheet.matching d n, rule.declarations.Distinct :=
    fun rule hrule => distinct_declarations hsheet rule (mem_rules_of_mem_matching hrule)
  rcases OrderedMap.get?_foldl_merge hpairwise hdistinct (declared d n) property with
    h | ⟨winner, hmem, hdeclares, hprecedes, hget⟩
  · exact .inl h
  · exact .inr ⟨winner, ⟨hmem, hdeclares, hprecedes⟩, hget⟩

/-- **The cascade**: a node that no rule selects stays as it is; of any other the `style`
attribute is written, and nothing else, with what the rules that select it in the original
tree leave when they are merged into it in ranking order.  Afterwards a property has the
value that the last of them gives it, or its original value if none declares it. -/
theorem apply_cascades (hsheet : ofSheet (Stylesheet.ofRules rules) = .ok sheet)
    (hreads : ∀ rule ∈ sheet.rules, ¬ rule.branches.Reads styleName)
    (hwf : ∀ rule ∈ sheet.rules, ∀ declaration ∈ rule.declarations.entries,
      Declaration.IsWellFormed declaration)
    (d : Document) (n : Handle) :
    (sheet.matching d n = [] → (sheet.apply d).nodes[n]? = d.nodes[n]?) ∧
    (sheet.matching d n ≠ [] →
      (sheet.apply d).attribute? n styleName = some (sheet.cascade d n).render ∧
      ∃ node, d.nodes[n]? = some node ∧ (sheet.apply d).nodes[n]? = some { node with
        attributes := node.attributes.insert styleName (sheet.cascade d n).render }) ∧
    ∀ property,
      ((∀ rule ∈ sheet.matching d n, rule.declarations.get? property = none) ∧
        (declared (sheet.apply d) n).get? property = (declared d n).get? property) ∨
      ∃ winner, sheet.Wins (Stylesheet.listed rules) d n property winner ∧
        (declared (sheet.apply d) n).get? property = winner.declarations.get? property := by
  refine ⟨getElem?_apply_of_matching_eq_nil hreads, fun h => ?_, fun property => ?_⟩
  · obtain ⟨node, hnode, helement, happly⟩ := getElem?_apply_of_matching_ne_nil hreads hwf h
    refine ⟨?_, node, hnode, by rw [happly, Node.setAttribute_of_isElement helement]⟩
    rw [Document.attribute?_of_getElem?_eq_some happly]
    exact Content.attribute?_setAttribute_self helement
  · rw [declared_apply hreads hwf]
    exact get?_cascade hsheet d n property

/-! ## Three rules and one element -/

/-- An id rule, and a rule listed under two selectors of one weight. -/
def boxRules : List Rule := [
  ⟨["#top".toList], ⟨[("color".toList, "red".toList), ("width".toList, "1px".toList)]⟩⟩,
  ⟨["*".toList, "div".toList], ⟨[("color".toList, "blue".toList)]⟩⟩]

/-- The sheet of these rules, compiled. -/
def boxSheet : CompiledSheet := ⟨[
  ⟨"#top".toList, [⟨⟨none, [.id "top".toList]⟩, []⟩],
    ⟨[("color".toList, "red".toList), ("width".toList, "1px".toList)]⟩⟩,
  ⟨"*".toList, [⟨⟨none, []⟩, []⟩], ⟨[("color".toList, "blue".toList)]⟩⟩,
  ⟨"div".toList, [⟨⟨some "div".toList, []⟩, []⟩], ⟨[("color".toList, "blue".toList)]⟩⟩]⟩

/-- The document `<div id="top" style="width: 2px; height: 3px"></div>`. -/
def boxDocument : Document := ⟨#[
  ⟨.ofKind .document, none, [1]⟩,
  ⟨⟨.element ⟨none, "div".toList⟩, ⟨[("id".toList, "top".toList),
    ("style".toList, "width: 2px; height: 3px".toList)]⟩⟩, some 0, []⟩]⟩

/-- The id rule gives the width but not the colour, and the height stays. -/
theorem apply_cascades_box :
    ofSheet (Stylesheet.ofRules boxRules) = .ok boxSheet ∧
    (∀ rule ∈ boxSheet.rules, ¬ rule.branches.Reads styleName) ∧
    (∀ rule ∈ boxSheet.rules, ∀ declaration ∈ rule.declarations.entries,
      Declaration.IsWellFormed declaration) ∧
    boxSheet.matching boxDocument 1 ≠ [] ∧
    (boxSheet.apply boxDocument).attribute? 1 styleName
      = some "width:1px;height:3px;color:blue".toList := by
  have hsheet : ofSheet (Stylesheet.ofRules boxRules) = .ok boxSheet := by decide +kernel
  have hreads : ∀ rule ∈ boxSheet.rules, ¬ rule.branches.Reads styleName := by decide +kernel
  have hwf : ∀ rule ∈ boxSheet.rules, ∀ declaration ∈ rule.declarations.entries,
      Declaration.IsWellFormed declaration := by decide +kernel
  have hmatching : boxSheet.matching boxDocument 1 ≠ [] := by decide +kernel
  have hcascade : (boxSheet.cascade boxDocument 1).render
      = "width:1px;height:3px;color:blue".toList := by decide +kernel
  have h := ((apply_cascades hsheet hreads hwf boxDocument 1).2.1 hmatching).1
  exact ⟨hsheet, hreads, hwf, hmatching, h.trans (congrArg some hcascade)⟩

end CompiledSheet

end StyleInline
