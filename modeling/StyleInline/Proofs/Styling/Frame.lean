import StyleInline.Proofs.Styling.Cascade

/-!
# What styling leaves alone

Selectors may look at `style` attributes, and then a rule selects by what the rules before it
have written.  Whatever they select, nothing is written but the `style` attribute of elements
that a rule selects at the moment it is applied.

## Main definitions

* `Styling.touching` — the rules that select a node when they are applied.

## Main results

* `Styling.getElem?_applyRules_eq` — every node after rules of any kind.
* `CompiledSheet.apply_frame` — what becomes of a document.
-/

namespace StyleInline

namespace Styling

variable {d : Document} {n : Handle} {rule : CompiledRule} {rules later : List CompiledRule}

/-! ## What writing does not change -/

/-- What no write to a `style` attribute changes is the same after rules. -/
theorem observe_applyRules {β : Type} (f : Document → β)
    (hf : ∀ d e value, f (d.writeAttribute e styleName value) = f d) (d : Document)
    (rules : List CompiledRule) : f (applyRules d rules) = f d := by
  have helements (declarations : Declarations) (es : List Handle) (d : Document) :
      f (styleElements declarations d es) = f d := by
    induction es generalizing d with
    | nil => rfl
    | cons e es ih => rw [styleElements_cons, ih, styleElement]; exact hf ..
  induction rules generalizing d with
  | nil => rfl
  | cons rule later ih => rw [applyRules_cons, ih, applyRule, helements]

/-! ## The rules that reach a node -/

/-- The rules that select a node in the tree as it stands when they are applied. -/
def touching (n : Handle) : Document → List CompiledRule → List CompiledRule
  | _, [] => []
  | d, rule :: later =>
    if n ∈ selected rule d then rule :: touching n (applyRule d rule) later
    else touching n (applyRule d rule) later

/-- A rule reaches a node when it selects it after the rules in front of it. -/
theorem mem_touching_iff :
    rule ∈ touching n d rules ↔ ∃ before later,
      rules = before ++ rule :: later ∧ n ∈ selected rule (applyRules d before) := by
  induction rules generalizing d with
  | nil => simp [touching]
  | cons first rest ih =>
    have hsplit : (∃ before later, first :: rest = before ++ rule :: later ∧
          n ∈ selected rule (applyRules d before)) ↔
        (first = rule ∧ n ∈ selected rule d) ∨ rule ∈ touching n (applyRule d first) rest := by
      rw [ih]
      constructor
      · rintro ⟨before, later, hrules, hn⟩
        cases before with
        | nil =>
          cases hrules
          exact .inl ⟨rfl, hn⟩
        | cons head before =>
          cases hrules
          exact .inr ⟨before, later, rfl, hn⟩
      · rintro (⟨rfl, hn⟩ | ⟨before, later, rfl, hn⟩)
        · exact ⟨[], rest, rfl, hn⟩
        · exact ⟨first :: before, later, rfl, hn⟩
    rw [hsplit, touching]
    split
    · next h =>
      rw [List.mem_cons, eq_comm]
      constructor
      · rintro (rfl | hmem)
        · exact .inl ⟨rfl, h⟩
        · exact .inr hmem
      · rintro (⟨heq, -⟩ | hmem)
        · exact .inl heq
        · exact .inr hmem
    · next h =>
      constructor
      · exact .inr
      · rintro (⟨rfl, hn⟩ | hmem)
        · exact absurd hn h
        · exact hmem

/-- Every node after rules, whatever they look at: those that reach it are written into it
one after the other. -/
theorem getElem?_applyRules_eq (d : Document) (n : Handle) (rules : List CompiledRule) :
    (applyRules d rules).nodes[n]? = d.nodes[n]?.map fun node =>
      (touching n d rules).foldl (fun node rule => styleNode node rule.declarations) node := by
  induction rules generalizing d with
  | nil => simp [touching]
  | cons rule later ih =>
    rw [applyRules_cons, ih, applyRule, getElem?_styleElements (nodup_selected rule d), touching]
    split
    · rw [Option.map_map]
      rfl
    · rfl

/-- A node that a rule reaches is an element. -/
theorem exists_element_of_touching_ne_nil (h : touching n d rules ≠ []) :
    ∃ node, d.nodes[n]? = some node ∧ node.isElement = true := by
  obtain ⟨rule, hrule⟩ := List.exists_mem_of_ne_nil _ h
  obtain ⟨before, later, -, hn⟩ := mem_touching_iff.1 hrule
  refine Document.exists_node_of_isElement ?_
  rw [← observe_applyRules (·.isElement n) (fun _ _ _ => Document.isElement_writeAttribute)
    d before]
  exact isElement_of_mem_selected hn

end Styling

namespace CompiledSheet

open Styling

/-- The rules of a sheet that select a node in the tree as it stands when they are applied. -/
def touching (sheet : CompiledSheet) (d : Document) (n : Handle) : List CompiledRule :=
  Styling.touching n d sheet.rules

/-- **Styling changes `style` attributes and nothing else**, whatever the selectors look at.
No node is created.  A node that no rule selects at its moment stays as it is; any other is an
element and keeps its place, its name and its other attributes in order, and its `style`
attribute is written, in its place or as the last one. -/
theorem apply_frame (sheet : CompiledSheet) (d : Document) :
    (sheet.apply d).size = d.size ∧ ∀ n : Handle,
      (∀ rule, rule ∈ sheet.touching d n ↔ ∃ before later,
        sheet.rules = before ++ rule :: later ∧ n ∈ selected rule (applyRules d before)) ∧
      (sheet.touching d n = [] → (sheet.apply d).nodes[n]? = d.nodes[n]?) ∧
      (sheet.touching d n ≠ [] → ∃ node tag attributes',
        d.nodes[n]? = some node ∧ node.kind = .element tag ∧
        OrderedMap.Written styleName
          (StyleAttribute.mergeAll ((node.attributes.get? styleName).getD [])
            ((sheet.touching d n).map (·.declarations))) node.attributes attributes' ∧
        (sheet.apply d).nodes[n]? = some { node with attributes := attributes' }) := by
  refine ⟨observe_applyRules Document.size (fun _ _ _ => Document.size_writeAttribute ..) d _, ?_⟩
  intro n
  refine ⟨fun rule => mem_touching_iff, ?_, ?_⟩
  · intro h
    rw [touching] at h
    rw [apply, getElem?_applyRules_eq, h]
    simp
  · intro h
    obtain ⟨node, hnode, helement⟩ := exists_element_of_touching_ne_nil h
    obtain ⟨tag, htag⟩ := Content.isElement_iff.1 helement
    refine ⟨node, tag, _, hnode, htag, OrderedMap.written_insert .., ?_⟩
    rw [apply, getElem?_applyRules_eq, hnode, Option.map_some, ← touching,
      foldl_styleNode_eq helement h, Node.setAttribute_of_isElement helement]
    rfl

end CompiledSheet

end StyleInline
