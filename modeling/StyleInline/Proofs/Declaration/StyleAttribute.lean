import StyleInline.Proofs.Declaration.Malformed

/-!
# Style attributes written by several rules

When several rules are written into a `style` attribute, its text is read again before each
of them.  Well formed rules are merged into what it declares one after the other, so two of
them are one rule.  In general each rule is an overlay: the values that are there are trimmed,
and those of the rule are written over them.

## Main definitions

* `StyleAttribute.mergeAll` — the text after several rules.

## Main results

* `StyleAttribute.merge_merge` — two rules in a row.
* `StyleAttribute.mergeAll_eq_render_merge`, `StyleAttribute.mergeAll_eq_render` — what it
  declares.
* `StyleAttribute.mergeAll_mergeAll` — the same rules once more change nothing.
-/

namespace StyleInline.StyleAttribute

open OrderedMap (overlay)

variable {style : Text} {block rule : Declarations} {rules : List Declarations}

/-! ## Two rules -/

/-- A rule that is written into what has been written is merged into it. -/
theorem merge_render (h : block.IsWellFormed) (rule : Declarations) :
    merge (some block.render) rule = Declarations.render (block.merge rule) := by
  rw [merge, Option.getD_some, Declarations.salvage_render h]

/-- **Two rules in a row are one rule**, the second merged into the first, whatever the
attribute held before: the texts are the same when the first is well formed, and no segment of
the text between them is given up. -/
theorem merge_merge (h : rule.IsWellFormed) (style : Option Text) (later : Declarations) :
    merge (some (merge style rule)) later = merge style (rule.merge later) ∧
      droppedByMerge (some (merge style rule)) = [] := by
  have hmerged : Declarations.IsWellFormed
      ((Declarations.salvage (style.getD [])).merge rule) :=
    (Declarations.isWellFormed_salvage _).merge h.forall_mem
  refine ⟨?_, droppedByMerge_merge h.isWritable style⟩
  calc merge (some (merge style rule)) later
      = Declarations.render (((Declarations.salvage (style.getD [])).merge rule).merge later) :=
        merge_render hmerged later
    _ = Declarations.render ((Declarations.salvage (style.getD [])).merge (rule.merge later)) := by
        rw [OrderedMap.merge_assoc h.distinct]
    _ = merge style (rule.merge later) := rfl

/-- An attribute with a property that is declared twice and two malformed segments. -/
def mixedStyle : Text := "Color: red; junk; top:1px; color:blue; :x".toList

/-- A rule for a property that is there and for a new one. -/
def mixedRule : Declarations :=
  ⟨[("top".toList, "2px".toList), ("left".toList, "a:b".toList)]⟩

/-- A rule for properties of both, and for another one. -/
def mixedLater : Declarations :=
  ⟨[("left".toList, []), ("margin".toList, "0".toList), ("color".toList, "green".toList)]⟩

/-- The malformed segments are lost with the first rule, and the second loses nothing. -/
theorem merge_merge_mixed :
    mixedRule.IsWellFormed ∧
    droppedByMerge (some mixedStyle) = [⟨"junk".toList⟩, ⟨":x".toList⟩] ∧
    merge (some mixedStyle) mixedRule = "color:blue;top:2px;left:a:b".toList ∧
    droppedByMerge (some (merge (some mixedStyle) mixedRule)) = [] ∧
    merge (some (merge (some mixedStyle) mixedRule)) mixedLater
      = merge (some mixedStyle) (mixedRule.merge mixedLater) ∧
    merge (some mixedStyle) (mixedRule.merge mixedLater)
      = "color:green;top:2px;left:;margin:0".toList := by
  have hrule : mixedRule.IsWellFormed :=
    ⟨by simp [mixedRule, OrderedMap.Distinct, OrderedMap.keys], by decide +kernel⟩
  obtain ⟨hmerge, hdropped⟩ := merge_merge hrule (some mixedStyle) mixedLater
  exact ⟨hrule, by decide +kernel, by decide +kernel, hdropped, hmerge, by decide +kernel⟩

/-! ## Several rules -/

/-- The text of an attribute after the declarations of rules have been written over it, one
after the other. -/
def mergeAll (style : Text) (rules : List Declarations) : Text :=
  rules.foldl (fun style rule => merge (some style) rule) style

@[simp] theorem mergeAll_nil (style : Text) : mergeAll style [] = style := rfl

@[simp] theorem mergeAll_cons (style : Text) (rule : Declarations) (rules : List Declarations) :
    mergeAll style (rule :: rules) = mergeAll (merge (some style) rule) rules := rfl

/-! ### Well formed rules -/

/-- Well formed rules are merged into what has been written. -/
theorem mergeAll_render_of_isWellFormed (hblock : block.IsWellFormed)
    (h : ∀ rule ∈ rules, ∀ d ∈ rule.entries, Declaration.IsWellFormed d) :
    mergeAll block.render rules = Declarations.render (rules.foldl OrderedMap.merge block) := by
  induction rules generalizing block with
  | nil => rfl
  | cons rule rules ih =>
    obtain ⟨hrule, hlater⟩ := List.forall_mem_cons.1 h
    rw [mergeAll_cons, merge_render hblock, List.foldl_cons]
    exact ih (hblock.merge hrule) hlater

/-- Well formed rules are merged into what the text declares, if there are any. -/
theorem mergeAll_eq_render_merge (hne : rules ≠ [])
    (h : ∀ rule ∈ rules, ∀ d ∈ rule.entries, Declaration.IsWellFormed d) :
    mergeAll style rules
      = Declarations.render (rules.foldl OrderedMap.merge (Declarations.salvage style)) := by
  obtain ⟨rule, later, rfl⟩ := List.exists_cons_of_ne_nil hne
  obtain ⟨hrule, hlater⟩ := List.forall_mem_cons.1 h
  rw [mergeAll_cons, merge, Option.getD_some, List.foldl_cons]
  exact mergeAll_render_of_isWellFormed
    ((Declarations.isWellFormed_salvage style).merge hrule) hlater

/-! ### Writable rules -/

/-- Writing a rule into what has been written is an overlay. -/
theorem merge_render_of_isWritable (h : block.IsWritable) (rule : Declarations) :
    merge (some block.render) rule = Declarations.render (overlay Text.trim block rule) := by
  rw [merge, Option.getD_some, Declarations.salvage_render_of_isWritable h, overlay]

/-- Writing a rule into any text is an overlay of what the text declares. -/
theorem merge_eq_render_overlay (style : Text) (rule : Declarations) :
    merge (some style) rule
      = Declarations.render (overlay Text.trim (Declarations.salvage style) rule) := by
  have hwellFormed := Declarations.isWellFormed_salvage style
  rw [← merge_render_of_isWritable hwellFormed.isWritable, merge, merge, Option.getD_some,
    Option.getD_some, Declarations.salvage_render hwellFormed]

/-- What several rules leave of a block. -/
theorem mergeAll_render (hblock : block.IsWritable) (h : ∀ rule ∈ rules, rule.IsWritable) :
    mergeAll block.render rules = Declarations.render (rules.foldl (overlay Text.trim) block) := by
  induction rules generalizing block with
  | nil => rfl
  | cons rule rules ih =>
    obtain ⟨hrule, hlater⟩ := List.forall_mem_cons.1 h
    rw [mergeAll_cons, merge_render_of_isWritable hblock, List.foldl_cons]
    exact ih (hblock.mapValues_trim.merge hrule) hlater

/-- What several rules leave of any text, if there are any. -/
theorem mergeAll_eq_render (hne : rules ≠ []) (h : ∀ rule ∈ rules, rule.IsWritable) :
    mergeAll style rules
      = Declarations.render (rules.foldl (overlay Text.trim) (Declarations.salvage style)) := by
  obtain ⟨rule, later, rfl⟩ := List.exists_cons_of_ne_nil hne
  obtain ⟨hrule, hlater⟩ := List.forall_mem_cons.1 h
  have hsalvage := (Declarations.isWellFormed_salvage style).isWritable
  rw [mergeAll_cons, merge_eq_render_overlay, List.foldl_cons]
  exact mergeAll_render (hsalvage.mapValues_trim.merge hrule) hlater

/-- **The same rules once more change nothing**, whatever the text was at the beginning. -/
theorem mergeAll_mergeAll (h : ∀ rule ∈ rules, rule.IsWritable) (style : Text) :
    mergeAll (mergeAll style rules) rules = mergeAll style rules := by
  by_cases hne : rules = []
  · subst hne
    rfl
  · have hwellFormed := Declarations.isWellFormed_salvage style
    have htrimmed : ∀ d ∈ (Declarations.salvage style).entries, Text.trim d.2 = d.2 :=
      fun d hd => (hwellFormed.forall_mem d hd).trim_value
    have hdistinct : ∀ rule ∈ rules, rule.Distinct := fun rule hrule => (h rule hrule).distinct
    have hpass : Declarations.IsWritable
        (rules.foldl (overlay Text.trim) (Declarations.salvage style)) := by
      refine List.foldlRecOn _ _ hwellFormed.isWritable ?_
      exact fun block hblock rule hrule => hblock.mapValues_trim.merge (h rule hrule)
    have hfirst : mergeAll style rules = Declarations.render
        (rules.foldl (overlay Text.trim) (Declarations.salvage style)) := mergeAll_eq_render hne h
    rw [hfirst, mergeAll_render hpass h,
      OrderedMap.foldl_overlay_foldl_overlay hwellFormed.distinct htrimmed hdistinct]

end StyleInline.StyleAttribute
