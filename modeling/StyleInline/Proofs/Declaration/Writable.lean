import StyleInline.Proofs.Declaration.Longhand
import StyleInline.Proofs.OrderedMap.Overlay

/-!
# Declarations that can be written

The declarations of a sheet are not all well formed.  Where `font` has blanks other than
spaces in its value, half of a size token may begin or end with one.  What can be relied on
is that the property keeps its shape and that the value holds no semicolon.  Such
declarations are read back from their written form with their values trimmed.

## Main definitions

* `Declaration.IsWritable` — the declarations that are read back but for blanks.
* `Declarations.IsWritable` — a block of such declarations; the blocks of a sheet are.

## Main results

* `Declarations.salvage_render_of_isWritable` — reading a written block trims its values.
-/

namespace StyleInline

/-! ## Declarations -/

namespace Declaration

variable {d e : Declaration}

/-- A declaration whose property keeps its shape when it is written and read, and whose value
holds no semicolon. -/
structure IsWritable (d : Declaration) : Prop where
  isWellFormed_property : IsWellFormed (d.1, [])
  semicolon_notMem : ';' ∉ d.2

theorem IsWellFormed.isWritable (h : d.IsWellFormed) : d.IsWritable where
  isWellFormed_property := { h with
    trim_value := rfl
    semicolon_notMem_value := List.not_mem_nil }
  semicolon_notMem := h.semicolon_notMem_value

/-- What a writable declaration writes is writable. -/
theorem isWritable_of_mem_longhands (hd : d.IsWritable) (h : e ∈ d.longhands) : e.IsWritable := by
  rcases mem_longhands h with ⟨-, rfl⟩ | ⟨hlonghand, hpart⟩
  · exact hd
  · exact ⟨hlonghand.1, fun hmem => hd.semicolon_notMem (hpart.isInfix.subset hmem)⟩

theorem IsWritable.semicolon_notMem_render (h : d.IsWritable) : ';' ∉ d.render := by
  have hproperty : ';' ∉ d.1 := h.isWellFormed_property.semicolon_notMem_property
  simp [render, hproperty, h.semicolon_notMem]

/-- A writable declaration is read back with its value trimmed. -/
theorem IsWritable.ofSegment?_render (h : d.IsWritable) :
    ofSegment? d.render = some (d.1, Text.trim d.2) := by
  have hproperty := h.isWellFormed_property
  have htrim : Text.trim d.1 = d.1 := hproperty.trim_property
  have hlower : Text.lower d.1 = d.1 := hproperty.lower_property
  refine ofSegment?_eq_some_iff.2 ⟨d.1, d.2, rfl, hproperty.colon_notMem, ?_, ?_⟩
  · rw [htrim]
    exact hproperty.property_ne_nil
  · rw [htrim, hlower]

/-- A segment states the same with blanks around it. -/
theorem ofSegment?_trim (segment : Text) : ofSegment? (Text.trim segment) = ofSegment? segment := by
  obtain ⟨before, after, hbefore, hafter, htext⟩ := Text.exists_blanks_append_trim segment
  have hnotBefore : ':' ∉ before := Text.notMem_of_blank hbefore rfl
  have hnotAfter : ':' ∉ after := Text.notMem_of_blank hafter rfl
  rw [ofSegment?, ofSegment?]
  cases hcut : Text.cut? ':' (Text.trim segment) with
  | none =>
    have hsegment : Text.cut? ':' segment = none := by
      rw [Text.cut?_eq_none_iff] at hcut ⊢
      rw [htext]
      simp [hnotBefore, hcut, hnotAfter]
    rw [hsegment]
  | some cut =>
    obtain ⟨property, value⟩ := cut
    obtain ⟨htrim, hcolon⟩ := Text.cut?_eq_some_iff.1 hcut
    have hsegment : Text.cut? ':' segment = some (before ++ property, value ++ after) := by
      refine Text.cut?_eq_some_iff.2 ⟨?_, by simp [hnotBefore, hcolon]⟩
      calc segment = before ++ (Text.trim segment ++ after) := htext
        _ = (before ++ property) ++ ':' :: (value ++ after) := by rw [htrim]; simp
    simp only [hsegment, Text.trim_blank_append hbefore, Text.trim_append_blank hafter]

end Declaration

/-! ## Lists of declarations -/

namespace Declarations

variable {ds : List Declaration} {block rule : Declarations} {text : Text}

/-- What is read leniently is stated by the parts between semicolons, trimmed or not. -/
theorem salvage_eq (text : Text) :
    salvage text
      = OrderedMap.ofList ((Text.splitOn ';' text).filterMap Declaration.ofSegment?) := by
  rw [salvage, segments, List.filterMap_filter, List.filterMap_map]
  refine congrArg OrderedMap.ofList (List.filterMap_congr ?_)
  intro part _
  rw [Function.comp_apply, Declaration.ofSegment?_trim]
  by_cases h : Text.trim part = []
  · have hnone : Declaration.ofSegment? part = none := by
      rw [← Declaration.ofSegment?_trim, h]
      rfl
    simp [h, hnone]
  · simp [h]

/-- Every written declaration is read back with its value trimmed. -/
theorem filterMap_ofSegment?_render (h : ∀ d ∈ ds, Declaration.IsWritable d) :
    (Text.splitOn ';' (renderDeclarations ds)).filterMap Declaration.ofSegment?
      = ds.map fun d => (d.1, Text.trim d.2) := by
  by_cases hne : ds = []
  · subst hne
    rfl
  · rw [splitOn_renderDeclarations hne fun d hd => (h d hd).semicolon_notMem_render,
      List.filterMap_map, ← List.filterMap_eq_map]
    exact List.filterMap_congr fun d hd => (h d hd).ofSegment?_render

/-- No property stands twice and every declaration is writable. -/
structure IsWritable (block : Declarations) : Prop where
  distinct : block.Distinct
  forall_mem : ∀ d ∈ block.entries, Declaration.IsWritable d

theorem isWritable_empty : IsWritable OrderedMap.empty := ⟨OrderedMap.distinct_empty, by simp⟩

theorem IsWellFormed.isWritable (h : block.IsWellFormed) : block.IsWritable :=
  ⟨h.distinct, fun d hd => (h.forall_mem d hd).isWritable⟩

/-- Writing a writable block over another keeps it writable. -/
theorem IsWritable.merge (h : block.IsWritable) (hrule : rule.IsWritable) :
    IsWritable (OrderedMap.merge block rule) :=
  ⟨OrderedMap.distinct_merge h.distinct rule,
    OrderedMap.forall_mem_merge h.forall_mem hrule.forall_mem⟩

/-- Expanding shorthands keeps a block writable. -/
theorem IsWritable.expand (h : block.IsWritable) : (expand block).IsWritable := by
  refine ⟨OrderedMap.distinct_ofList _, ?_⟩
  intro e he
  obtain ⟨d, hd, he⟩ := List.mem_flatMap.1 (OrderedMap.mem_entries_ofList he)
  exact Declaration.isWritable_of_mem_longhands (h.forall_mem d hd) he

/-- Trimming the values keeps a block writable. -/
theorem IsWritable.mapValues_trim (h : block.IsWritable) :
    IsWritable (OrderedMap.mapValues Text.trim block) := by
  refine ⟨OrderedMap.distinct_mapValues h.distinct _, ?_⟩
  intro e he
  obtain ⟨d, hd, rfl⟩ := List.mem_map.1 he
  have hwritable := h.forall_mem d hd
  exact ⟨hwritable.isWellFormed_property,
    fun hmem => hwritable.semicolon_notMem (Text.mem_of_mem_trim hmem)⟩

/-- **The lenient reading of a written block trims its values.** -/
theorem salvage_render_of_isWritable (h : block.IsWritable) :
    salvage block.render = OrderedMap.mapValues Text.trim block := by
  rw [salvage_eq, render, filterMap_ofSegment?_render h.forall_mem]
  exact OrderedMap.ofList_entries (OrderedMap.distinct_mapValues h.distinct Text.trim)

end Declarations

end StyleInline
