import StyleInline.Proofs.Declaration.Writable

/-!
# Malformed segments

A segment of a list of declarations is malformed when it has no colon, or nothing but blanks in
front of the first one.  These are the segments that state no declaration.  The strict reading
of a text fails at the first of them, and the lenient one reads what the text is without them.
What is written of writable declarations has none.

## Main definitions

* `Declaration.IsMalformed` — the segments that state no declaration.
* `Declarations.withoutMalformed` — the text without its malformed segments.

## Main results

* `Declarations.malformedSegments_eq` — what the lenient reading reports.
* `Declarations.malformedSegments_render` — a written block has nothing to report.
* `StyleAttribute.parse_iff_dropped` — the strict and the lenient reading of a text.
-/

namespace StyleInline

namespace Declaration

variable {segment : Text}

/-- There is no colon in a segment, or only blanks stand in front of the first one. -/
def IsMalformed (segment : Text) : Prop :=
  ':' ∉ segment ∨ Text.trim (segment.takeWhile (· ≠ ':')) = []

instance (segment : Text) : Decidable (IsMalformed segment) :=
  inferInstanceAs (Decidable (_ ∨ _))

/-- What stands in front of the first colon. -/
theorem takeWhile_append_colon {before after : Text} (h : ':' ∉ before) :
    (before ++ ':' :: after).takeWhile (· ≠ ':') = before := by
  have hall : ∀ c ∈ before, decide (c ≠ ':') = true := by
    intro c hc
    rw [decide_eq_true_eq]
    rintro rfl
    exact h hc
  rw [List.takeWhile_append_of_pos hall]
  simp

/-- The malformed segments state no declaration, and the others do. -/
theorem ofSegment?_eq_none_iff : ofSegment? segment = none ↔ IsMalformed segment := by
  rw [Option.eq_none_iff_forall_ne_some, IsMalformed]
  constructor
  · intro hnone
    by_cases hcolon : ':' ∈ segment
    · obtain ⟨before, after, rfl, hbefore⟩ := List.eq_append_cons_of_mem hcolon
      right
      rw [takeWhile_append_colon hbefore]
      by_contra hne
      exact hnone _ (ofSegment?_eq_some_iff.2 ⟨before, after, rfl, hbefore, hne, rfl⟩)
    · exact .inl hcolon
  · rintro hmalformed d hstated
    obtain ⟨before, after, rfl, hbefore, hne, -⟩ := ofSegment?_eq_some_iff.1 hstated
    rw [takeWhile_append_colon hbefore] at hmalformed
    rcases hmalformed with hcolon | hblank
    · simp at hcolon
    · exact hne hblank

/-- A segment is malformed with blanks around it if it is without them. -/
theorem isMalformed_trim : IsMalformed (Text.trim segment) ↔ IsMalformed segment := by
  rw [← ofSegment?_eq_none_iff, ← ofSegment?_eq_none_iff, ofSegment?_trim]

end Declaration

namespace Declarations

variable {block : Declarations}

/-- The lenient reading reports the malformed segments in the order of the text. -/
theorem malformedSegments_eq (text : Text) :
    malformedSegments text = (segments text).filter fun segment =>
      Declaration.IsMalformed segment := by
  refine List.filter_congr ?_
  intro segment _
  rw [Bool.eq_iff_iff, decide_eq_true_iff, ← Declaration.ofSegment?_eq_none_iff,
    Option.isNone_iff_eq_none]

/-- The segments of some kind are the parts between semicolons that are not blank and are of
this kind when they are trimmed. -/
theorem filter_segments (p : Text → Prop) [DecidablePred p] (text : Text) :
    ((segments text).filter fun segment => p segment)
      = ((Text.splitOn ';' text).filter fun part =>
          Text.trim part ≠ [] ∧ p (Text.trim part)).map Text.trim := by
  rw [segments, List.filter_filter, List.filter_map]
  refine congrArg (List.map Text.trim) (List.filter_congr ?_)
  intro part _
  rw [Bool.eq_iff_iff]
  simp [and_comm]

/-- The malformed segments are the malformed parts between semicolons that are not blank,
trimmed. -/
theorem malformedSegments_eq_map (text : Text) :
    malformedSegments text
      = ((Text.splitOn ';' text).filter fun part =>
          Text.trim part ≠ [] ∧ Declaration.IsMalformed part).map Text.trim := by
  rw [malformedSegments_eq, filter_segments]
  simp only [Declaration.isMalformed_trim]

/-! ## Without them -/

/-- The text without its malformed segments, and without a semicolon for each. -/
def withoutMalformed (text : Text) : Text :=
  List.intercalate [';'] <| (Text.splitOn ';' text).filter fun part =>
    ¬ (Text.trim part ≠ [] ∧ Declaration.IsMalformed part)

/-- The segments that are left are the others, in their order. -/
theorem segments_withoutMalformed (text : Text) :
    segments (withoutMalformed text) = (segments text).filter fun segment =>
      ¬ Declaration.IsMalformed segment := by
  have hparts : ∀ part ∈ (Text.splitOn ';' text).filter fun part =>
      ¬ (Text.trim part ≠ [] ∧ Declaration.IsMalformed part), ';' ∉ part :=
    fun part hpart => Text.notMem_of_mem_splitOn (List.mem_of_mem_filter hpart)
  rw [withoutMalformed, segments_join hparts, filter_segments, List.filter_map,
    List.filter_filter]
  refine congrArg (List.map Text.trim) (List.filter_congr ?_)
  intro part _
  rw [Bool.eq_iff_iff]
  by_cases hblank : Text.trim part = []
  · simp [hblank]
  · simp [hblank, Declaration.isMalformed_trim]

example : withoutMalformed " a:1; junk ;; :x;b:2".toList = " a:1;;b:2".toList := by
  decide +kernel

/-- **What the lenient reading yields is what the strict one does without the malformed
segments.** -/
theorem parse_withoutMalformed (text : Text) :
    parse (withoutMalformed text) = .ok (salvage text) := by
  rw [parse_eq_ok_iff, malformedSegments_eq, segments_withoutMalformed, salvage, salvage,
    segments_withoutMalformed]
  constructor
  · simp [List.filter_filter]
  · rw [List.filterMap_filter]
    refine congrArg OrderedMap.ofList (List.filterMap_congr ?_)
    intro segment _
    by_cases h : Declaration.IsMalformed segment
    · simp [h, Declaration.ofSegment?_eq_none_iff.2 h]
    · simp [h]

/-! ## Written blocks -/

/-- **A written block has no malformed segments.** -/
theorem malformedSegments_render (h : block.IsWritable) : malformedSegments block.render = [] := by
  by_cases hne : block.entries = []
  · rw [render, hne]
    rfl
  · have hparts : Text.splitOn ';' block.render = block.entries.map Declaration.render :=
      splitOn_renderDeclarations hne fun d hd => (h.forall_mem d hd).semicolon_notMem_render
    rw [malformedSegments, List.filter_eq_nil_iff]
    intro segment hsegment
    rw [segments, hparts, List.map_map] at hsegment
    obtain ⟨d, hd, rfl⟩ := List.mem_map.1 (List.mem_filter.1 hsegment).1
    rw [Function.comp_apply, Declaration.ofSegment?_trim, (h.forall_mem d hd).ofSegment?_render]
    simp

end Declarations

/-! ## What is reported -/

namespace StyleAttribute

open Declarations

variable {rule : Declarations}

/-- An attribute that a writable rule has been written into has no malformed segments. -/
theorem droppedByMerge_merge (h : rule.IsWritable) (style : Option Text) :
    droppedByMerge (some (merge style rule)) = [] := by
  have hsalvage := (isWellFormed_salvage (style.getD [])).isWritable
  rw [droppedByMerge, dropped, Option.getD_some, merge,
    malformedSegments_render (hsalvage.merge h)]
  rfl

/-- **The strict and the lenient reading agree.**  A text is read strictly when the lenient
reading reports nothing, as the same block.  It is refused when there is a report, for the
segment that is reported first.  In both cases the lenient reading yields what the strict one
does without the malformed segments, and reports these, trimmed and in their order. -/
theorem parse_iff_dropped (style : Text) :
    (∀ block, parse style = .ok block ↔ dropped style = [] ∧ salvage style = block) ∧
    (∀ e, parse style = .error e ↔
      ∃ first later, dropped style = first :: later ∧ e = .malformedDeclaration first.segment) ∧
    parse (withoutMalformed style) = .ok (salvage style) ∧
    dropped style = ((Text.splitOn ';' style).filter fun part =>
      Text.trim part ≠ [] ∧ Declaration.IsMalformed part).map fun part => ⟨Text.trim part⟩ := by
  refine ⟨?_, ?_, parse_withoutMalformed style, ?_⟩
  · intro block
    rw [parse_eq_ok_iff, dropped, List.map_eq_nil_iff]
  · intro e
    rw [parse_eq_error_iff, dropped]
    cases malformedSegments style <;> simp
  · rw [dropped, malformedSegments_eq_map, List.map_map]
    rfl

end StyleAttribute

end StyleInline
