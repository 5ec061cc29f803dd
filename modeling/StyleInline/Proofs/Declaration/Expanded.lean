import StyleInline.Proofs.Declaration.Longhand

/-!
# Expanded blocks

A block has nothing to expand when no property stands twice in it and no declaration is a
shorthand, blank `margin` and `padding` aside.  These blocks are the ones that expanding
leaves as they are, and expanding always yields one of them, whatever the values are: what a
shorthand writes is no shorthand, and a blank one writes itself.

## Main definitions

* `Declarations.IsExpanded` — the blocks of which expansion makes nothing else.

## Main results

* `Declaration.longhands_eq_self_iff` — the declarations that write themselves.
* `Declarations.expand_eq_self_iff` — the blocks that stay as they are.
* `Declarations.expand_expand` — a second expansion changes nothing.
-/

namespace StyleInline

/-! ## Declarations -/

namespace Declaration

variable {d e : Declaration}

/-- What a declaration writes has nothing to expand. -/
theorem isExpanded_of_mem_longhands (h : e ∈ d.longhands) : e.IsExpanded := by
  rcases mem_longhands h with ⟨hexpanded, rfl⟩ | ⟨hlonghand, -⟩
  · exact hexpanded
  · exact .inl hlonghand.2.2

/-- The declarations that write themselves are those with nothing to expand. -/
theorem longhands_eq_self_iff : d.longhands = [d] ↔ d.IsExpanded := by
  refine ⟨fun hself => ?_, IsExpanded.longhands_eq⟩
  have hmem : d ∈ d.longhands := by simp [hself]
  exact isExpanded_of_mem_longhands hmem

end Declaration

/-! ## Blocks -/

namespace Declarations

variable {block : Declarations}

/-- No property stands twice and no declaration has anything to expand. -/
structure IsExpanded (block : Declarations) : Prop where
  distinct : block.Distinct
  forall_mem : ∀ d ∈ block.entries, Declaration.IsExpanded d

/-- Expanding leaves nothing to expand. -/
theorem isExpanded_expand (block : Declarations) : block.expand.IsExpanded := by
  refine ⟨OrderedMap.distinct_ofList _, ?_⟩
  intro e he
  obtain ⟨d, -, he⟩ := List.mem_flatMap.1 (OrderedMap.mem_entries_ofList he)
  exact Declaration.isExpanded_of_mem_longhands he

/-- Where there is nothing to expand, a block stays as it is. -/
theorem IsExpanded.expand_eq (h : block.IsExpanded) : expand block = block := by
  have hentries : block.entries.flatMap Declaration.longhands = block.entries := by
    calc block.entries.flatMap Declaration.longhands
        = block.entries.flatMap fun d => [d] :=
          List.flatMap_congr fun d hd => (h.forall_mem d hd).longhands_eq
      _ = block.entries := List.flatMap_singleton' block.entries
  rw [expand, hentries, OrderedMap.ofList_entries h.distinct]

/-- **The blocks that expanding leaves as they are** are those with nothing to expand. -/
theorem expand_eq_self_iff : expand block = block ↔ block.IsExpanded := by
  refine ⟨fun hself => ?_, IsExpanded.expand_eq⟩
  rw [← hself]
  exact isExpanded_expand block

/-- There is nothing to expand in a settled block. -/
theorem IsSettled.isExpanded (h : block.IsSettled) : block.IsExpanded :=
  ⟨h.distinct, fun d hd => Declaration.longhands_eq_self_iff.1 (h.forall_mem d hd).longhands_eq⟩

/-- **A second expansion changes nothing**, neither a value nor a place, whatever the
declarations of the block are. -/
theorem expand_expand (block : Declarations) : expand (expand block) = expand block :=
  expand_eq_self_iff.2 (isExpanded_expand block)

end Declarations

end StyleInline
