import StyleInline.Declaration.StyleAttribute
import StyleInline.Proofs.OrderedMap.Merge
import StyleInline.Proofs.Text.TrimmedParts

/-!
# Writing and reading declarations

What is read of a list of declarations, strictly or leniently, is well formed, and a block
that is well formed is read back from its written form.  So nothing is lost when a `style`
attribute is written after one rule and read again for the next.

## Main definitions

* `Declarations.IsWellFormed` — no property twice, and every declaration well formed.

## Main results

* `Declarations.salvage_render`, `Declarations.parse_render` — both readings undo writing.
* `Declarations.parse_render_eq_ok_iff` — the blocks that are read back.
-/

namespace StyleInline

/-! ## One declaration -/

namespace Declaration

variable {d : Declaration} {segment : Text}

theorem isWellFormed_iff :
    d.IsWellFormed ↔ d.1 ≠ [] ∧ Text.trim d.1 = d.1 ∧ Text.lower d.1 = d.1 ∧ ':' ∉ d.1 ∧
      ';' ∉ d.1 ∧ Text.trim d.2 = d.2 ∧ ';' ∉ d.2 :=
  ⟨fun ⟨h₁, h₂, h₃, h₄, h₅, h₆, h₇⟩ => ⟨h₁, h₂, h₃, h₄, h₅, h₆, h₇⟩,
    fun ⟨h₁, h₂, h₃, h₄, h₅, h₆, h₇⟩ => ⟨h₁, h₂, h₃, h₄, h₅, h₆, h₇⟩⟩

instance (d : Declaration) : Decidable d.IsWellFormed := decidable_of_iff' _ isWellFormed_iff

/-- A well formed declaration is written as a trimmed text. -/
theorem trim_render (h : d.IsWellFormed) : Text.trim d.render = d.render := by
  obtain ⟨c, property, hd⟩ := List.exists_cons_of_ne_nil h.property_ne_nil
  have hproperty := (Text.trim_eq_self_iff.1 h.trim_property).1
  have hvalue := (Text.trim_eq_self_iff.1 h.trim_value).2
  rw [Text.trim_eq_self_iff, render]
  constructor
  · simpa [hd] using hproperty
  · cases hv : d.2 with
    | nil => simp; decide
    | cons a rest => simpa [hv, List.getLast?_append, List.getLast?_cons] using hvalue

theorem render_ne_nil (d : Declaration) : d.render ≠ [] := by simp [render]

theorem semicolon_notMem_render (h : d.IsWellFormed) : ';' ∉ d.render := by
  simp [render, h.semicolon_notMem_property, h.semicolon_notMem_value]

/-- A segment states a declaration when something stands before its first colon. -/
theorem ofSegment?_eq_some_iff :
    ofSegment? segment = some d ↔
      ∃ before after, segment = before ++ ':' :: after ∧ ':' ∉ before ∧ Text.trim before ≠ [] ∧
        d = (Text.lower (Text.trim before), Text.trim after) := by
  rw [ofSegment?]
  constructor
  · intro h
    split at h
    · cases h
    · next before after hcut =>
      obtain ⟨hsegment, hcolon⟩ := Text.cut?_eq_some_iff.1 hcut
      split at h
      · cases h
      · next hne =>
        cases h
        exact ⟨before, after, hsegment, hcolon, hne, rfl⟩
  · rintro ⟨before, after, hsegment, hcolon, hne, rfl⟩
    rw [Text.cut?_eq_some_iff.2 ⟨hsegment, hcolon⟩]
    obtain ⟨c, property, hproperty⟩ := List.exists_cons_of_ne_nil hne
    simp only [hproperty]

/-- A well formed declaration is read back from its written form. -/
theorem ofSegment?_render (h : d.IsWellFormed) : ofSegment? d.render = some d := by
  refine ofSegment?_eq_some_iff.2 ⟨d.1, d.2, rfl, h.colon_notMem, ?_, ?_⟩
  · rw [h.trim_property]
    exact h.property_ne_nil
  · rw [h.trim_property, h.lower_property, h.trim_value]

/-- What a segment states is well formed. -/
theorem isWellFormed_of_ofSegment? (hs : ';' ∉ segment) (h : ofSegment? segment = some d) :
    d.IsWellFormed := by
  obtain ⟨before, after, rfl, hcolon, hne, rfl⟩ := ofSegment?_eq_some_iff.1 h
  rw [List.mem_append, not_or] at hs
  have hmem {c : Char} (hc : ¬ (97 ≤ c.toNat ∧ c.toNat ≤ 122))
      (h : c ∈ Text.lower (Text.trim before)) : c ∈ before :=
    Text.mem_of_mem_trim (Text.mem_of_mem_lower hc h)
  exact {
    property_ne_nil := fun h => hne (List.map_eq_nil_iff.1 h)
    trim_property := by rw [Text.trim_lower, Text.trim_trim]
    lower_property := Text.lower_lower _
    colon_notMem := fun h => hcolon (hmem (by decide) h)
    semicolon_notMem_property := fun h => hs.1 (hmem (by decide) h)
    trim_value := Text.trim_trim after
    semicolon_notMem_value := fun h =>
      hs.2 (List.mem_cons_of_mem ':' (Text.mem_of_mem_trim h)) }

end Declaration

/-! ## Lists of declarations -/

namespace Declarations

variable {ds : List Declaration} {block rule : Declarations} {text segment : Text}

/-- A segment is trimmed, is not empty, holds no semicolon and stands in the text. -/
theorem mem_segments (h : segment ∈ segments text) :
    Text.trim segment = segment ∧ segment ≠ [] ∧ ';' ∉ segment ∧ segment <:+: text :=
  Text.mem_trimmed_splitOn h

/-- Blanks around a list of declarations are not seen. -/
theorem segments_append_of_blank {before after : Text}
    (hbefore : ∀ c ∈ before, Text.isBlank c = true) (hafter : ∀ c ∈ after, Text.isBlank c = true) :
    segments (before ++ (text ++ after)) = segments text := by
  rw [segments, segments, Text.map_trim_splitOn_append_of_blank rfl hbefore hafter]

/-- The segments of parts joined by semicolons are the parts that are not blank, trimmed. -/
theorem segments_join {parts : List Text} (h : ∀ part ∈ parts, ';' ∉ part) :
    segments (List.intercalate [';'] parts) = (parts.map Text.trim).filter (!·.isEmpty) := by
  by_cases hne : parts = []
  · subst hne
    rfl
  · rw [segments, Text.splitOn_eq, List.splitOn_intercalate ';' h hne]

/-- Written declarations are joined by semicolons. -/
theorem renderDeclarations_eq (ds : List Declaration) :
    renderDeclarations ds = List.intercalate [';'] (ds.map Declaration.render) := by
  induction ds with
  | nil => rfl
  | cons d ds ih =>
    cases ds with
    | nil => simp [renderDeclarations]
    | cons e rest => simp [renderDeclarations, ih, List.intercalate_cons_cons]

/-- The parts of a written list between semicolons are the written declarations. -/
theorem splitOn_renderDeclarations (hne : ds ≠ []) (h : ∀ d ∈ ds, ';' ∉ Declaration.render d) :
    Text.splitOn ';' (renderDeclarations ds) = ds.map Declaration.render := by
  rw [renderDeclarations_eq, Text.splitOn_eq,
    List.splitOn_intercalate ';' (List.forall_mem_map.2 h) (by simpa using hne)]

/-- The segments of a written list are the written declarations. -/
theorem segments_render (h : ∀ d ∈ ds, Declaration.IsWellFormed d) :
    segments (renderDeclarations ds) = ds.map Declaration.render := by
  have hparts : ∀ part ∈ ds.map Declaration.render, ';' ∉ part :=
    List.forall_mem_map.2 fun d hd => Declaration.semicolon_notMem_render (h d hd)
  have htrim : (ds.map Declaration.render).map Text.trim = ds.map Declaration.render := by
    rw [List.map_map]
    exact List.map_congr_left fun d hd => Declaration.trim_render (h d hd)
  rw [renderDeclarations_eq, segments_join hparts, htrim, List.filter_eq_self]
  intro segment hsegment
  obtain ⟨d, -, rfl⟩ := List.mem_map.1 hsegment
  simpa using Declaration.render_ne_nil d

/-- Every written declaration is read back. -/
theorem filterMap_ofSegment?_map_render (h : ∀ d ∈ ds, Declaration.IsWellFormed d) :
    (ds.map Declaration.render).filterMap Declaration.ofSegment? = ds := by
  calc (ds.map Declaration.render).filterMap Declaration.ofSegment?
      = ds.filterMap fun d => Declaration.ofSegment? d.render := List.filterMap_map
    _ = ds.filterMap some :=
      List.filterMap_congr fun d hd => Declaration.ofSegment?_render (h d hd)
    _ = ds := List.filterMap_some

/-! ## Blocks -/

/-- No property stands twice and every declaration is well formed. -/
structure IsWellFormed (block : Declarations) : Prop where
  distinct : block.Distinct
  forall_mem : ∀ d ∈ block.entries, Declaration.IsWellFormed d

/-- What well formed declarations leave behind is well formed. -/
theorem isWellFormed_ofList (h : ∀ d ∈ ds, Declaration.IsWellFormed d) :
    IsWellFormed (OrderedMap.ofList ds) :=
  ⟨OrderedMap.distinct_ofList ds, fun d hd => h d (OrderedMap.mem_entries_ofList hd)⟩

/-- Writing well formed declarations keeps a block well formed. -/
theorem IsWellFormed.merge (h : block.IsWellFormed)
    (hrule : ∀ d ∈ rule.entries, Declaration.IsWellFormed d) :
    IsWellFormed (OrderedMap.merge block rule) :=
  ⟨OrderedMap.distinct_merge h.distinct rule, OrderedMap.forall_mem_merge h.forall_mem hrule⟩

/-- The lenient reading yields a well formed block. -/
theorem isWellFormed_salvage (text : Text) : IsWellFormed (salvage text) := by
  refine isWellFormed_ofList ?_
  intro d hd
  obtain ⟨segment, hsegment, hd⟩ := List.mem_filterMap.1 hd
  exact Declaration.isWellFormed_of_ofSegment? (mem_segments hsegment).2.2.1 hd

/-- A declaration that the strict reading yields is stated by a segment. -/
theorem exists_segment_of_parse (h : parse text = .ok block) {d : Declaration}
    (hd : d ∈ block.entries) :
    ∃ segment ∈ segments text, Declaration.ofSegment? segment = some d := by
  obtain ⟨-, rfl⟩ := parse_eq_ok_iff.1 h
  exact List.mem_filterMap.1 (OrderedMap.mem_entries_ofList hd)

/-- The strict reading yields a well formed block. -/
theorem isWellFormed_of_parse (h : parse text = .ok block) : block.IsWellFormed := by
  obtain ⟨-, rfl⟩ := parse_eq_ok_iff.1 h
  exact isWellFormed_salvage text

/-- A block is read from any text whose segments are its written declarations. -/
theorem parse_of_segments (h : block.IsWellFormed)
    (hsegments : segments text = block.entries.map Declaration.render) :
    parse text = .ok block := by
  rw [parse_eq_ok_iff, malformedSegments, salvage, hsegments,
    filterMap_ofSegment?_map_render h.forall_mem, List.filter_eq_nil_iff, List.forall_mem_map]
  refine ⟨?_, OrderedMap.ofList_entries h.distinct⟩
  intro d hd
  simp [Declaration.ofSegment?_render (h.forall_mem d hd)]

/-- The strict reading undoes writing. -/
theorem parse_render (h : block.IsWellFormed) : parse block.render = .ok block :=
  parse_of_segments h (segments_render h.forall_mem)

/-- The strict reading undoes writing between two spaces. -/
theorem parse_spaced_render (h : block.IsWellFormed) :
    parse (' ' :: (block.render ++ [' '])) = .ok block := by
  have hsegments : segments ([' '] ++ (block.render ++ [' '])) = segments block.render :=
    segments_append_of_blank Text.isBlank_of_mem_space Text.isBlank_of_mem_space
  exact parse_of_segments h (hsegments.trans (segments_render h.forall_mem))

/-- The lenient reading undoes writing. -/
theorem salvage_render (h : block.IsWellFormed) : salvage block.render = block :=
  (parse_eq_ok_iff.1 (parse_render h)).2

/-- **The blocks that are read back from their written form** are the well formed ones, and
every block that has been read from some text is one of them. -/
theorem parse_render_eq_ok_iff (block : Declarations) :
    (parse block.render = .ok block ↔
      block.Distinct ∧ ∀ d ∈ block.entries, Declaration.IsWellFormed d) ∧
    ∀ text, parse text = .ok block → parse block.render = .ok block := by
  refine ⟨⟨?_, ?_⟩, ?_⟩
  · intro h
    have hwellFormed := isWellFormed_of_parse h
    exact ⟨hwellFormed.distinct, hwellFormed.forall_mem⟩
  · rintro ⟨hdistinct, hentries⟩
    exact parse_render ⟨hdistinct, hentries⟩
  · intro text h
    exact parse_render (isWellFormed_of_parse h)

/-- A list with a property in capitals, a repetition, a value that is empty and one with a
colon in it. -/
def colonText : Text := " COLOR : Red;; margin:; color: a:b \t".toList

/-- What `colonText` declares. -/
def colonBlock : Declarations :=
  ⟨[("color".toList, "a:b".toList), ("margin".toList, [])]⟩

/-- The written form `color:a:b;margin:` is read back. -/
theorem parse_render_eq_ok_iff_colon :
    parse colonText = .ok colonBlock ∧ colonBlock.render = "color:a:b;margin:".toList ∧
      parse colonBlock.render = .ok colonBlock := by
  have hparse : parse colonText = .ok colonBlock := by decide +kernel
  exact ⟨hparse, by decide +kernel, (parse_render_eq_ok_iff colonBlock).2 colonText hparse⟩

end Declarations

end StyleInline
