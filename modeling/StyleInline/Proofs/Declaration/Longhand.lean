import Mathlib.Data.List.TakeDrop
import StyleInline.Declaration.Shorthand
import StyleInline.Proofs.Declaration.RoundTrip
import StyleInline.Proofs.Stylesheet.CommentFree

/-!
# Longhands

What a shorthand writes is not expanded again: the property is no shorthand, and the value
is a part of the value it came from.  The exception is a blank `margin` or `padding`, which
writes itself.  A size and a line height need not be trimmed, since the token they are the
halves of may hold blanks other than spaces; they are when the value of `font` has none.

## Main definitions

* `Shorthand.IsLonghand`, `Shorthand.IsToken` — the properties and values that shorthands
  write.
* `Declaration.IsExpanded` — the declarations that write themselves.
* `Declaration.IsSettled` — the declarations that are read back from a sheet and write
  themselves.

## Main results

* `Declaration.mem_longhands` — what the other declarations write.
* `Declaration.isSettled_of_mem_longhands` — longhands are settled.
* `Declarations.isSettled_expand` — an expanded block of a sheet is settled.
-/

namespace StyleInline

/-- The only blanks of the text are spaces. -/
def Text.IsSpaced (text : Text) : Prop := ∀ c ∈ text, isBlank c = true → c = ' '

instance (text : Text) : Decidable text.IsSpaced :=
  List.decidableBAll (fun c => Text.isBlank c = true → c = ' ') text

/-- A declaration that can be read back from a sheet and has nothing to expand. -/
structure Declaration.IsSettled (d : Declaration) : Prop where
  isWellFormed : d.IsWellFormed
  isPlain_property : Text.IsPlain d.1
  isPlain_value : Text.IsPlain d.2
  longhands_eq : d.longhands = [d]

namespace Shorthand

variable {property shorthand suffix value token part : Text} {suffixes : List Text}
  {e : Declaration}

/-! ## Properties and values -/

/-- The properties that are shorthands. -/
def properties : List Text := positionalTable.map Prod.fst ++ "font".toList :: boxTable

/-- A property that keeps its shape when it is written and read, and is no shorthand. -/
def IsLonghand (property : Text) : Prop :=
  Declaration.IsWellFormed (property, []) ∧ property.IsPlain ∧ property ∉ properties

instance (property : Text) : Decidable (IsLonghand property) :=
  inferInstanceAs (Decidable (_ ∧ _ ∧ _))

/-- A value that keeps its shape when it is written and read. -/
structure IsToken (value : Text) : Prop where
  trim_eq : Text.trim value = value
  semicolon_notMem : ';' ∉ value
  isPlain : value.IsPlain

/-- A part of a token is a token if it is trimmed. -/
theorem IsToken.of_infix (h : IsToken value) (htrim : Text.trim part = part)
    (hpart : part <:+: value) : IsToken part where
  trim_eq := htrim
  semicolon_notMem := by
    intro hmem
    exact h.semicolon_notMem (hpart.subset hmem)
  isPlain := h.isPlain.of_infix hpart

/-- A property that is no shorthand writes itself. -/
theorem longhands_of_notMem {d : Declaration} (h : d.1 ∉ properties) : d.longhands = [d] := by
  rw [properties, List.mem_append, List.mem_cons, not_or, not_or] at h
  obtain ⟨htable, hfont, hbox⟩ := h
  have hlookup : positionalTable.lookup d.1 = none := by
    rw [List.lookup_eq_none_iff]
    intro entry hentry
    rw [bne_iff_ne]
    intro hd
    exact htable (List.mem_map.2 ⟨entry, hentry, hd.symm⟩)
  rw [Declaration.longhands, hlookup]
  simp only [if_neg hfont, if_neg hbox]

/-- A longhand with a token for its value is settled. -/
theorem IsLonghand.isSettled (h : IsLonghand property) (hvalue : IsToken value) :
    Declaration.IsSettled (property, value) where
  isWellFormed := { h.1 with
    trim_value := hvalue.trim_eq
    semicolon_notMem_value := hvalue.semicolon_notMem }
  isPlain_property := h.2.1
  isPlain_value := hvalue.isPlain
  longhands_eq := longhands_of_notMem h.2.2

/-! ## Parts of values -/

/-- The parts of the value of a shorthand that longhands get: its tokens between spaces, its
words, and the parts of a token of `font` around slashes. -/
inductive Part (property value : Text) : Text → Prop
  | token {part : Text} (h : part ∈ Text.spacedTokens value) : Part property value part
  | word {part : Text} (h : part ∈ Text.words value) : Part property value part
  | half {token part : Text} (hfont : property = "font".toList)
      (htoken : token ∈ Text.spacedTokens value) (h : part ∈ Text.splitOn '/' token) :
      Part property value part

/-- A part stands in the value. -/
theorem Part.isInfix (h : Part property value part) : part <:+: value := by
  cases h with
  | token h => exact (Text.mem_trimmed_splitOn h).2.2.2
  | word h => exact (Text.mem_nonEmptyFields h).2.2
  | half hfont htoken h =>
    exact (Text.infix_of_mem_fields h).trans (Text.mem_trimmed_splitOn htoken).2.2.2

/-- The parts of a spaced text between spaces hold no blanks. -/
theorem isBlank_of_mem_spacedTokens (hvalue : value.IsSpaced)
    (h : token ∈ Text.spacedTokens value) : ∀ c ∈ token, Text.isBlank c = false := by
  obtain ⟨-, -, hspace, hpart⟩ := Text.mem_trimmed_splitOn h
  intro c hc
  by_contra hblank
  rw [Bool.not_eq_false] at hblank
  exact hspace (hvalue c (hpart.subset hc) hblank ▸ hc)

/-- The parts of a token are tokens, if `font` has no blanks but spaces in it. -/
theorem Part.isToken (h : Part property value part) (hvalue : IsToken value)
    (hfont : property = "font".toList → value.IsSpaced) : IsToken part := by
  refine hvalue.of_infix ?_ h.isInfix
  cases h with
  | token h => exact (Text.mem_trimmed_splitOn h).1
  | word h => exact Text.trim_eq_self_of_forall (Text.mem_nonEmptyFields h).2.1
  | half hname htoken h =>
    have hblank := isBlank_of_mem_spacedTokens (hfont hname) htoken
    refine Text.trim_eq_self_of_forall ?_
    intro c hc
    exact hblank c ((Text.infix_of_mem_fields h).subset hc)

/-! ## By position -/

theorem isLonghand_of_mem_positionalTable :
    ∀ entry ∈ positionalTable, ∀ suffix ∈ entry.2, IsLonghand (longhand entry.1 suffix) := by
  decide +kernel

theorem ne_fontSize_of_mem_positionalTable : ∀ entry ∈ positionalTable, ∀ suffix ∈ entry.2,
    longhand entry.1 suffix ≠ "font-size".toList := by
  decide +kernel

theorem isLonghand_of_mem_fontSuffixes :
    ∀ suffix ∈ fontSuffixes, IsLonghand (longhand "font".toList suffix) := by
  decide +kernel

/-- A size token writes itself, or its two halves. -/
theorem mem_sizeWrites (h : e ∈ sizeWrites token) :
    IsLonghand e.1 ∧ (e.2 = token ∨ e.2 ∈ Text.splitOn '/' token) := by
  have hsize : IsLonghand "font-size".toList := by decide +kernel
  have hline : IsLonghand "line-height".toList := by decide +kernel
  rw [sizeWrites] at h
  split at h
  · next size lineHeight hhalves =>
    have hsplit : Text.splitOn '/' token = [size, lineHeight] := by
      rw [lineHeightHalves?] at hhalves
      split at hhalves
      · next hsplit =>
        cases hhalves
        exact hsplit
      · cases hhalves
    rw [List.mem_pair] at h
    rcases h with rfl | rfl
    · exact ⟨hline, .inr (by simp [hsplit])⟩
    · exact ⟨hsize, .inr (by simp [hsplit])⟩
  · rw [List.mem_singleton] at h
    subst h
    exact ⟨hsize, .inl rfl⟩

/-- What is written by position are longhands with parts of the value; only `font` writes a
size. -/
theorem mem_positional
    (hsuffixes : ∀ suffix ∈ suffixes, IsLonghand (longhand shorthand suffix))
    (hsize : ∀ suffix ∈ suffixes, longhand shorthand suffix = "font-size".toList →
      shorthand = "font".toList)
    (h : e ∈ positional shorthand value suffixes) :
    IsLonghand e.1 ∧ Part shorthand value e.2 := by
  obtain ⟨⟨suffix, token⟩, hzip, he⟩ := List.mem_flatMap.1 h
  obtain ⟨hsuffix, htoken⟩ := List.of_mem_zip hzip
  change e ∈ positionalWrites shorthand suffix token at he
  rw [positionalWrites] at he
  split at he
  · next hname =>
    obtain ⟨hlonghand, hwhole | hhalf⟩ := mem_sizeWrites he
    · exact ⟨hlonghand, .token (hwhole ▸ htoken)⟩
    · exact ⟨hlonghand, .half (hsize suffix hsuffix hname) htoken hhalf⟩
  · rw [List.mem_singleton] at he
    subst he
    exact ⟨hsuffixes suffix hsuffix, .token htoken⟩

/-! ## Around the slash -/

/-- What `font` writes are longhands with parts of its value. -/
theorem mem_font (h : e ∈ font value) : IsLonghand e.1 ∧ Part "font".toList value e.2 := by
  rw [font] at h
  split at h
  · exact mem_positional isLonghand_of_mem_fontSuffixes (fun _ _ _ => rfl) h
  · next before size after hslash =>
    have htokens : before ++ size :: after = Text.spacedTokens value := by
      rw [beforeSlash, List.span_eq_takeWhile_dropWhile, Prod.mk.injEq] at hslash
      rw [← hslash.1, ← hslash.2, List.takeWhile_append_dropWhile]
    rw [List.mem_append, List.mem_append] at h
    rcases h with (h | h) | h
    · obtain ⟨⟨suffix, token⟩, hzip, rfl⟩ := List.mem_map.1 h
      obtain ⟨hsuffix, hbefore⟩ := List.of_mem_zip (List.mem_of_mem_take hzip)
      exact ⟨isLonghand_of_mem_fontSuffixes suffix hsuffix, .token (by simp [← htokens, hbefore])⟩
    · have htoken : size ∈ Text.spacedTokens value := by simp [← htokens]
      obtain ⟨hlonghand, hwhole | hhalf⟩ := mem_sizeWrites h
      · exact ⟨hlonghand, .token (hwhole ▸ htoken)⟩
      · exact ⟨hlonghand, .half rfl htoken hhalf⟩
    · obtain ⟨family, hfamily, rfl⟩ := List.mem_map.1 h
      have hlonghand : IsLonghand "font-family".toList := by decide +kernel
      have hafter : family ∈ after := List.mem_of_mem_take hfamily
      exact ⟨hlonghand, .token (by simp [← htokens, hafter])⟩

/-! ## Around the edges -/

/-- The edges of a box. -/
def sides : List Text := ["top".toList, "bottom".toList, "right".toList, "left".toList]

theorem isLonghand_of_mem_boxTable :
    ∀ shorthand ∈ boxTable, ∀ side ∈ sides, IsLonghand (longhand shorthand side) := by
  decide +kernel

theorem box_of_blank (h : Text.trim value = []) : box shorthand value = [(shorthand, value)] := by
  rw [box, Text.words_eq_nil_iff.2 h]

/-- A box writes itself when its value is blank, and otherwise gives edges words of the
value. -/
theorem mem_box (h : e ∈ box shorthand value) :
    Text.trim value = [] ∧ e = (shorthand, value) ∨
      ∃ side ∈ sides, ∃ word ∈ Text.words value, e = (longhand shorthand side, word) := by
  rw [box] at h
  split at h
  · next hwords =>
    rw [List.mem_singleton] at h
    exact .inl ⟨Text.words_eq_nil_iff.1 hwords, h⟩
  all_goals
    next hwords =>
    simp only [List.mem_cons, List.not_mem_nil, or_false] at h
    right
    rcases h with rfl | rfl | rfl | rfl
    all_goals exact ⟨_, by simp [sides], _, by simp [hwords], rfl⟩

end Shorthand

/-! ## Declarations -/

namespace Declaration

open Shorthand

variable {shorthand value : Text} {suffixes : List Text} {d e : Declaration}

/-! ### The kinds of declarations -/

theorem lookup_of_mem_positionalTable :
    ∀ entry ∈ positionalTable, positionalTable.lookup entry.1 = some entry.2 := by
  decide +kernel

theorem longhands_of_mem_positionalTable (h : (shorthand, suffixes) ∈ positionalTable) :
    longhands (shorthand, value) = positional shorthand value suffixes := by
  rw [longhands, lookup_of_mem_positionalTable _ h]

theorem longhands_font (value : Text) : longhands ("font".toList, value) = font value := rfl

theorem lookup_of_mem_boxTable : ∀ shorthand ∈ boxTable,
    positionalTable.lookup shorthand = none ∧ shorthand ≠ "font".toList := by
  decide +kernel

theorem longhands_of_mem_boxTable (h : shorthand ∈ boxTable) :
    longhands (shorthand, value) = box shorthand value := by
  obtain ⟨hlookup, hfont⟩ := lookup_of_mem_boxTable shorthand h
  simp only [longhands, hlookup, if_neg hfont, if_pos h]

/-- Every declaration is of one of four kinds. -/
theorem kind_cases (property : Text) :
    (∃ suffixes, (property, suffixes) ∈ positionalTable) ∨ property = "font".toList ∨
      property ∈ boxTable ∨ property ∉ properties := by
  by_cases h : property ∈ properties
  · rw [properties, List.mem_append, List.mem_cons, List.mem_map] at h
    rcases h with ⟨⟨shorthand, suffixes⟩, hmem, rfl⟩ | hfont | hbox
    · exact .inl ⟨suffixes, hmem⟩
    · exact .inr (.inl hfont)
    · exact .inr (.inr (.inl hbox))
  · exact .inr (.inr (.inr h))

/-! ### What they write -/

/-- There is nothing to expand: the property is no shorthand, or it is one of a box and its
value is blank. -/
def IsExpanded (d : Declaration) : Prop :=
  d.1 ∉ properties ∨ d.1 ∈ boxTable ∧ Text.trim d.2 = []

/-- Where there is nothing to expand, a declaration writes itself. -/
theorem IsExpanded.longhands_eq (h : d.IsExpanded) : d.longhands = [d] := by
  rcases h with hnone | ⟨hbox, hblank⟩
  · exact longhands_of_notMem hnone
  · rw [longhands_of_mem_boxTable hbox, box_of_blank hblank]

/-- A declaration with nothing to expand writes itself, and any other writes longhands with
parts of its value. -/
theorem mem_longhands (h : e ∈ d.longhands) :
    d.IsExpanded ∧ e = d ∨ IsLonghand e.1 ∧ Part d.1 d.2 e.2 := by
  obtain ⟨property, value⟩ := d
  rcases kind_cases property with ⟨suffixes, htable⟩ | rfl | hbox | hnone
  · rw [longhands_of_mem_positionalTable htable] at h
    refine .inr (mem_positional (isLonghand_of_mem_positionalTable _ htable) ?_ h)
    intro suffix hsuffix hsize
    exact absurd hsize (ne_fontSize_of_mem_positionalTable _ htable suffix hsuffix)
  · exact .inr (mem_font h)
  · rw [longhands_of_mem_boxTable hbox] at h
    rcases mem_box h with ⟨hblank, rfl⟩ | ⟨side, hside, word, hword, rfl⟩
    · exact .inl ⟨.inr ⟨hbox, hblank⟩, rfl⟩
    · exact .inr ⟨isLonghand_of_mem_boxTable _ hbox side hside, .word hword⟩
  · rw [longhands_of_notMem hnone, List.mem_singleton] at h
    exact .inl ⟨.inl hnone, h⟩

/-- **Longhands are settled**: what a declaration of a sheet writes is read back from the
sheet and writes itself, if `font` has no blanks but spaces in its value. -/
theorem isSettled_of_mem_longhands (hd : d.IsWellFormed) (hproperty : Text.IsPlain d.1)
    (hvalue : Text.IsPlain d.2) (hfont : d.1 = "font".toList → Text.IsSpaced d.2)
    (h : e ∈ d.longhands) : e.IsSettled := by
  have htoken : IsToken d.2 := ⟨hd.trim_value, hd.semicolon_notMem_value, hvalue⟩
  rcases mem_longhands h with ⟨hexpanded, rfl⟩ | ⟨hlonghand, hpart⟩
  · exact ⟨hd, hproperty, hvalue, hexpanded.longhands_eq⟩
  · exact hlonghand.isSettled (hpart.isToken htoken hfont)

/-- A settled declaration is written as a plain text. -/
theorem IsSettled.isPlain_render (h : d.IsSettled) : Text.IsPlain d.render :=
  h.isPlain_property.append_cons h.isPlain_value (.inl rfl)

end Declaration

/-! ## Blocks -/

namespace Declarations

variable {block rule : Declarations} {ds : List Declaration} {text : Text} {d : Declaration}

/-- No property stands twice and every declaration is settled. -/
structure IsSettled (block : Declarations) : Prop where
  distinct : block.Distinct
  forall_mem : ∀ d ∈ block.entries, Declaration.IsSettled d

theorem isSettled_empty : IsSettled OrderedMap.empty := ⟨OrderedMap.distinct_empty, by simp⟩

theorem IsSettled.isWellFormed (h : block.IsSettled) : block.IsWellFormed :=
  ⟨h.distinct, fun d hd => (h.forall_mem d hd).isWellFormed⟩

/-- Writing a settled block over another keeps it settled. -/
theorem IsSettled.merge (h : block.IsSettled) (hrule : rule.IsSettled) :
    IsSettled (OrderedMap.merge block rule) :=
  ⟨OrderedMap.distinct_merge h.distinct rule,
    OrderedMap.forall_mem_merge h.forall_mem hrule.forall_mem⟩

/-- A declaration that is read from a plain text has a plain property and a plain value. -/
theorem isPlain_of_parse (h : parse text = .ok block) (htext : text.IsPlain)
    (hd : d ∈ block.entries) : Text.IsPlain d.1 ∧ Text.IsPlain d.2 := by
  obtain ⟨segment, hsegment, hstated⟩ := exists_segment_of_parse h hd
  obtain ⟨before, after, rfl, -, -, rfl⟩ := Declaration.ofSegment?_eq_some_iff.1 hstated
  have hplain := htext.of_infix (mem_segments hsegment).2.2.2
  have hbefore : before <:+: before ++ ':' :: after := (List.prefix_append _ _).isInfix
  have hafter : after <:+: before ++ ':' :: after := ⟨before ++ [':'], [], by simp⟩
  constructor
  · exact (hplain.of_infix ((Text.trim_isInfix before).trans hbefore)).lower
  · exact hplain.of_infix ((Text.trim_isInfix after).trans hafter)

/-- **What is read from a plain text is settled once it is expanded**, if the values of
`font` have no blanks but spaces. -/
theorem isSettled_expand (h : parse text = .ok block) (htext : text.IsPlain)
    (hfont : ∀ d ∈ block.entries, d.1 = "font".toList → Text.IsSpaced d.2) :
    IsSettled (expand block) := by
  refine ⟨OrderedMap.distinct_ofList _, ?_⟩
  intro e he
  obtain ⟨d, hd, he⟩ := List.mem_flatMap.1 (OrderedMap.mem_entries_ofList he)
  obtain ⟨hproperty, hvalue⟩ := isPlain_of_parse h htext hd
  exact Declaration.isSettled_of_mem_longhands ((isWellFormed_of_parse h).forall_mem d hd)
    hproperty hvalue (hfont d hd) he

/-- Settled declarations are written as a plain text. -/
theorem isPlain_renderDeclarations (h : ∀ d ∈ ds, Declaration.IsSettled d) :
    Text.IsPlain (renderDeclarations ds) := by
  induction ds with
  | nil => decide
  | cons d ds ih =>
    obtain ⟨hd, hlater⟩ := List.forall_mem_cons.1 h
    cases ds with
    | nil => exact hd.isPlain_render
    | cons e rest => exact hd.isPlain_render.append_cons (ih hlater) (.inr rfl)

theorem IsSettled.isPlain_render (h : block.IsSettled) : Text.IsPlain block.render :=
  isPlain_renderDeclarations h.forall_mem

end Declarations

end StyleInline
