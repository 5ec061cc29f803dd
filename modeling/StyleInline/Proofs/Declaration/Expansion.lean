import StyleInline.Proofs.Declaration.Longhand
import StyleInline.Proofs.Declaration.SourceOrder

/-!
# What shorthands stand for

The longhands of a declaration, said of the tokens of its value by their places: what each
edge gets of the words of a box, what stands around the first slash of `font`.  How the
tokens are handed out, and in which order the longhands are written, is left aside; since no
declaration writes a longhand twice, the order does not matter.

## Main definitions

* `Shorthand.Assigns`, `Shorthand.Edge`, `Shorthand.FontPart` — the three kinds of shorthand.
* `Declaration.Expands` — the properties that a declaration stands for, with their values.

## Main results

* `Declaration.mem_longhands_iff_expands` — a declaration writes what it stands for.
* `Declaration.nodup_keys_longhands` — it writes no property twice.
* `Declarations.get?_expand_eq_last` — what an expanded block declares.
-/

namespace StyleInline

namespace Shorthand

variable {shorthand value property part size lineHeight token : Text}
  {names suffixes tokens before after before' after' : List Text} {size' : Text}

/-! ## The three kinds -/

/-- The token that stands where `name` stands among the names. -/
def Assigns (names tokens : List Text) (name token : Text) : Prop :=
  ∃ i : Nat, names[i]? = some name ∧ tokens[i]? = some token

/-- What the edges of a box get of its words.  The top gets the first; right and bottom get
the second and the third, and the left gets the fourth.  Where that is missing, the left gets
what the right gets, and the others what the top gets. -/
inductive Edge (words : List Text) : (side word : Text) → Prop
  | top {first : Text} (h : words[0]? = some first) : Edge words "top".toList first
  | right {first : Text} (h : words[0]? = some first) :
    Edge words "right".toList (words[1]?.getD first)
  | bottom {first : Text} (h : words[0]? = some first) :
    Edge words "bottom".toList (words[2]?.getD first)
  | left {first : Text} (h : words[0]? = some first) :
    Edge words "left".toList (words[3]?.getD (words[1]?.getD first))

/-- `size` is the first token with a slash, and the others stand around it. -/
structure AroundSlash (tokens before : List Text) (size : Text) (after : List Text) : Prop where
  tokens_eq : tokens = before ++ size :: after
  slash_mem : '/' ∈ size
  slash_notMem : ∀ token ∈ before, '/' ∉ token

/-- The suffixes that the tokens before the size get. -/
def beforeSuffixes : List Text := ["style".toList, "variant".toList, "weight".toList]

/-- The longhands that `font` sets.  The first token with a slash is the size, and with
exactly one slash it is the size and the line height.  Up to three tokens before it are style,
variant and weight, and the one behind it is the family.  Without such a token all five go by
position. -/
inductive FontPart (tokens : List Text) : (property part : Text) → Prop
  | before {before after : List Text} {size suffix token : Text}
    (hslash : AroundSlash tokens before size after)
    (h : Assigns beforeSuffixes before suffix token) :
    FontPart tokens (longhand "font".toList suffix) token
  | whole {before after : List Text} {size : Text} (hslash : AroundSlash tokens before size after)
    (hcount : size.count '/' ≠ 1) : FontPart tokens "font-size".toList size
  | size {before after : List Text} {size lineHeight : Text}
    (hslash : AroundSlash tokens before (size ++ '/' :: lineHeight) after)
    (hsize : '/' ∉ size) (hline : '/' ∉ lineHeight) : FontPart tokens "font-size".toList size
  | lineHeight {before after : List Text} {size lineHeight : Text}
    (hslash : AroundSlash tokens before (size ++ '/' :: lineHeight) after)
    (hsize : '/' ∉ size) (hline : '/' ∉ lineHeight) :
    FontPart tokens "line-height".toList lineHeight
  | family {before after : List Text} {size family : Text}
    (hslash : AroundSlash tokens before size (family :: after)) :
    FontPart tokens "font-family".toList family
  | position {suffix token : Text} (hslash : ∀ token ∈ tokens, '/' ∉ token)
    (h : Assigns fontSuffixes tokens suffix token) :
    FontPart tokens (longhand "font".toList suffix) token

/-! ## By position -/

theorem mem_zip_iff_assigns :
    (property, part) ∈ names.zip tokens ↔ Assigns names tokens property part := by
  simp only [Assigns, List.mem_iff_getElem?, List.getElem?_zip_eq_some]

/-- The names that get a token are some of the names, in order. -/
theorem sublist_map_fst_zip : List.Sublist ((names.zip tokens).map Prod.fst) names := by
  rw [List.zip_eq_zip_take_min, List.map_fst_zip (by simp)]
  exact List.take_sublist _ _

/-- A token without a slash has no halves. -/
theorem lineHeightHalves?_of_notMem (h : '/' ∉ token) : lineHeightHalves? token = none := by
  rw [lineHeightHalves?, Text.splitOn_of_notMem h]

/-- Each longhand gets its token if no size is cut in halves. -/
theorem positional_eq_map
    (h : ∀ suffix ∈ suffixes, ∀ token ∈ Text.spacedTokens value,
      longhand shorthand suffix = "font-size".toList → lineHeightHalves? token = none) :
    positional shorthand value suffixes = (suffixes.zip (Text.spacedTokens value)).map
      fun (suffix, token) => (longhand shorthand suffix, token) := by
  rw [positional, List.map_eq_flatMap]
  refine List.flatMap_congr ?_
  rintro ⟨suffix, token⟩ hpair
  obtain ⟨hsuffix, htoken⟩ := List.of_mem_zip hpair
  change positionalWrites shorthand suffix token = [(longhand shorthand suffix, token)]
  rw [positionalWrites]
  split
  · next hsize => rw [sizeWrites, h suffix hsuffix token htoken hsize, hsize]
  · rfl

/-- What is handed out by position. -/
theorem mem_map_zip_iff :
    (property, part) ∈ (suffixes.zip tokens).map
        (fun (suffix, token) => (longhand shorthand suffix, token)) ↔
      ∃ suffix, Assigns suffixes tokens suffix part ∧ longhand shorthand suffix = property := by
  simp only [List.mem_map, Prod.exists, Prod.mk.injEq, mem_zip_iff_assigns]
  constructor
  · rintro ⟨suffix, token, h, hproperty, rfl⟩
    exact ⟨suffix, h, hproperty⟩
  · rintro ⟨suffix, h, hproperty⟩
    exact ⟨suffix, part, h, hproperty, rfl⟩

/-- The longhands that get a token by position. -/
theorem keys_map_zip : ((suffixes.zip tokens).map
      fun (suffix, token) => (longhand shorthand suffix, token)).map Prod.fst
    = ((suffixes.map (longhand shorthand)).zip tokens).map Prod.fst := by
  rw [List.zip_map_left, List.map_map, List.map_map]
  rfl

/-! ## Around the slash -/

/-- A token has two halves when it holds one slash, which stands between them. -/
theorem lineHeightHalves?_eq_some_iff :
    lineHeightHalves? token = some (size, lineHeight) ↔
      token = size ++ '/' :: lineHeight ∧ '/' ∉ size ∧ '/' ∉ lineHeight := by
  rw [lineHeightHalves?]
  constructor
  · intro h
    split at h
    · next hsplit =>
      cases h
      have hjoin : token = List.intercalate ['/'] [size, lineHeight] := by
        rw [← hsplit, Text.splitOn_eq, List.intercalate_splitOn]
      have hpart : ∀ part ∈ Text.splitOn '/' token, '/' ∉ part :=
        fun _ hmem => Text.notMem_of_mem_splitOn hmem
      rw [hsplit] at hpart
      exact ⟨by simpa [List.intercalate] using hjoin, hpart size (by simp),
        hpart lineHeight (by simp)⟩
    · cases h
  · rintro ⟨rfl, hsize, hline⟩
    rw [Text.splitOn_append_cons hsize, Text.splitOn_of_notMem hline]

/-- A token with a slash has no halves when it holds several. -/
theorem lineHeightHalves?_eq_none_iff (h : '/' ∈ token) :
    lineHeightHalves? token = none ↔ token.count '/' ≠ 1 := by
  obtain ⟨size, rest, rfl, hsize⟩ := List.eq_append_cons_of_mem h
  have hcount : (size ++ '/' :: rest).count '/' = rest.count '/' + 1 := by
    rw [List.count_append, List.count_eq_zero.2 hsize, List.count_cons_self, Nat.zero_add]
  rw [hcount, Option.eq_none_iff_forall_ne_some]
  constructor
  · intro hnone hone
    have hrest : '/' ∉ rest := List.count_eq_zero.1 (by omega)
    exact hnone (size, rest) (lineHeightHalves?_eq_some_iff.2 ⟨rfl, hsize, hrest⟩)
  · rintro hseveral ⟨size', lineHeight⟩ hhalves
    obtain ⟨heq, hsize', hline⟩ := lineHeightHalves?_eq_some_iff.1 hhalves
    have hcounts := congrArg (List.count '/') heq
    rw [hcount, List.count_append, List.count_eq_zero.2 hsize', List.count_cons_self,
      List.count_eq_zero.2 hline] at hcounts
    omega

/-- Where the tokens of `font` are cut. -/
theorem beforeSlash_eq_iff :
    beforeSlash tokens = (before, size :: after) ↔ AroundSlash tokens before size after := by
  rw [beforeSlash, List.span_eq_takeWhile_dropWhile, Prod.mk.injEq]
  constructor
  · rintro ⟨hbefore, hafter⟩
    refine ⟨?_, ?_, ?_⟩
    · rw [← hbefore, ← hafter, List.takeWhile_append_dropWhile]
    · have hhead := List.head?_dropWhile_not (fun token : Text => !token.contains '/') tokens
      rw [hafter] at hhead
      simpa using hhead
    · intro token htoken
      rw [← hbefore] at htoken
      simpa using List.mem_takeWhile_imp htoken
  · rintro ⟨rfl, hsize, hbefore⟩
    have hall : ∀ token ∈ before, (!token.contains '/') = true := by simpa using hbefore
    rw [List.takeWhile_append_of_pos hall, List.dropWhile_append_of_pos hall]
    simp [hsize]

/-- Nothing is cut off when no token has a slash. -/
theorem snd_beforeSlash_eq_nil_iff :
    (beforeSlash tokens).2 = [] ↔ ∀ token ∈ tokens, '/' ∉ token := by
  rw [beforeSlash, List.span_eq_takeWhile_dropWhile, List.dropWhile_eq_nil_iff]
  simp

theorem AroundSlash.mem (h : AroundSlash tokens before size after) : size ∈ tokens := by
  simp [h.tokens_eq]

/-- There is one first token with a slash. -/
theorem AroundSlash.unique (h : AroundSlash tokens before size after)
    (h' : AroundSlash tokens before' size' after') :
    before = before' ∧ size = size' ∧ after = after' := by
  have hcut := (beforeSlash_eq_iff.2 h).symm.trans (beforeSlash_eq_iff.2 h')
  rw [Prod.mk.injEq, List.cons.injEq] at hcut
  exact hcut

/-- What the size token of `font` writes. -/
theorem mem_sizeWrites_iff (h : '/' ∈ token) :
    (property, part) ∈ sizeWrites token ↔
      (token.count '/' ≠ 1 ∧ property = "font-size".toList ∧ part = token) ∨
      ∃ size lineHeight, token = size ++ '/' :: lineHeight ∧ '/' ∉ size ∧ '/' ∉ lineHeight ∧
        (property = "line-height".toList ∧ part = lineHeight ∨
          property = "font-size".toList ∧ part = size) := by
  rw [sizeWrites]
  cases hhalves : lineHeightHalves? token with
  | none =>
    have hcount := (lineHeightHalves?_eq_none_iff h).1 hhalves
    rw [List.mem_singleton, Prod.mk.injEq]
    constructor
    · exact fun hwhole => .inl ⟨hcount, hwhole⟩
    · rintro (⟨-, hwhole⟩ | ⟨size, lineHeight, htoken, hsize, hline, -⟩)
      · exact hwhole
      · rw [lineHeightHalves?_eq_some_iff.2 ⟨htoken, hsize, hline⟩] at hhalves
        cases hhalves
  | some halves =>
    obtain ⟨size, lineHeight⟩ := halves
    obtain ⟨htoken, hsize, hline⟩ := lineHeightHalves?_eq_some_iff.1 hhalves
    rw [List.mem_pair, Prod.mk.injEq, Prod.mk.injEq]
    constructor
    · exact fun hhalf => .inr ⟨size, lineHeight, htoken, hsize, hline, hhalf⟩
    · rintro (⟨hcount, -⟩ | ⟨size', lineHeight', htoken', hsize', hline', hhalf⟩)
      · rw [(lineHeightHalves?_eq_none_iff h).2 hcount] at hhalves
        cases hhalves
      · rw [lineHeightHalves?_eq_some_iff.2 ⟨htoken', hsize', hline'⟩] at hhalves
        cases hhalves
        exact hhalf

/-- What the tokens before the size write. -/
theorem take_zip_fontSuffixes (before : List Text) :
    (fontSuffixes.zip before).take 3 = beforeSuffixes.zip before := by
  rcases before with _ | ⟨_, _ | ⟨_, _ | ⟨_, _⟩⟩⟩ <;> rfl

/-- What `font` writes is what it stands for. -/
theorem mem_font_iff :
    (property, part) ∈ font value ↔ FontPart (Text.spacedTokens value) property part := by
  rw [font]
  generalize htokens : Text.spacedTokens value = tokens
  rcases hcut : beforeSlash tokens with ⟨before, _ | ⟨size, after⟩⟩
  · have hnone : ∀ token ∈ tokens, '/' ∉ token := snd_beforeSlash_eq_nil_iff.1 (by rw [hcut])
    have hwhole : ∀ suffix ∈ fontSuffixes, ∀ token ∈ Text.spacedTokens value,
        longhand "font".toList suffix = "font-size".toList → lineHeightHalves? token = none :=
      fun _ _ token htoken _ => lineHeightHalves?_of_notMem (hnone token (htokens ▸ htoken))
    simp only [positional_eq_map hwhole, htokens, mem_map_zip_iff]
    constructor
    · rintro ⟨suffix, hassigns, rfl⟩
      exact .position hnone hassigns
    · intro h
      cases h with
      | position _ hassigns => exact ⟨_, hassigns, rfl⟩
      | before hslash | whole hslash | size hslash | lineHeight hslash | family hslash =>
        exact absurd hslash.slash_mem (hnone _ hslash.mem)
  · have hslash : AroundSlash tokens before size after := beforeSlash_eq_iff.1 hcut
    have hfamily :
        (property, part) ∈ (after.take 1).map (fun family => ("font-family".toList, family)) ↔
          ∃ later, after = part :: later ∧ property = "font-family".toList := by
      cases after <;> simp [eq_comm, and_comm]
    simp only [List.mem_append, take_zip_fontSuffixes, mem_map_zip_iff,
      mem_sizeWrites_iff hslash.slash_mem, hfamily]
    constructor
    · rintro ((⟨suffix, hassigns, rfl⟩ | ⟨hcount, rfl, rfl⟩ |
        ⟨size, lineHeight, rfl, hsize, hline, ⟨rfl, rfl⟩ | ⟨rfl, rfl⟩⟩) | ⟨later, rfl, rfl⟩)
      · exact .before hslash hassigns
      · exact .whole hslash hcount
      · exact .lineHeight hslash hsize hline
      · exact .size hslash hsize hline
      · exact .family hslash
    · intro h
      cases h with
      | before hslash' hassigns =>
        obtain ⟨rfl, rfl, rfl⟩ := hslash.unique hslash'
        exact .inl (.inl ⟨_, hassigns, rfl⟩)
      | whole hslash' hcount =>
        obtain ⟨rfl, rfl, rfl⟩ := hslash.unique hslash'
        exact .inl (.inr (.inl ⟨hcount, rfl, rfl⟩))
      | size hslash' hsize hline =>
        obtain ⟨rfl, rfl, rfl⟩ := hslash.unique hslash'
        exact .inl (.inr (.inr ⟨_, _, rfl, hsize, hline, .inr ⟨rfl, rfl⟩⟩))
      | lineHeight hslash' hsize hline =>
        obtain ⟨rfl, rfl, rfl⟩ := hslash.unique hslash'
        exact .inl (.inr (.inr ⟨_, _, rfl, hsize, hline, .inl ⟨rfl, rfl⟩⟩))
      | family hslash' =>
        obtain ⟨rfl, rfl, rfl⟩ := hslash.unique hslash'
        exact .inr ⟨_, rfl, rfl⟩
      | position hnone =>
        exact absurd hslash.slash_mem (hnone _ hslash.mem)

/-! ## Around the edges -/

/-- What a box writes, up to the order of the edges. -/
theorem box_perm {first : Text} (h : (Text.words value)[0]? = some first) :
    (box shorthand value).Perm [
      (longhand shorthand "top".toList, first),
      (longhand shorthand "right".toList, (Text.words value)[1]?.getD first),
      (longhand shorthand "bottom".toList, (Text.words value)[2]?.getD first),
      (longhand shorthand "left".toList,
        (Text.words value)[3]?.getD ((Text.words value)[1]?.getD first))] := by
  rw [box]
  generalize Text.words value = words at h ⊢
  rcases words with _ | ⟨a, _ | ⟨b, _ | ⟨c, _ | ⟨d, later⟩⟩⟩⟩ <;> cases h
  · exact .cons _ (.swap _ _ _)
  · exact .cons _ (.swap _ _ _)
  · exact .cons _ (.swap _ _ _)
  · exact .refl _

/-- Without words the edges get nothing. -/
theorem Edge.words_ne_nil {words : List Text} {side word : Text} (h : Edge words side word) :
    words ≠ [] := by
  rintro rfl
  cases h with
  | top h | right h | bottom h | left h => cases h

/-- What a box with words writes is what it stands for. -/
theorem mem_box_iff (h : Text.words value ≠ []) :
    (property, part) ∈ box shorthand value ↔
      ∃ side, Edge (Text.words value) side part ∧ longhand shorthand side = property := by
  obtain ⟨first, hfirst⟩ : ∃ first, (Text.words value)[0]? = some first :=
    ⟨_, List.getElem?_eq_getElem (List.length_pos_iff.2 h)⟩
  rw [(box_perm hfirst).mem_iff]
  simp only [List.mem_cons, List.not_mem_nil, or_false, Prod.mk.injEq]
  constructor
  · rintro (⟨rfl, rfl⟩ | ⟨rfl, rfl⟩ | ⟨rfl, rfl⟩ | ⟨rfl, rfl⟩)
    · exact ⟨_, .top hfirst, rfl⟩
    · exact ⟨_, .right hfirst, rfl⟩
    · exact ⟨_, .bottom hfirst, rfl⟩
    · exact ⟨_, .left hfirst, rfl⟩
  · rintro ⟨side, hedge, rfl⟩
    cases hedge with
    | top h | right h | bottom h | left h =>
      cases hfirst.symm.trans h
      simp

/-! ## No longhand twice -/

theorem nodup_longhands_of_mem_positionalTable :
    ∀ entry ∈ positionalTable, (entry.2.map (longhand entry.1)).Nodup := by
  decide +kernel

theorem nodup_edges_of_mem_boxTable : ∀ shorthand ∈ boxTable,
    (["top".toList, "right".toList, "bottom".toList, "left".toList].map
      (longhand shorthand)).Nodup := by
  decide +kernel

/-- By position no longhand is written twice, if no size is cut in halves. -/
theorem nodup_keys_positional (hnodup : (suffixes.map (longhand shorthand)).Nodup)
    (h : ∀ suffix ∈ suffixes, ∀ token ∈ Text.spacedTokens value,
      longhand shorthand suffix = "font-size".toList → lineHeightHalves? token = none) :
    ((positional shorthand value suffixes).map Prod.fst).Nodup := by
  rw [positional_eq_map h, keys_map_zip]
  exact sublist_map_fst_zip.nodup hnodup

/-- A size token writes at most a line height and a size. -/
theorem keys_sizeWrites_sublist (token : Text) :
    List.Sublist ((sizeWrites token).map Prod.fst)
      ["line-height".toList, "font-size".toList] := by
  rw [sizeWrites]
  split
  · exact .refl _
  · exact .cons _ (.refl _)

/-- The tokens behind the size write at most a family. -/
theorem keys_family_sublist (after : List Text) :
    List.Sublist (((after.take 1).map fun family => ("font-family".toList, family)).map Prod.fst)
      ["font-family".toList] := by
  cases after with
  | nil => exact .cons _ (.refl _)
  | cons family later => exact .refl _

/-- `font` writes no longhand twice. -/
theorem nodup_keys_font (value : Text) : ((font value).map Prod.fst).Nodup := by
  rw [font]
  rcases hcut : beforeSlash (Text.spacedTokens value) with ⟨before, _ | ⟨size, after⟩⟩
  · have hnone := snd_beforeSlash_eq_nil_iff.1 (congrArg Prod.snd hcut)
    refine nodup_keys_positional (by decide +kernel) ?_
    intro _ _ token htoken _
    exact lineHeightHalves?_of_notMem (hnone token htoken)
  · have hbefore : List.Sublist ((((fontSuffixes.zip before).take 3).map
        fun (suffix, token) => (longhand "font".toList suffix, token)).map Prod.fst)
        (beforeSuffixes.map (longhand "font".toList)) := by
      rw [take_zip_fontSuffixes, keys_map_zip]
      exact sublist_map_fst_zip
    simp only [List.map_append]
    exact ((hbefore.append (keys_sizeWrites_sublist size)).append
      (keys_family_sublist after)).nodup (by decide +kernel)

/-- A box writes no longhand twice. -/
theorem nodup_keys_box (h : shorthand ∈ boxTable) :
    ((box shorthand value).map Prod.fst).Nodup := by
  cases hwords : Text.words value with
  | nil =>
    rw [box_of_blank (Text.words_eq_nil_iff.1 hwords)]
    exact List.pairwise_singleton _ _
  | cons first later =>
    rw [((box_perm (by rw [hwords]; rfl)).map Prod.fst).nodup_iff]
    exact nodup_edges_of_mem_boxTable shorthand h

end Shorthand

/-! ## Declarations -/

namespace Declaration

open Shorthand

variable {shorthand value p v : Text} {suffixes : List Text} {d : Declaration}
  {ds : List Declaration}

/-- A declaration stands for `property` with the value `part`. -/
inductive Expands : (d : Declaration) → (property part : Text) → Prop
  | positional {shorthand value suffix token : Text} {suffixes : List Text}
    (hmem : (shorthand, suffixes) ∈ positionalTable)
    (h : Assigns suffixes (Text.spacedTokens value) suffix token) :
    Expands (shorthand, value) (longhand shorthand suffix) token
  | font {value property part : Text} (h : FontPart (Text.spacedTokens value) property part) :
    Expands ("font".toList, value) property part
  | edge {shorthand value side word : Text} (hmem : shorthand ∈ boxTable)
    (h : Edge (Text.words value) side word) :
    Expands (shorthand, value) (longhand shorthand side) word
  | blank {shorthand value : Text} (hmem : shorthand ∈ boxTable) (h : Text.trim value = []) :
    Expands (shorthand, value) shorthand value
  | itself {property value : Text} (h : property ∉ properties) :
    Expands (property, value) property value

/-! ### What declarations write -/

/-- No token that is handed out by position is cut in halves, `font` aside. -/
theorem lineHeightHalves?_of_mem_positionalTable (h : (shorthand, suffixes) ∈ positionalTable) :
    ∀ suffix ∈ suffixes, ∀ token ∈ Text.spacedTokens value,
      longhand shorthand suffix = "font-size".toList → lineHeightHalves? token = none := by
  intro suffix hsuffix token _ hsize
  exact absurd hsize (ne_fontSize_of_mem_positionalTable _ h suffix hsuffix)

/-- A declaration stands for what it writes. -/
theorem expands_of_mem_longhands (h : (p, v) ∈ d.longhands) : d.Expands p v := by
  obtain ⟨property, value⟩ := d
  rcases kind_cases property with ⟨suffixes, hmem⟩ | rfl | hmem | hmem
  · rw [longhands_of_mem_positionalTable hmem,
      positional_eq_map (lineHeightHalves?_of_mem_positionalTable hmem), mem_map_zip_iff] at h
    obtain ⟨suffix, hassigns, rfl⟩ := h
    exact .positional hmem hassigns
  · rw [longhands_font, mem_font_iff] at h
    exact .font h
  · rw [longhands_of_mem_boxTable hmem] at h
    by_cases hblank : Text.trim value = []
    · rw [box_of_blank hblank, List.mem_singleton] at h
      cases h
      exact .blank hmem hblank
    · rw [mem_box_iff (mt Text.words_eq_nil_iff.1 hblank)] at h
      obtain ⟨side, hedge, rfl⟩ := h
      exact .edge hmem hedge
  · rw [longhands_of_notMem hmem, List.mem_singleton] at h
    cases h
    exact .itself hmem

/-- A declaration writes what it stands for. -/
theorem mem_longhands_of_expands (h : d.Expands p v) : (p, v) ∈ d.longhands := by
  cases h with
  | positional hmem hassigns =>
    rw [longhands_of_mem_positionalTable hmem,
      positional_eq_map (lineHeightHalves?_of_mem_positionalTable hmem), mem_map_zip_iff]
    exact ⟨_, hassigns, rfl⟩
  | font h =>
    rw [longhands_font, mem_font_iff]
    exact h
  | edge hmem hedge =>
    rw [longhands_of_mem_boxTable hmem, mem_box_iff hedge.words_ne_nil]
    exact ⟨_, hedge, rfl⟩
  | blank hmem hblank => simp [longhands_of_mem_boxTable hmem, box_of_blank hblank]
  | itself hmem =>
    rw [longhands_of_notMem (d := (p, v)) hmem]
    exact List.mem_singleton.2 rfl

/-- **What a declaration writes is what it stands for.** -/
theorem mem_longhands_iff_expands : (p, v) ∈ d.longhands ↔ d.Expands p v :=
  ⟨expands_of_mem_longhands, mem_longhands_of_expands⟩

/-- **No declaration writes a longhand twice.** -/
theorem nodup_keys_longhands (d : Declaration) : (d.longhands.map Prod.fst).Nodup := by
  obtain ⟨property, value⟩ := d
  rcases kind_cases property with ⟨suffixes, hmem⟩ | rfl | hmem | hmem
  · rw [longhands_of_mem_positionalTable hmem]
    exact nodup_keys_positional (nodup_longhands_of_mem_positionalTable _ hmem)
      (lineHeightHalves?_of_mem_positionalTable hmem)
  · exact nodup_keys_font value
  · rw [longhands_of_mem_boxTable hmem]
    exact nodup_keys_box hmem
  · rw [longhands_of_notMem hmem]
    exact List.pairwise_singleton _ _

/-- What a declaration sets a property to. -/
theorem sets?_eq_some_iff : sets? p d = some v ↔ d.Expands p v := by
  have hentries := OrderedMap.entries_ofList (nodup_keys_longhands d)
  rw [sets?_eq, ← mem_longhands_iff_expands]
  constructor
  · intro h
    exact hentries ▸ OrderedMap.mem_entries_of_get? h
  · intro h
    have hmem : (p, v) ∈ (OrderedMap.ofList d.longhands).entries := by rwa [hentries]
    exact OrderedMap.get?_of_mem_entries (OrderedMap.distinct_ofList d.longhands) hmem

theorem sets?_eq_none_iff : sets? p d = none ↔ ∀ w, ¬ d.Expands p w := by
  simp only [Option.eq_none_iff_forall_ne_some, ne_eq, sets?_eq_some_iff]

/-- The last declaration to set a property has none behind it that stands for it. -/
theorem lastSet?_eq_some_iff :
    lastSet? p ds = some v ↔ ∃ before d after, ds = before ++ d :: after ∧ d.Expands p v ∧
      ∀ later ∈ after, ∀ w, ¬ later.Expands p w := by
  rw [lastSet?, List.findSome?_eq_some_iff]
  constructor
  · rintro ⟨after, d, before, hds, hset, hlater⟩
    refine ⟨before.reverse, d, after.reverse, ?_, sets?_eq_some_iff.1 hset, ?_⟩
    · rw [← List.reverse_reverse ds, hds]
      simp
    · intro later hmem
      exact sets?_eq_none_iff.1 (hlater later (List.mem_reverse.1 hmem))
  · rintro ⟨before, d, after, rfl, hset, hlater⟩
    refine ⟨after.reverse, d, before.reverse, by simp, sets?_eq_some_iff.2 hset, ?_⟩
    intro later hmem
    exact sets?_eq_none_iff.2 (hlater later (List.mem_reverse.1 hmem))

end Declaration

namespace Declarations

open Declaration

/-- **An expanded block declares what its declarations stand for, the last one first**: no
property stands twice in it, each that has a value has it from the last declaration that
stands for the property, and the others are what no declaration stands for. -/
theorem get?_expand_eq_last (block : Declarations) :
    block.expand.Distinct ∧
      (∀ p v, block.expand.get? p = some v ↔
        ∃ before d after, block.entries = before ++ d :: after ∧ Expands d p v ∧
          ∀ later ∈ after, ∀ w, ¬ Expands later p w) ∧
      ∀ p, block.expand.get? p = none ↔ ∀ d ∈ block.entries, ∀ w, ¬ Expands d p w := by
  refine ⟨OrderedMap.distinct_ofList _, ?_, ?_⟩
  · intro p v
    rw [get?_expand, lastSet?_eq_some_iff]
  · intro p
    rw [get?_expand, lastSet?_eq_none_iff]
    exact forall₂_congr fun _ _ => sets?_eq_none_iff

end Declarations

end StyleInline
