import StyleInline.Proofs.Declaration.Expansion

/-!
# `font` by position

`font` has an expansion of its own, around the first token with a slash, and like other shorthands
it can be expanded by position.  Both hand out the tokens before the size, then write the size
and the token behind it.  They differ in which token is the size: the one with the slash, or the
fourth.  So they write the same when the first token with a slash is the fourth, and also when
there is no slash and `font` goes by position itself, but in no other case.

## Main definitions

* `Shorthand.beforeWrite`, `Shorthand.writesFromSize` — what `font` makes of the tokens before the
  size, and of the size and those behind it.

## Main results

* `Shorthand.font_eq_of_aroundSlash`, `Shorthand.positional_font_eq` — the two expansions, written
  in the same way.
* `Shorthand.font_eq_positional_iff` — when they write the same.
* `Shorthand.insertAll_font_eq_iff` — when they do the same to every block.
-/

namespace StyleInline.Shorthand

variable {value size : Text} {before after : List Text}

/-! ## Two ways to write `font` -/

/-- What is written of a token before the size, which gets a suffix. -/
def beforeWrite (entry : Text × Text) : Declaration := (longhand "font".toList entry.1, entry.2)

/-- What is written of the size and the tokens behind it.  The first of those is the family. -/
def writesFromSize : List Text → List Declaration
  | [] => []
  | size :: after =>
    sizeWrites size ++ (after.take 1).map fun family => ("font-family".toList, family)

/-- Around the slash, the size is the token with the slash. -/
theorem font_eq_of_aroundSlash (h : AroundSlash (Text.spacedTokens value) before size after) :
    font value =
      (beforeSuffixes.zip before).map beforeWrite ++ writesFromSize (size :: after) := by
  rw [font, beforeSlash_eq_iff.2 h, writesFromSize, ← List.append_assoc, ← take_zip_fontSuffixes]
  rfl

/-- By position, the size is the fourth token. -/
theorem positional_font_eq (value : Text) :
    positional "font".toList value fontSuffixes =
      (beforeSuffixes.zip (Text.spacedTokens value)).map beforeWrite ++
        writesFromSize ((Text.spacedTokens value).drop 3) := by
  rw [positional]
  generalize Text.spacedTokens value = tokens
  rcases tokens with _ | ⟨_, _ | ⟨_, _ | ⟨_, _ | ⟨_, _ | ⟨_, _⟩⟩⟩⟩⟩ <;> rfl

/-- Without a slash, `font` goes by position. -/
theorem font_eq_of_notMem (h : ∀ token ∈ Text.spacedTokens value, '/' ∉ token) :
    font value = positional "font".toList value fontSuffixes := by
  have hnone := snd_beforeSlash_eq_nil_iff.2 h
  rw [font]
  rcases hcut : beforeSlash (Text.spacedTokens value) with ⟨before, _ | ⟨size, after⟩⟩
  · rfl
  · rw [hcut] at hnone
    cases hnone

/-- From the size on, at most a line height, a size and a family are written. -/
theorem keys_writesFromSize_sublist (tokens : List Text) :
    List.Sublist ((writesFromSize tokens).map Prod.fst)
      ["line-height".toList, "font-size".toList, "font-family".toList] := by
  cases tokens with
  | nil => exact List.nil_sublist _
  | cons size after =>
    rw [writesFromSize, List.map_append]
    exact (keys_sizeWrites_sublist size).append (keys_family_sublist after)

/-! ## Where they agree -/

theorem longhand_beforeSuffixes_ne : ∀ suffix ∈ beforeSuffixes,
    longhand "font".toList suffix ≠ "line-height".toList ∧
      longhand "font".toList suffix ≠ "font-size".toList := by
  decide

/-- What a size with a slash writes first can be told from what stands in its place when it is no
size, and from what a size without a slash writes. -/
theorem exists_writesFromSize_eq (h : '/' ∈ size) (after : List Text) :
    ∃ first later, writesFromSize (size :: after) = first :: later ∧
      (∀ suffix ∈ beforeSuffixes, first ≠ beforeWrite (suffix, size)) ∧
      ∀ token, '/' ∉ token → first ≠ ("font-size".toList, token) := by
  rw [writesFromSize, sizeWrites]
  split
  · refine ⟨_, _, rfl, ?_, ?_⟩
    · intro suffix hsuffix hfirst
      exact (longhand_beforeSuffixes_ne suffix hsuffix).1 (congrArg Prod.fst hfirst).symm
    · intro token _ hfirst
      cases hfirst
  · refine ⟨_, _, rfl, ?_, ?_⟩
    · intro suffix hsuffix hfirst
      exact (longhand_beforeSuffixes_ne suffix hsuffix).2 (congrArg Prod.fst hfirst).symm
    · intro token htoken hfirst
      cases hfirst
      exact htoken h

/-- A token without a slash is the whole size. -/
theorem writesFromSize_of_notMem {token : Text} (h : '/' ∉ token) (after : List Text) :
    writesFromSize (token :: after) =
      ("font-size".toList, token) ::
        (after.take 1).map fun family => ("font-family".toList, family) := by
  rw [writesFromSize, sizeWrites, lineHeightHalves?_of_notMem h]
  rfl

/-- With the first slash in another place than the fourth, the two expansions differ in that
place or, if it is further on, in the fourth. -/
theorem length_eq_three_of_font_eq (h : AroundSlash (Text.spacedTokens value) before size after)
    (heq : font value = positional "font".toList value fontSuffixes) : before.length = 3 := by
  obtain ⟨first, later, hfirst, hbefore, hwhole⟩ := exists_writesFromSize_eq h.slash_mem after
  rw [font_eq_of_aroundSlash h, positional_font_eq, h.tokens_eq, hfirst] at heq
  rcases before with _ | ⟨a, _ | ⟨b, _ | ⟨c, _ | ⟨d, rest⟩⟩⟩⟩
  · exact absurd (Option.some.inj (congrArg (·[0]?) heq)) (hbefore "style".toList (by decide))
  · exact absurd (Option.some.inj (congrArg (·[1]?) heq)) (hbefore "variant".toList (by decide))
  · exact absurd (Option.some.inj (congrArg (·[2]?) heq)) (hbefore "weight".toList (by decide))
  · rfl
  · have hd : '/' ∉ d := h.slash_notMem d (by simp)
    have hfourth : writesFromSize ((a :: b :: c :: d :: rest ++ size :: after).drop 3) = _ :=
      writesFromSize_of_notMem hd (rest ++ size :: after)
    rw [hfourth] at heq
    exact absurd (Option.some.inj (congrArg (·[3]?) heq)) (hwhole d hd)

/-- The two expansions write the same when there is no slash, or the first token with a slash is
the fourth. -/
theorem font_eq_positional_iff :
    font value = positional "font".toList value fontSuffixes ↔
      (∀ token ∈ Text.spacedTokens value, '/' ∉ token) ∨
        ∃ before size after, AroundSlash (Text.spacedTokens value) before size after ∧
          before.length = 3 := by
  constructor
  · intro heq
    rcases hcut : beforeSlash (Text.spacedTokens value) with ⟨before, _ | ⟨size, after⟩⟩
    · exact .inl (snd_beforeSlash_eq_nil_iff.1 (congrArg Prod.snd hcut))
    · have hslash := beforeSlash_eq_iff.1 hcut
      exact .inr ⟨before, size, after, hslash, length_eq_three_of_font_eq hslash heq⟩
  · rintro (hnone | ⟨before, size, after, hslash, hlength⟩)
    · exact font_eq_of_notMem hnone
    · obtain ⟨style, variant, weight, rfl⟩ := List.length_eq_three.1 hlength
      rw [font_eq_of_aroundSlash hslash, positional_font_eq, hslash.tokens_eq]
      rfl

/-- By position `font` writes no longhand twice. -/
theorem nodup_keys_positional_font (value : Text) :
    ((positional "font".toList value fontSuffixes).map Prod.fst).Nodup := by
  rw [positional_font_eq, List.map_append]
  generalize Text.spacedTokens value = tokens
  have hbefore : List.Sublist (((beforeSuffixes.zip tokens).map beforeWrite).map Prod.fst)
      (beforeSuffixes.map (longhand "font".toList)) := by
    have hkeys : ((beforeSuffixes.zip tokens).map beforeWrite).map Prod.fst = _ := keys_map_zip
    rw [hkeys]
    exact sublist_map_fst_zip
  exact (hbefore.append (keys_writesFromSize_sublist _)).nodup (by decide +kernel)

/-- **The two expansions of `font` agree where they overlap.**  They do the same to every block,
the order of its declarations included, when the first token with a slash is the fourth, and when
there is none; in no other case do they. -/
theorem insertAll_font_eq_iff :
    (∀ block : Declarations, block.insertAll (font value) =
        block.insertAll (positional "font".toList value fontSuffixes)) ↔
      (∀ token ∈ Text.spacedTokens value, '/' ∉ token) ∨
        ∃ before size after, AroundSlash (Text.spacedTokens value) before size after ∧
          before.length = 3 := by
  rw [← font_eq_positional_iff]
  constructor
  · intro h
    have hempty : OrderedMap.ofList (font value) = .ofList _ := h .empty
    rw [← OrderedMap.entries_ofList (nodup_keys_font value), hempty,
      OrderedMap.entries_ofList (nodup_keys_positional_font value)]
  · intro h block
    rw [h]

end StyleInline.Shorthand
