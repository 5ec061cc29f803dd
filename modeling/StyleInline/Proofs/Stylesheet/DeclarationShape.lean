import StyleInline.Proofs.Declaration.Expansion
import StyleInline.Proofs.Declaration.Writable
import StyleInline.Proofs.Stylesheet.Gathering
import StyleInline.Proofs.Stylesheet.Outline

/-!
# The shape of the declarations of a sheet

Properties are trimmed and in lower case, and neither colons, semicolons nor braces are left
in a declaration where they do not belong.  Reading a block gives its declarations this shape,
and expanding and gathering keep it.  Values are trimmed too when they are read, but the halves
of a size token of `font` are not trimmed again.  The tokens of `font` stand between spaces, so
another blank may stand in one, and if it stands at the slash it is left at the end of the size
or at the start of the line height.

## Main definitions

* `Declaration.IsShaped` — the shape, the blanks around the value aside.
* `Shorthand.Ragged` — the halves that are not trimmed.

## Main results

* `Declaration.trim_ne_iff_ragged` — what a declaration writes is trimmed except for those.
* `Stylesheet.isShaped_and_trim_ne_iff` — the same for the declarations of a sheet.
-/

namespace StyleInline

/-! ## Blanks at a cut -/

namespace Text

variable {text before after : Text} {c : Char}

/-- What stands in front of a character of a trimmed text is trimmed, or a blank is its last
character. -/
theorem trim_eq_or_blank_before (h : trim (before ++ c :: after) = before ++ c :: after) :
    trim before = before ∨ ∃ core blank, before = core ++ [blank] ∧ isBlank blank = true := by
  rcases List.eq_nil_or_concat' before with rfl | ⟨core, blank, rfl⟩
  · exact .inl rfl
  · by_cases hblank : isBlank blank = true
    · exact .inr ⟨core, blank, rfl, hblank⟩
    · refine .inl (trim_eq_self_iff.2 ⟨?_, by simpa using hblank⟩)
      have hhead := (trim_eq_self_iff.1 h).1
      cases core <;> simpa using hhead

/-- What stands behind a character of a trimmed text is trimmed, or a blank is its first
character. -/
theorem trim_eq_or_blank_behind (h : trim (before ++ c :: after) = before ++ c :: after) :
    trim after = after ∨ ∃ blank core, after = blank :: core ∧ isBlank blank = true := by
  cases after with
  | nil => exact .inl rfl
  | cons blank core =>
    by_cases hblank : isBlank blank = true
    · exact .inr ⟨blank, core, rfl, hblank⟩
    · refine .inl (trim_eq_self_iff.2 ⟨by simpa using hblank, ?_⟩)
      have hlast := (trim_eq_self_iff.1 h).2
      simpa [List.getLast?_append, List.getLast?_cons] using hlast

end Text

/-! ## Ragged halves -/

namespace Shorthand

variable {value property part : Text} {d : Declaration}

/-- A half of the size token of `font` that has a blank at the slash, which is no space since
tokens stand between spaces. -/
inductive Ragged (value : Text) : Declaration → Prop
  | size {before after : List Text} {size lineHeight : Text} {blank : Char}
    (hslash : AroundSlash (Text.spacedTokens value) before (size ++ blank :: '/' :: lineHeight)
      after)
    (hsize : '/' ∉ size) (hline : '/' ∉ lineHeight)
    (hblank : Text.isBlank blank = true) (hspace : blank ≠ ' ') :
    Ragged value ("font-size".toList, size ++ [blank])
  | lineHeight {before after : List Text} {size lineHeight : Text} {blank : Char}
    (hslash : AroundSlash (Text.spacedTokens value) before (size ++ '/' :: blank :: lineHeight)
      after)
    (hsize : '/' ∉ size) (hline : '/' ∉ lineHeight)
    (hblank : Text.isBlank blank = true) (hspace : blank ≠ ' ') :
    Ragged value ("line-height".toList, blank :: lineHeight)

/-- Ragged halves are not trimmed. -/
theorem Ragged.trim_ne (h : Ragged value d) : Text.trim d.2 ≠ d.2 := by
  rw [Ne, Text.trim_eq_self_iff]
  cases h with
  | size _ _ _ hblank _ => simp [hblank]
  | lineHeight _ _ _ hblank _ => simp [hblank]

/-- A token is trimmed, and no space is in it. -/
theorem trim_and_notMem_of_mem_spacedTokens {token : Text} (h : token ∈ Text.spacedTokens value) :
    Text.trim token = token ∧ ' ' ∉ token := by
  obtain ⟨htrim, -, hspace, -⟩ := Text.mem_trimmed_splitOn h
  exact ⟨htrim, hspace⟩

/-- What `font` writes is trimmed except for ragged halves. -/
theorem FontPart.trim_eq_or_ragged (h : FontPart (Text.spacedTokens value) property part) :
    Text.trim part = part ∨ Ragged value (property, part) := by
  have htoken {token : Text} (hmem : token ∈ Text.spacedTokens value) :=
    trim_and_notMem_of_mem_spacedTokens hmem
  cases h with
  | before hslash hassigns =>
    obtain ⟨i, -, hpart⟩ := hassigns
    have hmem := List.mem_of_getElem? hpart
    exact .inl (htoken (by simp [hslash.tokens_eq, hmem])).1
  | whole hslash _ => exact .inl (htoken hslash.mem).1
  | size hslash hsize hline =>
    obtain ⟨htrim, hspace⟩ := htoken hslash.mem
    rcases Text.trim_eq_or_blank_before htrim with hpart | ⟨core, blank, rfl, hblank⟩
    · exact .inl hpart
    · simp only [List.mem_append, List.mem_singleton, not_or] at hsize hspace
      rw [List.append_assoc] at hslash
      exact .inr (.size hslash hsize.1 hline hblank (Ne.symm hspace.1.2))
  | lineHeight hslash hsize hline =>
    obtain ⟨htrim, hspace⟩ := htoken hslash.mem
    rcases Text.trim_eq_or_blank_behind htrim with hpart | ⟨blank, core, rfl, hblank⟩
    · exact .inl hpart
    · simp only [List.mem_append, List.mem_cons, not_or] at hline hspace
      exact .inr (.lineHeight hslash hsize hline.2 hblank (Ne.symm hspace.2.2.1))
  | family hslash => exact .inl (htoken (by simp [hslash.tokens_eq])).1
  | position _ hassigns =>
    obtain ⟨i, -, hpart⟩ := hassigns
    exact .inl (htoken (List.mem_of_getElem? hpart)).1

end Shorthand

/-! ## Declarations -/

namespace Declaration

open Shorthand

variable {d e : Declaration}

/-- What a trimmed declaration writes is trimmed except for ragged halves of `font`. -/
theorem trim_ne_iff_ragged (hd : Text.trim d.2 = d.2) (h : e ∈ d.longhands) :
    Text.trim e.2 ≠ e.2 ↔ d.1 = "font".toList ∧ Ragged d.2 e := by
  constructor
  · intro hne
    rcases mem_longhands h with ⟨-, rfl⟩ | ⟨-, hpart⟩
    · exact absurd hd hne
    · cases hpart with
      | token htoken => exact absurd (trim_and_notMem_of_mem_spacedTokens htoken).1 hne
      | word hword =>
        exact absurd (Text.trim_eq_self_of_forall (Text.mem_nonEmptyFields hword).2.1) hne
      | half hfont _ _ =>
        obtain ⟨property, value⟩ := d
        change property = "font".toList at hfont
        subst hfont
        rw [longhands_font, mem_font_iff] at h
        exact ⟨rfl, h.trim_eq_or_ragged.resolve_left hne⟩
  · rintro ⟨-, hragged⟩
    exact hragged.trim_ne

/-- A declaration whose property and value are as a sheet declares them, but for blanks around
the value: none of the marks of the language is left in it. -/
structure IsShaped (d : Declaration) : Prop where
  isWritable : d.IsWritable
  open_notMem : '{' ∉ d.1 ∧ '{' ∉ d.2
  close_notMem : '}' ∉ d.1 ∧ '}' ∉ d.2

/-- What a segment without braces states is shaped. -/
theorem isShaped_of_ofSegment? {segment : Text} (hsemicolon : ';' ∉ segment)
    (hopen : '{' ∉ segment) (hclose : '}' ∉ segment) (h : ofSegment? segment = some d) :
    d.IsShaped := by
  have hwritable := (isWellFormed_of_ofSegment? hsemicolon h).isWritable
  obtain ⟨before, after, rfl, -, -, rfl⟩ := ofSegment?_eq_some_iff.1 h
  have hnot {c : Char} (hc : ¬ (97 ≤ c.toNat ∧ c.toNat ≤ 122)) (hmem : c ∉ before ++ ':' :: after) :
      c ∉ Text.lower (Text.trim before) ∧ c ∉ Text.trim after := by
    simp only [List.mem_append, List.mem_cons, not_or] at hmem
    exact ⟨fun h => hmem.1 (Text.mem_of_mem_trim (Text.mem_of_mem_lower hc h)),
      fun h => hmem.2.2 (Text.mem_of_mem_trim h)⟩
  exact ⟨hwritable, hnot (by decide) hopen, hnot (by decide) hclose⟩

/-- What a shaped declaration writes is shaped. -/
theorem IsShaped.of_mem_longhands (hd : d.IsShaped) (h : e ∈ d.longhands) : e.IsShaped := by
  rcases mem_longhands h with ⟨-, rfl⟩ | ⟨hlonghand, hpart⟩
  · exact hd
  · have hplain := hlonghand.2.1
    refine ⟨isWritable_of_mem_longhands hd.isWritable h, ?_, ?_⟩
    · exact ⟨hplain.open_notMem, fun hmem => hd.open_notMem.2 (hpart.isInfix.subset hmem)⟩
    · exact ⟨hplain.close_notMem, fun hmem => hd.close_notMem.2 (hpart.isInfix.subset hmem)⟩

end Declaration

/-! ## Sheets -/

namespace Stylesheet

open Declaration

variable {text selector : Text} {rules : List Rule} {rule : Rule} {sheet : Stylesheet}

/-- The declarations of a rule that is read are shaped, and their values are trimmed. -/
theorem isShaped_of_parseStylesheet (h : Rule.parseStylesheet text = .ok rules)
    (hrule : rule ∈ rules) {d : Declaration} (hd : d ∈ rule.declarations.entries) :
    IsShaped d ∧ Text.trim d.2 = d.2 := by
  obtain ⟨-, body, -, hopen, hclose, hparse⟩ := Rule.of_mem_parseAll h hrule
  obtain ⟨segment, hsegment, hstated⟩ := Declarations.exists_segment_of_parse hparse hd
  obtain ⟨-, -, hsemicolon, hpart⟩ := Declarations.mem_segments hsegment
  constructor
  · exact isShaped_of_ofSegment? hsemicolon (fun hmem => hopen (hpart.subset hmem))
      (fun hmem => hclose (hpart.subset hmem)) hstated
  · exact (isWellFormed_of_ofSegment? hsemicolon hstated).trim_value

/-- What holds of the longhands of all rules that list a selector holds of what they say of
it. -/
theorem forall_mem_accumulated {P : Declaration → Prop}
    (h : ∀ rule ∈ rules, selector ∈ rule.selectors →
      ∀ d ∈ rule.declarations.entries, ∀ e ∈ Declaration.longhands d, P e) :
    ∀ e ∈ (accumulated rules selector).entries, P e := by
  rw [accumulated]
  refine List.foldlRecOn (motive := fun block : Declarations => ∀ e ∈ block.entries, P e) _ _
    (by simp) ?_
  intro block hblock rule hrule
  obtain ⟨hmem, hlists⟩ := List.mem_filter.1 hrule
  refine OrderedMap.forall_mem_merge hblock ?_
  intro e he
  obtain ⟨d, hd, he⟩ := List.mem_flatMap.1 (OrderedMap.mem_entries_ofList he)
  exact h rule hmem (by simpa using hlists) d hd e he

/-- **The declarations of a sheet are shaped, and trimmed except for the ragged halves of
`font`.**  No property stands twice among those of a rule.  A value is left untrimmed when it
is a ragged half of a `font` that a rule of the text declares for the same selector, and only
then. -/
theorem isShaped_and_trim_ne_iff (h : parse text = .ok sheet) :
    ∃ rules, Rule.parseStylesheet text = .ok rules ∧ ∀ ranked ∈ sheet.rules,
      ranked.declarations.Distinct ∧ ∀ d ∈ ranked.declarations.entries, IsShaped d ∧
        (Text.trim d.2 ≠ d.2 ↔ ∃ rule ∈ rules, ranked.selector ∈ rule.selectors ∧
          ∃ value, ("font".toList, value) ∈ rule.declarations.entries ∧
            Shorthand.Ragged value d) := by
  obtain ⟨rules, hrules, rfl⟩ := map_eq_ok_iff.1 h
  refine ⟨rules, hrules, ?_⟩
  intro ranked hranked
  have hblock := (gathers_ofRules rules).declarations_eq ranked hranked
  rw [hblock]
  refine ⟨distinct_accumulated rules ranked.selector, ?_⟩
  refine forall_mem_accumulated ?_
  intro rule hrule hlists d hd e he
  obtain ⟨hshaped, htrim⟩ := isShaped_of_parseStylesheet hrules hrule hd
  refine ⟨hshaped.of_mem_longhands he, ?_⟩
  constructor
  · intro hne
    obtain ⟨hfont, hragged⟩ := (trim_ne_iff_ragged htrim he).1 hne
    exact ⟨rule, hrule, hlists, d.2, hfont ▸ hd, hragged⟩
  · rintro ⟨_, -, -, _, -, hragged⟩
    exact hragged.trim_ne

/-- A size and a line height with tabs around the slash. -/
def tabbedText : Text := "p \x7b font: 12px\t/\t1.5 serif; color: red \x7d".toList

/-- The sheet of `tabbedText`. -/
def tabbedSheet : Stylesheet :=
  ⟨[⟨"p".toList, 1, ⟨[("line-height".toList, "\t1.5".toList), ("font-size".toList, "12px\t".toList),
    ("font-family".toList, "serif".toList), ("color".toList, "red".toList)]⟩⟩]⟩

/-- The size is shaped, and the tab behind it is that of a ragged half of `font`. -/
theorem isShaped_and_trim_ne_iff_tabbed :
    parse tabbedText = .ok tabbedSheet ∧ IsShaped ("font-size".toList, "12px\t".toList) ∧
      ∃ rules, Rule.parseStylesheet tabbedText = .ok rules ∧ ∃ rule ∈ rules,
        "p".toList ∈ rule.selectors ∧ ∃ value, ("font".toList, value) ∈ rule.declarations.entries ∧
          Shorthand.Ragged value ("font-size".toList, "12px\t".toList) := by
  have hparse : parse tabbedText = .ok tabbedSheet := by decide +kernel
  obtain ⟨rules, hrules, hsheet⟩ := isShaped_and_trim_ne_iff hparse
  obtain ⟨-, hdeclarations⟩ := hsheet _ (List.mem_singleton.2 rfl)
  obtain ⟨hshaped, hiff⟩ := hdeclarations ("font-size".toList, "12px\t".toList) (by simp)
  exact ⟨hparse, hshaped, rules, hrules, hiff.1 (by decide +kernel)⟩

/-- Not all values of a sheet are trimmed: the tabs around the slash are still there. -/
theorem exists_trim_ne_tabbed :
    parse tabbedText = .ok tabbedSheet ∧ ∃ ranked ∈ tabbedSheet.rules,
      ∃ d ∈ ranked.declarations.entries, Text.trim d.2 ≠ d.2 := by
  refine ⟨by decide +kernel, _, List.mem_singleton.2 rfl, ("font-size".toList, "12px\t".toList),
    by simp, by decide +kernel⟩

end Stylesheet

end StyleInline
