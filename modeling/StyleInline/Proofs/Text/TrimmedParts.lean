import StyleInline.Proofs.Text.Trim

/-!
# Trimmed parts

Lists of selectors and of declarations are cut at a separator, and the parts are trimmed.
Blanks around the whole list go to its first and its last part, so they are not seen.

## Main results

* `Text.exists_blanks_append_trim` — a text is what trimming leaves with blanks around it.
* `Text.map_trim_splitOn_trim` — a text and its trimmed form have the same trimmed parts.
-/

namespace StyleInline.Text

variable {sep : Char} {text before after : Text}

/-- A text is what trimming leaves of it, with blanks around it. -/
theorem exists_blanks_append_trim (text : Text) :
    ∃ before after, (∀ c ∈ before, isBlank c = true) ∧ (∀ c ∈ after, isBlank c = true) ∧
      text = before ++ (trim text ++ after) := by
  refine ⟨text.takeWhile isBlank, (text.dropWhile isBlank).rtakeWhile isBlank, ?_, ?_, ?_⟩
  · intro c hc
    exact List.mem_takeWhile_imp hc
  · intro c hc
    exact List.mem_rtakeWhile_imp hc
  · rw [trim_eq, List.rdropWhile_append_rtakeWhile, List.takeWhile_append_dropWhile]

/-- Trimming takes away no character that is not blank. -/
theorem mem_trim_iff {c : Char} (hc : isBlank c = false) : c ∈ trim text ↔ c ∈ text := by
  refine ⟨mem_of_mem_trim, ?_⟩
  intro hmem
  obtain ⟨before, after, hbefore, hafter, htext⟩ := exists_blanks_append_trim text
  rw [htext, List.mem_append, List.mem_append] at hmem
  rcases hmem with hmem | hmem | hmem
  · exact absurd hmem (notMem_of_blank hbefore hc)
  · exact hmem
  · exact absurd hmem (notMem_of_blank hafter hc)

/-- Blanks around a text are not seen by its trimmed parts. -/
theorem map_trim_splitOn_append_of_blank (hsep : isBlank sep = false)
    (hbefore : ∀ c ∈ before, isBlank c = true) (hafter : ∀ c ∈ after, isBlank c = true) :
    (splitOn sep (before ++ (text ++ after))).map trim = (splitOn sep text).map trim := by
  have hnotBefore : sep ∉ before := notMem_of_blank hbefore hsep
  have hnotAfter : sep ∉ after := notMem_of_blank hafter hsep
  -- by the length of the text: behind the first separator no blanks stand before it
  generalize hn : text.length = n
  induction n using Nat.strong_induction_on generalizing text before with
  | _ n ih =>
    by_cases hmem : sep ∈ text
    · obtain ⟨part, rest, rfl, hpart⟩ := List.eq_append_cons_of_mem hmem
      have hlt : rest.length < n := by
        simp only [List.length_append, List.length_cons] at hn
        omega
      have hfirst : sep ∉ before ++ part := by simp [hnotBefore, hpart]
      have htext : before ++ (part ++ sep :: rest ++ after)
          = (before ++ part) ++ sep :: ([] ++ (rest ++ after)) := by simp
      rw [htext, splitOn_append_cons hfirst, splitOn_append_cons hpart, List.map_cons,
        List.map_cons, trim_blank_append hbefore, ih rest.length hlt (by simp) (by simp) rfl]
    · have hnot : sep ∉ before ++ (text ++ after) := by simp [hnotBefore, hmem, hnotAfter]
      rw [splitOn_of_notMem hnot, splitOn_of_notMem hmem, List.map_singleton, List.map_singleton,
        trim_append_of_blank hbefore hafter]

/-- A text and its trimmed form have the same trimmed parts. -/
theorem map_trim_splitOn_trim (hsep : isBlank sep = false) (text : Text) :
    (splitOn sep (trim text)).map trim = (splitOn sep text).map trim := by
  obtain ⟨before, after, hbefore, hafter, htext⟩ := exists_blanks_append_trim text
  calc (splitOn sep (trim text)).map trim
      = (splitOn sep (before ++ (trim text ++ after))).map trim :=
        (map_trim_splitOn_append_of_blank hsep hbefore hafter).symm
    _ = (splitOn sep text).map trim := by rw [← htext]

end StyleInline.Text
