import StyleInline.Proofs.Declaration.Writable
import StyleInline.Proofs.Stylesheet.Outline
import StyleInline.Proofs.Stylesheet.Ranking

/-!
# What compiled sheets declare

Compiling a sheet reads its selectors and keeps its declarations.  Those have been read from
text, expanded and written over one another, and each of these steps leaves writable blocks.

## Main results

* `CompiledSheet.ofText_eq_ok_iff` — compiling a text in two steps.
* `CompiledSheet.isWritable_of_ofText` — the declarations of a compiled text are writable.
-/

namespace StyleInline

namespace Stylesheet

variable {source : Text} {sheet : Stylesheet}

/-- The declarations of a sheet that has been read are writable. -/
theorem isWritable_of_parse (h : parse source = .ok sheet) :
    ∀ rule ∈ sheet.rules, rule.declarations.IsWritable := by
  obtain ⟨rules, hrules, rfl⟩ := map_eq_ok_iff.1 h
  have hexpand : ∀ rule ∈ rules, rule.declarations.expand.IsWritable := by
    intro rule hrule
    obtain ⟨-, body, -, -, -, hparse⟩ := Rule.of_mem_parseAll hrules hrule
    exact (Declarations.isWellFormed_of_parse hparse).isWritable.expand
  intro rule hrule
  exact forall_mem_gather Declarations.isWritable_empty
    (fun rule hrule _ hblock => hblock.merge (hexpand rule hrule)) _ (mem_rules_ofRules.1 hrule).1

end Stylesheet

namespace CompiledSheet

variable {text : Text} {sheet : Stylesheet} {compiled : CompiledSheet}

/-- A text is compiled when it is read as a sheet and the selectors of that sheet are read. -/
theorem ofText_eq_ok_iff :
    ofText text = .ok compiled ↔
      ∃ sheet, Stylesheet.parse text = .ok sheet ∧ ofSheet sheet = .ok compiled := by
  rw [ofText]
  cases Stylesheet.parse text with
  | error e => simp
  | ok sheet => cases hsheet : ofSheet sheet <;> simp [Except.mapError, hsheet]

/-- The declarations of a compiled text are writable. -/
theorem isWritable_of_ofText (h : ofText text = .ok compiled) :
    ∀ rule ∈ compiled.rules, rule.declarations.IsWritable := by
  obtain ⟨sheet, hparse, hsheet⟩ := ofText_eq_ok_iff.1 h
  intro rule hrule
  obtain ⟨ranked, hranked, -, hdeclarations⟩ := exists_rankedRule hsheet hrule
  rw [← hdeclarations]
  exact Stylesheet.isWritable_of_parse hparse ranked hranked

end CompiledSheet

end StyleInline
