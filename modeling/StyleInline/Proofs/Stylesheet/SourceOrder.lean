import StyleInline.Proofs.Declaration.SourceOrder
import StyleInline.Proofs.Stylesheet.Concatenation
import StyleInline.Proofs.Stylesheet.Gathering

/-!
# The order of the text in a sheet

What a sheet declares for a selector is decided, property by property, by the last declaration
to set it in the blocks of the rules that list the selector.  Blocks keep the order of rules,
but within a block a property that is declared again keeps its first place.  So a list of
declarations may mean one thing in one rule and another when it is spread over several rules
for the same selector; it means the same, and the last declaration of the text wins, when
repetitions do not disturb the order.

## Main definitions

* `Stylesheet.rulesText` — rules for one selector as they are written.

## Main results

* `Stylesheet.get?_accumulated` — the last declaration in the blocks of the rules decides.
* `Stylesheet.exists_declares_rulesText` — declarations in one rule and in several.
-/

namespace StyleInline

/-- What can stand between the braces of a rule: declarations and no braces. -/
structure Rule.IsBody (body : Text) : Prop where
  open_notMem : '{' ∉ body
  close_notMem : '}' ∉ body
  isOk_parse : (Declarations.parse body).isOk = true

/-- Bodies joined by a semicolon are a body. -/
theorem Rule.isBody_intercalate {bodies : List Text} (h : ∀ body ∈ bodies, Rule.IsBody body) :
    Rule.IsBody (List.intercalate " ; ".toList bodies) := by
  have hmark : '{' ∉ " ; ".toList ∧ '}' ∉ " ; ".toList := by decide
  have hread : (Declarations.parse (List.intercalate " ; ".toList bodies)).isOk = true := by
    rw [Declarations.isOk_parse_iff, Declarations.malformedSegments,
      Declarations.segments_intercalate, List.filter_flatMap, List.flatMap_eq_nil_iff]
    intro body hbody
    exact Declarations.isOk_parse_iff.1 (h body hbody).isOk_parse
  have hbraces : '{' ∉ List.intercalate " ; ".toList bodies ∧
      '}' ∉ List.intercalate " ; ".toList bodies := by
    clear hread
    induction bodies with
    | nil => simp
    | cons body later ih =>
      obtain ⟨hbody, hlater⟩ := List.forall_mem_cons.1 h
      cases later with
      | nil => simp [hbody.open_notMem, hbody.close_notMem]
      | cons next rest =>
        obtain ⟨hopen, hclose⟩ := ih hlater
        simp only [List.intercalate_cons_cons, List.mem_append, not_or]
        exact ⟨⟨⟨hbody.open_notMem, hmark.1⟩, hopen⟩, ⟨⟨hbody.close_notMem, hmark.2⟩, hclose⟩⟩
  exact ⟨hbraces.1, hbraces.2, hread⟩

namespace Stylesheet

open Declaration

variable {selector body text joined apart : Text} {bodies : List Text} {rules : List Rule}

/-! ## The blocks of a selector -/

/-- A selector that is listed has an entry with what the rules say of it. -/
theorem get?_ofRules (h : ∃ rule ∈ rules, selector ∈ rule.selectors) :
    (ofRules rules).get? selector = some (accumulated rules selector) := by
  obtain ⟨ranked, hranked, hselector⟩ := List.mem_map.1 (mem_selectors_ofRules.2 h)
  cases hfind : (ofRules rules).rules.find? (·.selector == selector) with
  | none =>
    have hnone := List.find?_eq_none.1 hfind ranked hranked
    simp [hselector] at hnone
  | some found =>
    have hfound : found.selector = selector := by simpa using List.find?_some hfind
    have hdeclarations := (gathers_ofRules rules).declarations_eq found
      (List.mem_of_find?_eq_some hfind)
    rw [get?, hfind, Option.map_some, hdeclarations, hfound]

/-- Of all blocks of the rules that list a selector, the last declaration to set a property
decides. -/
theorem get?_accumulated (rules : List Rule) (selector p : Text) :
    (accumulated rules selector).get? p =
      lastSet? p ((rules.filter fun rule => selector ∈ rule.selectors).flatMap
        (·.declarations.entries)) := by
  rw [accumulated]
  induction rules.filter fun rule => selector ∈ rule.selectors using List.reverseRecOn with
  | nil => rfl
  | append_singleton listing rule ih =>
    rw [List.foldl_append, List.foldl_cons, List.foldl_nil,
      OrderedMap.get?_merge (distinct_expand _), ih, Declarations.get?_expand, List.flatMap_append,
      lastSet?_append, List.flatMap_singleton]

/-! ## The text of rules for one selector -/

/-- One rule for a selector as it is written. -/
def ruleText (selector body : Text) : Text :=
  selector ++ " \x7b ".toList ++ body ++ " \x7d".toList

/-- Rules for one selector as they are written, one behind the other. -/
def rulesText (selector : Text) (bodies : List Text) : Text :=
  List.intercalate [' '] (bodies.map (ruleText selector))

/-- The rule that is read of its text. -/
def ruleOf (selector body : Text) : Rule :=
  ⟨[selector], OrderedMap.ofList (Declarations.stated body)⟩

/-- The section of a rule is well formed. -/
theorem isWellFormed_section (hselector : Rule.IsListable selector)
    (hat : selector.head? ≠ some '@') (hbody : Rule.IsBody body) :
    Section.IsWellFormed ⟨selector ++ [' '], ' ' :: (body ++ [' '])⟩ where
  prelude_open_notMem := by simp [hselector.open_notMem]
  prelude_close_notMem := by simp [hselector.close_notMem]
  prelude_semicolon_notMem := by simp [hselector.semicolon_notMem]
  prelude_head?_ne := by
    rw [Text.trim_append_blank Text.isBlank_of_mem_space, hselector.trim_eq]
    exact hat
  body_open_notMem := by simp [hbody.open_notMem]
  body_close_notMem := by simp [hbody.close_notMem]

/-- The section of a rule states the rule. -/
theorem states_section (hselector : Rule.IsListable selector) (hbody : Rule.IsBody body) :
    Section.States ⟨selector ++ [' '], ' ' :: (body ++ [' '])⟩ (some (ruleOf selector body)) := by
  have hlists : Section.Lists ⟨selector ++ [' '], ' ' :: (body ++ [' '])⟩ [selector] := by
    rw [Rule.lists_iff, Text.trim_append_blank Text.isBlank_of_mem_space, hselector.trim_eq,
      Rule.selectorsOf_of_isListable hselector]
  have hsegments : Declarations.segments ([' '] ++ (body ++ [' '])) = Declarations.segments body :=
    Declarations.segments_append_of_blank Text.isBlank_of_mem_space Text.isBlank_of_mem_space
  have hparse : Declarations.parse (' ' :: (body ++ [' ']))
      = .ok (OrderedMap.ofList (Declarations.stated body)) := by
    rw [← Declarations.parse_eq_of_isOk hbody.isOk_parse, Declarations.parse, Declarations.parse,
      ← hsegments]
    rfl
  exact .rule hlists (by simp) hparse

/-- The text of a rule holds the rule. -/
theorem written_ruleText (hselector : Rule.IsListable selector)
    (hat : selector.head? ≠ some '@') (hbody : Rule.IsBody body) :
    Rule.Written (ruleText selector body) [ruleOf selector body] := by
  have hend : Rule.Written [] [] := .blank (by simp)
  have hwritten := Rule.Written.append (isWellFormed_section hselector hat hbody)
    (states_section hselector hbody) hend
  simpa [ruleText] using hwritten

/-- The rules of a text are those that are written in it. -/
theorem written_rulesText (hselector : Rule.IsListable selector)
    (hat : selector.head? ≠ some '@') (hbodies : ∀ body ∈ bodies, Rule.IsBody body) :
    Rule.Written (rulesText selector bodies) (bodies.map (ruleOf selector)) := by
  induction bodies with
  | nil => exact .blank (by simp [rulesText])
  | cons body later ih =>
    obtain ⟨hbody, hlater⟩ := List.forall_mem_cons.1 hbodies
    have hfirst := written_ruleText hselector hat hbody
    cases later with
    | nil => simpa [rulesText] using hfirst
    | cons next rest =>
      have hspace : Rule.Written [' '] [] := .blank Text.isBlank_of_mem_space
      have hwritten := hfirst.append_text (hspace.append_text (ih hlater))
      simpa [rulesText] using hwritten

/-! ## What the sheet declares -/

/-- The sheet of a text declares a block for a selector. -/
def Declares (text selector : Text) (block : Declarations) : Prop :=
  ∃ sheet, parse text = .ok sheet ∧ sheet.get? selector = some block

/-- The sheet of rules for one selector declares, property by property, what the last
declaration of their blocks sets. -/
theorem exists_declares_rulesText (hselector : Rule.IsListable selector)
    (hat : selector.head? ≠ some '@') (hne : bodies ≠ [])
    (hbodies : ∀ body ∈ bodies, Rule.IsBody body)
    (htext : Comment.strip text = rulesText selector bodies) :
    ∃ block, Declares text selector block ∧ ∀ p, block.get? p =
      lastSet? p (bodies.flatMap fun body =>
        (OrderedMap.ofList (Declarations.stated body)).entries) := by
  have hrules : Rule.parseStylesheet text = .ok (bodies.map (ruleOf selector)) := by
    rw [Rule.parseStylesheet, htext]
    exact (written_rulesText hselector hat hbodies).parseAll_eq
  have hparse : parse text = .ok (ofRules (bodies.map (ruleOf selector))) := by
    rw [parse, hrules]
    rfl
  have hlisted : ∃ rule ∈ bodies.map (ruleOf selector), selector ∈ rule.selectors := by
    obtain ⟨body, hbody⟩ := List.exists_mem_of_ne_nil _ hne
    exact ⟨_, List.mem_map_of_mem hbody, List.mem_singleton.2 rfl⟩
  refine ⟨_, ⟨_, hparse, get?_ofRules hlisted⟩, ?_⟩
  intro p
  have hall : (bodies.map (ruleOf selector)).filter (fun rule => selector ∈ rule.selectors)
      = bodies.map (ruleOf selector) := by
    rw [List.filter_eq_self]
    simp [ruleOf]
  rw [get?_accumulated, hall, List.flatMap_map]
  rfl

/-- **The last declaration of the text wins when repetitions do not disturb it**, in one rule
and in several.  In any case the last declaration of the blocks does: of the one block in which
the declarations of the text take the places of their properties, or of the blocks of the rules
one behind the other. -/
theorem exists_declares_lastSet? (hselector : Rule.IsListable selector)
    (hat : selector.head? ≠ some '@') (hne : bodies ≠ [])
    (hbodies : ∀ body ∈ bodies, Rule.IsBody body)
    (hjoined : Comment.strip joined = ruleText selector (List.intercalate " ; ".toList bodies))
    (hapart : Comment.strip apart = rulesText selector bodies) :
    ∃ one several, Declares joined selector one ∧ Declares apart selector several ∧ ∀ p,
      one.get? p =
        lastSet? p (OrderedMap.ofList (bodies.flatMap Declarations.stated)).entries ∧
      several.get? p = lastSet? p (bodies.flatMap fun body =>
        (OrderedMap.ofList (Declarations.stated body)).entries) ∧
      ((∀ body ∈ bodies, Undisturbed p (Declarations.stated body)) →
        several.get? p = lastSet? p (bodies.flatMap Declarations.stated)) ∧
      (Undisturbed p (bodies.flatMap Declarations.stated) →
        one.get? p = lastSet? p (bodies.flatMap Declarations.stated) ∧
          several.get? p = one.get? p) := by
  have hone : ∀ body ∈ [List.intercalate " ; ".toList bodies], Rule.IsBody body :=
    List.forall_mem_singleton.2 (Rule.isBody_intercalate hbodies)
  have hjoined' : Comment.strip joined
      = rulesText selector [List.intercalate " ; ".toList bodies] := by
    rw [hjoined, rulesText, List.map_singleton, List.intercalate_singleton]
  obtain ⟨one, hdeclares, hget⟩ :=
    exists_declares_rulesText hselector hat (List.cons_ne_nil _ _) hone hjoined'
  obtain ⟨several, hdeclares', hget'⟩ :=
    exists_declares_rulesText hselector hat hne hbodies hapart
  refine ⟨one, several, hdeclares, hdeclares', ?_⟩
  intro p
  have hblock : one.get? p =
      lastSet? p (OrderedMap.ofList (bodies.flatMap Declarations.stated)).entries := by
    rw [hget, List.flatMap_singleton, Declarations.stated_intercalate]
  have hblocks (hundisturbed : ∀ body ∈ bodies, Undisturbed p (Declarations.stated body)) :
      several.get? p = lastSet? p (bodies.flatMap Declarations.stated) := by
    rw [hget']
    refine lastSet?_flatMap_congr ?_
    intro body hbody
    exact Declarations.lastSet?_entries_ofList (hundisturbed body hbody)
  refine ⟨hblock, hget' p, hblocks, ?_⟩
  intro hundisturbed
  have hlast : one.get? p = lastSet? p (bodies.flatMap Declarations.stated) := by
    rw [hblock, Declarations.lastSet?_entries_ofList hundisturbed]
  exact ⟨hlast, (hblocks hundisturbed.of_flatMap).trans hlast.symm⟩

/-- Two lists of declarations; `margin` is in both. -/
def marginBodies : List Text :=
  ["color: red; margin: 1px".toList, "margin: 2px; margin-top: 3px".toList]

/-- The two lists in one rule. -/
def marginJoined : Text :=
  "/* box */p \x7b color: red; margin: 1px ; margin: 2px; margin-top: 3px \x7d".toList

/-- The two lists in two rules. -/
def marginApart : Text :=
  "p \x7b color: red; margin: 1px \x7d p \x7b margin: 2px; /* top */margin-top: 3px \x7d".toList

/-- Both ways the upper margin is the 3px of the last declaration. -/
theorem exists_declares_lastSet?_margin :
    Rule.IsListable "p".toList ∧ "p".toList.head? ≠ some '@' ∧ marginBodies ≠ [] ∧
    (∀ body ∈ marginBodies, Rule.IsBody body) ∧
    Comment.strip marginJoined =
      ruleText "p".toList (List.intercalate " ; ".toList marginBodies) ∧
    Comment.strip marginApart = rulesText "p".toList marginBodies ∧
    Undisturbed "margin-top".toList (marginBodies.flatMap Declarations.stated) ∧
    ∃ one several, Declares marginJoined "p".toList one ∧
      Declares marginApart "p".toList several ∧
      one.get? "margin-top".toList = some "3px".toList ∧
      several.get? "margin-top".toList = some "3px".toList := by
  have hselector : Rule.IsListable "p".toList := by constructor <;> decide +kernel
  have hat : "p".toList.head? ≠ some '@' := by decide
  have hne : marginBodies ≠ [] := by decide
  have hbodies : ∀ body ∈ marginBodies, Rule.IsBody body := by
    simp only [marginBodies, List.forall_mem_cons]
    refine ⟨?_, ?_, by simp⟩ <;> constructor <;> decide +kernel
  have hjoined : Comment.strip marginJoined =
      ruleText "p".toList (List.intercalate " ; ".toList marginBodies) := by decide +kernel
  have hapart : Comment.strip marginApart = rulesText "p".toList marginBodies := by
    decide +kernel
  have hundisturbed :
      Undisturbed "margin-top".toList (marginBodies.flatMap Declarations.stated) := by
    decide +kernel
  have hvalue : lastSet? "margin-top".toList (marginBodies.flatMap Declarations.stated) =
      some "3px".toList := by decide +kernel
  obtain ⟨one, several, hone, hseveral, hget⟩ :=
    exists_declares_lastSet? hselector hat hne hbodies hjoined hapart
  obtain ⟨-, -, -, hlast⟩ := hget "margin-top".toList
  obtain ⟨hset, hsame⟩ := hlast hundisturbed
  exact ⟨hselector, hat, hne, hbodies, hjoined, hapart, hundisturbed, one, several, hone,
    hseveral, hset.trans hvalue, hsame.trans (hset.trans hvalue)⟩

/-- A sheet for `p` with an upper margin and 2px at the other edges. -/
def marginSheet (top : String) : Stylesheet :=
  ⟨[⟨"p".toList, 1, ⟨[("margin-top".toList, top.toList), ("margin-bottom".toList, "2px".toList),
    ("margin-right".toList, "2px".toList), ("margin-left".toList, "2px".toList)]⟩⟩]⟩

/-- A longhand declared in front of its shorthand and again behind it.  The last declaration
of the text sets the upper margin to 3px, and does so in a rule of its own, but in one block it
takes the place of the first one, and the shorthand behind that place sets it to 2px. -/
theorem exists_declares_ne_lastSet? :
    let body := "margin-top: 1px; margin: 2px; margin-top: 3px".toList
    let bodies := ["margin-top: 1px; margin: 2px".toList, "margin-top: 3px".toList]
    lastSet? "margin-top".toList (Declarations.stated body) = some "3px".toList ∧
      (∃ one, Declares (ruleText "p".toList body) "p".toList one ∧
        one.get? "margin-top".toList = some "2px".toList) ∧
      ∃ several, Declares (rulesText "p".toList bodies) "p".toList several ∧
        several.get? "margin-top".toList = some "3px".toList := by
  refine ⟨by decide +kernel, ⟨_, ⟨marginSheet "2px", ?_, rfl⟩, ?_⟩,
    ⟨_, ⟨marginSheet "3px", ?_, rfl⟩, ?_⟩⟩
  all_goals decide +kernel

end Stylesheet

end StyleInline
