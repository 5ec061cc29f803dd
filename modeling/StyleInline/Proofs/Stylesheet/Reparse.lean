import StyleInline.Proofs.Declaration.Expanded
import StyleInline.Proofs.Stylesheet.Concatenation
import StyleInline.Proofs.Stylesheet.Ranking

/-!
# Reading a written sheet

A sheet that has been read is written one rule to a line, in ranking order, with its
shorthands expanded.  Each step of reading leaves such a text as it is: it has no comments,
its sections are its lines, its blocks have nothing to expand, its selectors are distinct and
its rules are ranked.

## Main definitions

* `RankedRule.IsReadable` — the rules that are read back from their line.

## Main results

* `Stylesheet.isReadable_of_parse` — a sheet that has been read has such rules.
* `Stylesheet.parse_render_of_isReadable` — sheets of such rules are read back.
* `Stylesheet.parse_render_of_parse` — reading is stable.
-/

namespace StyleInline

namespace RankedRule

/-- The rule that the line of a ranked rule holds. -/
def toRule (rule : RankedRule) : Rule := ⟨[rule.selector], rule.declarations⟩

/-- The entry from which a ranked rule is made. -/
def toEntry (rule : RankedRule) : Text × Declarations := (rule.selector, rule.declarations)

/-- A rule that is read back from its line. -/
structure IsReadable (rule : RankedRule) : Prop where
  isListable : Rule.IsListable rule.selector
  head?_ne : rule.selector.head? ≠ some '@'
  free : Comment.Free rule.selector
  isSettled : rule.declarations.IsSettled
  specificity_eq : rule.specificity = Specificity.ofSelector rule.selector

variable {rule : RankedRule}

theorem ofEntry_toEntry (h : rule.IsReadable) : ofEntry rule.toEntry = rule := by
  rw [ofEntry, toEntry, ← h.specificity_eq]

end RankedRule

namespace Stylesheet

variable {rule : RankedRule} {rules : List RankedRule} {source : Text} {sheet : Stylesheet}

/-! ## The text of a sheet -/

theorem render_cons (rule : RankedRule) (rules : List RankedRule) :
    render ⟨rule :: rules⟩ = rule.selector ++ ' ' :: '{' :: ' ' ::
      (rule.declarations.render ++ ' ' :: '}' :: '\n' :: render ⟨rules⟩) := by
  have hopen : " \x7b ".toList = [' ', '{', ' '] := rfl
  have hclose : " \x7d\n".toList = [' ', '}', '\n'] := rfl
  simp only [render, List.flatMap_cons, hopen, hclose, List.append_assoc, List.cons_append,
    List.nil_append]

/-- No comment begins in the text of a sheet. -/
theorem free_render (h : ∀ rule ∈ rules, rule.IsReadable) : Comment.Free (render ⟨rules⟩) := by
  induction rules with
  | nil => exact Comment.free_nil
  | cons rule rest ih =>
    obtain ⟨hrule, hlater⟩ := List.forall_mem_cons.1 h
    have hblock : Comment.Free rule.declarations.render := hrule.isSettled.isPlain_render.free
    have hbehind : Comment.Free ('}' :: '\n' :: render ⟨rest⟩) :=
      ((ih hlater).cons (by decide)).cons (by decide)
    have hbody : Comment.Free (rule.declarations.render ++ ' ' :: '}' :: '\n' :: render ⟨rest⟩) :=
      hblock.append_cons hbehind (by decide) (by decide)
    rw [render_cons]
    refine hrule.free.append_cons ?_ (by decide) (by decide)
    exact (hbody.cons (by decide)).cons (by decide)

/-- The line of a rule is a section that is read as the rule. -/
theorem ofSection?_line (h : rule.IsReadable) :
    Rule.ofSection? ⟨rule.selector ++ [' '], ' ' :: (rule.declarations.render ++ [' '])⟩
      = .ok (some rule.toRule) := by
  have hprelude : Text.trim (rule.selector ++ [' ']) = rule.selector := by
    rw [Text.trim_append_blank Text.isBlank_of_mem_space, h.isListable.trim_eq]
  refine Rule.ofSection?_eq_some_iff.2 ⟨?_, ?_, ?_, by simp [RankedRule.toRule], ?_⟩
  · rw [hprelude, Rule.preludeError?_eq_none_iff]
    exact ⟨h.isListable.close_notMem, h.head?_ne, h.isListable.semicolon_notMem⟩
  · have hopen := h.isSettled.isPlain_render.open_notMem
    simp [hopen]
  · rw [hprelude, Rule.selectorsOf_of_isListable h.isListable]
    rfl
  · exact Declarations.parse_spaced_render h.isSettled.isWellFormed

/-- The rules of the text of a sheet, line by line. -/
theorem parseAll_render (h : ∀ rule ∈ rules, rule.IsReadable) :
    Rule.parseAll (render ⟨rules⟩) = .ok (rules.map RankedRule.toRule) := by
  induction rules with
  | nil => exact Rule.parseAll_of_blank (by simp [render])
  | cons rule rest ih =>
    obtain ⟨hrule, hlater⟩ := List.forall_mem_cons.1 h
    -- the line feed of one line leads the next
    have hrest : Rule.parseAll (['\n'] ++ render ⟨rest⟩) = .ok (rest.map RankedRule.toRule) := by
      rw [Rule.parseAll_blank_append (List.forall_mem_singleton.2 rfl), ih hlater]
    have hprelude : '{' ∉ rule.selector ++ [' '] := by
      simp [hrule.isListable.open_notMem]
    have hbody : '}' ∉ ' ' :: (rule.declarations.render ++ [' ']) := by
      have hnot := hrule.isSettled.isPlain_render.close_notMem
      simp [hnot]
    have htext : render ⟨rule :: rest⟩ = rule.selector ++ [' '] ++ '{' ::
        (' ' :: (rule.declarations.render ++ [' ']) ++ '}' :: (['\n'] ++ render ⟨rest⟩)) := by
      simp [render_cons]
    rw [htext, Rule.parseAll_section hprelude hbody, ofSection?_line hrule, hrest]
    rfl

/-! ## Gathering and ranking -/

/-- Rules with a selector each that are all different are gathered as they are. -/
theorem gather_map_toRule (hselectors : (rules.map (·.selector)).Nodup)
    (h : ∀ rule ∈ rules, rule.declarations.IsSettled) :
    (gather (rules.map RankedRule.toRule)).entries = rules.map RankedRule.toEntry := by
  induction rules using List.reverseRecOn with
  | nil => rfl
  | append_singleton rules rule ih =>
    rw [List.map_append, List.nodup_append] at hselectors
    obtain ⟨hselectors, -, hnew⟩ := hselectors
    have hentries := ih hselectors fun other hother => h other (by simp [hother])
    have hblock := h rule (by simp)
    have hkey : rule.selector ∉ (gather (rules.map RankedRule.toRule)).keys := by
      rw [OrderedMap.keys, hentries, List.map_map]
      intro hmem
      exact hnew _ hmem rule.selector (by simp) rfl
    have hmerge : (OrderedMap.empty : Declarations).merge rule.declarations = rule.declarations :=
      OrderedMap.ofList_entries hblock.distinct
    calc (gather ((rules ++ [rule]).map RankedRule.toRule)).entries
        = (gatherRule (gather (rules.map RankedRule.toRule)) rule.toRule).entries := by
          rw [gather, List.map_append, List.foldl_append]
          rfl
      _ = ((gather (rules.map RankedRule.toRule)).insert rule.selector
            rule.declarations).entries := by
          rw [RankedRule.toRule, gatherRule, List.foldl_cons, List.foldl_nil, gatherSelector,
            OrderedMap.upsert, OrderedMap.get?_eq_none_iff.2 hkey, Option.getD_none,
            hblock.isExpanded.expand_eq, hmerge]
      _ = (rules ++ [rule]).map RankedRule.toEntry := by
          rw [OrderedMap.entries_insert_of_notMem hkey, hentries, List.map_append]
          rfl

/-- **A sheet of readable rules is read back**, if their selectors are all different and they
are ranked. -/
theorem parse_render_of_isReadable (h : ∀ rule ∈ rules, rule.IsReadable)
    (hselectors : (rules.map (·.selector)).Nodup)
    (hranked : rules.Pairwise fun a b => b.specificity ≤ a.specificity) :
    parse (render ⟨rules⟩) = .ok ⟨rules⟩ := by
  have hparse : Rule.parseStylesheet (render ⟨rules⟩) = .ok (rules.map RankedRule.toRule) := by
    rw [Rule.parseStylesheet, (free_render h).strip_eq, parseAll_render h]
  have hentries := gather_map_toRule hselectors fun rule hrule => (h rule hrule).isSettled
  have hrank : RankedRule.rank (rules.map RankedRule.toEntry) = rules := by
    have hmap : (rules.map RankedRule.toEntry).map RankedRule.ofEntry = rules := by
      rw [List.map_map]
      calc rules.map (RankedRule.ofEntry ∘ RankedRule.toEntry)
          = rules.map id :=
            List.map_congr_left fun rule hrule => RankedRule.ofEntry_toEntry (h rule hrule)
        _ = rules := List.map_id rules
    rw [RankedRule.rank, hmap, RankedRule.sortByWeight_of_pairwise hranked]
  rw [parse, hparse]
  change Except.ok (ofRules _) = _
  rw [ofRules, hentries, hrank]

/-! ## Sheets that have been read -/

/-- No value of `font` that the text declares has a blank other than a space. -/
def HasSpacedFonts (source : Text) : Prop :=
  ∀ rules, Rule.parseStylesheet source = .ok rules → ∀ rule ∈ rules,
    ∀ d ∈ rule.declarations.entries, d.1 = "font".toList → Text.IsSpaced d.2

/-- A sheet that has been read has readable rules, unless a selector begins with `@`. -/
theorem isReadable_of_parse (h : parse source = .ok sheet)
    (hcomment : ¬ ['/', '*'] <:+: Comment.strip source)
    (hat : ∀ rule ∈ sheet.rules, rule.selector.head? ≠ some '@')
    (hfont : HasSpacedFonts source) : ∀ rule ∈ sheet.rules, rule.IsReadable := by
  obtain ⟨rules, hrules, rfl⟩ := map_eq_ok_iff.1 h
  have hfree : Comment.Free (Comment.strip source) := Comment.free_strip hcomment
  have hsettled : ∀ rule ∈ rules, rule.declarations.expand.IsSettled := by
    intro rule hrule
    obtain ⟨-, body, hbody, hopen, hclose, hparse⟩ := Rule.of_mem_parseAll hrules hrule
    exact Declarations.isSettled_expand hparse ⟨hfree.of_infix hbody, hopen, hclose⟩
      (hfont rules hrules rule hrule)
  intro rule hrule
  obtain ⟨hentry, hweight⟩ := mem_rules_ofRules.1 hrule
  have hlisted : rule.selector ∈ listed rules := by
    rw [← List.mem_eraseDups, ← keys_gather]
    exact List.mem_map.2 ⟨_, hentry, rfl⟩
  obtain ⟨written, hwritten, hselector⟩ := List.mem_flatMap.1 hlisted
  obtain ⟨hlistable, hpart⟩ := (Rule.of_mem_parseAll hrules hwritten).1 _ hselector
  exact {
    isListable := hlistable
    head?_ne := hat rule hrule
    free := hfree.of_infix hpart
    isSettled := forall_mem_gather Declarations.isSettled_empty
      (fun rule hrule _ hblock => hblock.merge (hsettled rule hrule)) _ hentry
    specificity_eq := hweight }

/-- The rules of a sheet stand by descending weight. -/
theorem pairwise_specificity_ofRules (rules : List Rule) :
    (ofRules rules).rules.Pairwise fun a b => b.specificity ≤ a.specificity := by
  have hany : ((gather rules).entries.map RankedRule.ofEntry).Pairwise fun _ _ => True :=
    List.pairwise_of_forall fun _ _ => trivial
  refine (RankedRule.pairwise_sortByWeight hany).imp ?_
  intro a b hab
  rcases hab with hlt | ⟨heq, -⟩
  · exact UInt32.le_of_lt hlt
  · exact UInt32.le_of_eq heq.symm

/-- **Reading is stable.**  A sheet that has been read is read back from its written form,
with the same rules in the same order, provided that taking out the comments of the text has
left no `/*`, that no selector begins with `@`, and that no value of `font` has a blank other
than a space. -/
theorem parse_render_of_parse (h : parse source = .ok sheet)
    (hcomment : ¬ ['/', '*'] <:+: Comment.strip source)
    (hat : ∀ rule ∈ sheet.rules, rule.selector.head? ≠ some '@')
    (hfont : HasSpacedFonts source) : parse sheet.render = .ok sheet := by
  have hreadable := isReadable_of_parse h hcomment hat hfont
  obtain ⟨rules, -, rfl⟩ := map_eq_ok_iff.1 h
  exact parse_render_of_isReadable hreadable (nodup_selectors_ofRules rules)
    (pairwise_specificity_ofRules rules)

/-- A sheet with both kinds of comments, two rules for `h1`, a size with a line height and a
blank `padding`. -/
def siteText : Text :=
  "/* site */ h1, #x \x7b font: 12px/2 Arial \x7d // end\nh1 \x7b Padding:; color: red \x7d".toList

/-- The sheet of `siteText`. -/
def siteSheet : Stylesheet :=
  let font : List Declaration := [("line-height".toList, "2".toList),
    ("font-size".toList, "12px".toList), ("font-family".toList, "Arial".toList)]
  ⟨[⟨"#x".toList, 100, ⟨font⟩⟩,
    ⟨"h1".toList, 1, ⟨font ++ [("padding".toList, []), ("color".toList, "red".toList)]⟩⟩]⟩

/-- The blank `padding` stays as it is, and `font` does not come back. -/
theorem parse_render_of_parse_site :
    parse siteText = .ok siteSheet ∧ ¬ ['/', '*'] <:+: Comment.strip siteText ∧
    (∀ rule ∈ siteSheet.rules, rule.selector.head? ≠ some '@') ∧ HasSpacedFonts siteText ∧
    parse siteSheet.render = .ok siteSheet := by
  have hparse : parse siteText = .ok siteSheet := by decide +kernel
  have hcomment : ¬ ['/', '*'] <:+: Comment.strip siteText := by decide +kernel
  have hat : ∀ rule ∈ siteSheet.rules, rule.selector.head? ≠ some '@' := by decide +kernel
  have hfont : HasSpacedFonts siteText := by
    intro rules hrules
    have hread : Rule.parseStylesheet siteText = .ok [
        ⟨["h1".toList, "#x".toList], ⟨[("font".toList, "12px/2 Arial".toList)]⟩⟩,
        ⟨["h1".toList], ⟨[("padding".toList, []), ("color".toList, "red".toList)]⟩⟩] := by
      decide +kernel
    cases hread.symm.trans hrules
    decide +kernel
  exact ⟨hparse, hcomment, hat, hfont, parse_render_of_parse hparse hcomment hat hfont⟩

end Stylesheet

end StyleInline
