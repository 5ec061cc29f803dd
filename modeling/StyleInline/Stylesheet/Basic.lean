import StyleInline.Declaration.Shorthand
import StyleInline.Stylesheet.Comment
import StyleInline.Stylesheet.Ranking
import StyleInline.Stylesheet.Rule

/-!
# Stylesheets

A stylesheet is read in three steps: its text into rules, the rules into one entry
for each selector, the entries into a ranking.  The declarations of a selector are
those of all rules that list it, shorthands expanded, later over earlier.

## Main definitions

* `Stylesheet` — the ranked rules.
* `Stylesheet.ofRules`, `Stylesheet.parse` — a sheet from rules and from text.
* `Stylesheet.get?` — the declarations of a selector.
* `Stylesheet.render` — the written form of a sheet.
-/

namespace StyleInline

/-- Rules in ranking order. -/
structure Stylesheet where
  rules : List RankedRule
deriving Repr, DecidableEq

/-- The rules of a text, comments aside. -/
def Rule.parseStylesheet (text : Text) : Except SyntaxError (List Rule) :=
  Rule.parseAll (Comment.strip text)

namespace Stylesheet

/-! ## Gathering -/

/-- Writes the declarations of a rule into the entry of one of its selectors. -/
def gatherSelector (declarations : Declarations) (entries : OrderedMap Text Declarations)
    (selector : Text) : OrderedMap Text Declarations :=
  entries.upsert selector fun present => (present.getD OrderedMap.empty).merge declarations

/-- Writes the expanded declarations of a rule into the entries of its selectors. -/
def gatherRule (entries : OrderedMap Text Declarations) (rule : Rule) :
    OrderedMap Text Declarations :=
  rule.selectors.foldl (gatherSelector rule.declarations.expand) entries

/-- One entry for each selector that the rules list, in the order in which the
selectors first appear. -/
def gather (rules : List Rule) : OrderedMap Text Declarations :=
  rules.foldl gatherRule OrderedMap.empty

/-! ## Sheets -/

/-- The sheet of a list of rules. -/
def ofRules (rules : List Rule) : Stylesheet := ⟨RankedRule.rank (gather rules).entries⟩

/-- Reads a sheet. -/
def parse (text : Text) : Except SyntaxError Stylesheet :=
  (Rule.parseStylesheet text).map ofRules

/-- The number of rules. -/
def size (sheet : Stylesheet) : Nat := sheet.rules.length

/-- Whether there are no rules. -/
def isEmpty (sheet : Stylesheet) : Bool := sheet.rules.isEmpty

/-- The declarations of a selector. -/
def get? (sheet : Stylesheet) (selector : Text) : Option Declarations :=
  (sheet.rules.find? (·.selector == selector)).map (·.declarations)

/-- The written form of a sheet: one line for each rule, in ranking order. -/
def render (sheet : Stylesheet) : Text :=
  sheet.rules.flatMap fun rule =>
    rule.selector ++ " \x7b ".toList ++ rule.declarations.render ++ " \x7d\n".toList

@[simp] theorem rules_ofRules (rules : List Rule) :
    (ofRules rules).rules = RankedRule.rank (gather rules).entries := rfl

/-- Without rules the sheet is empty. -/
@[simp] theorem rules_ofRules_nil : (ofRules []).rules = [] := rfl

end Stylesheet

end StyleInline
