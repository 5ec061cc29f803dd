import Mathlib.Data.List.Basic
import StyleInline.Selector.Selection

/-!
# What a selector looks at

Selection takes steps, compares names and looks at some attributes.  Two trees that agree
but for one attribute therefore give the same elements to every selector that does not
look at it.

## Main definitions

* `Predicate.attribute?`, `Selector.Reads`, `SelectorGroup.Reads` — the attributes looked at.
* `AgreeExcept` — two trees with one set of handles that agree but for one attribute.

## Main results

* `SelectorGroup.select_congr` — trees that agree so give a group the same
  elements.
-/

namespace StyleInline

/-! ## Attributes looked at -/

/-- The attribute that a predicate looks at. -/
def Predicate.attribute? : Predicate → Option Text
  | id _ => some "id".toList
  | hasClass _ => some "class".toList
  | present name | equals name _ | word name _ | dash name _ => some name
  | firstChild | lastChild => none

/-- A predicate of the selector looks at the attribute. -/
def Selector.Reads (s : Selector) (name : Text) : Prop :=
  ∃ step ∈ s.steps, ∃ p ∈ step.2.predicates, p.attribute? = some name

/-- A selector of the group looks at the attribute. -/
def SelectorGroup.Reads (group : SelectorGroup) (name : Text) : Prop :=
  ∃ s ∈ group, s.Reads name

instance (s : Selector) (name : Text) : Decidable (s.Reads name) :=
  inferInstanceAs (Decidable (∃ step ∈ s.steps, ∃ p ∈ step.2.predicates, p.attribute? = some name))

instance (group : SelectorGroup) (name : Text) : Decidable (group.Reads name) :=
  inferInstanceAs (Decidable (∃ s ∈ group, s.Reads name))

/-! ## Trees that agree but for one attribute -/

open ElementTree

variable {T H : Type} [ElementTree T H]

/-- Two trees with the same steps, names and attributes other than `name`. -/
structure AgreeExcept (name : Text) (t t' : T) : Prop where
  bound_eq : bound t = bound t'
  firstChild_eq : ∀ n, firstChild t n = firstChild t' n
  nextSibling_eq : ∀ n, nextSibling t n = nextSibling t' n
  previousSibling_eq : ∀ n, previousSibling t n = previousSibling t' n
  localName_eq : ∀ n, localName t n = localName t' n
  attribute?_eq : ∀ n other, other ≠ name → attribute? t n other = attribute? t' n other

variable {name : Text} {t t' t'' : T}

namespace AgreeExcept

theorem refl (name : Text) (t : T) : AgreeExcept name t t :=
  ⟨rfl, fun _ => rfl, fun _ => rfl, fun _ => rfl, fun _ => rfl, fun _ _ _ => rfl⟩

theorem trans (h : AgreeExcept name t t') (h' : AgreeExcept name t' t'') :
    AgreeExcept name t t'' where
  bound_eq := h.bound_eq.trans h'.bound_eq
  firstChild_eq n := (h.firstChild_eq n).trans (h'.firstChild_eq n)
  nextSibling_eq n := (h.nextSibling_eq n).trans (h'.nextSibling_eq n)
  previousSibling_eq n := (h.previousSibling_eq n).trans (h'.previousSibling_eq n)
  localName_eq n := (h.localName_eq n).trans (h'.localName_eq n)
  attribute?_eq n other ho := (h.attribute?_eq n other ho).trans (h'.attribute?_eq n other ho)

/-- The same elements lie below a node. -/
theorem below_eq (h : AgreeExcept name t t') (node : H) : below t node = below t' node := by
  have hforest (fuel : Nat) : ∀ start, forestFrom t fuel start = forestFrom t' fuel start := by
    induction fuel with
    | zero => intro start; rfl
    | succ fuel ih =>
      intro start
      cases start with
      | none => rfl
      | some e => simp only [forestFrom, h.firstChild_eq, h.nextSibling_eq, ih]
  rw [below, below, h.bound_eq, h.firstChild_eq, hforest]

end AgreeExcept

/-! ## Selection -/

/-- A predicate that does not look at the attribute holds of the same elements. -/
theorem Predicate.holds_congr (h : AgreeExcept name t t') {p : Predicate}
    (hp : p.attribute? ≠ some name) (e : H) : p.holds t e = p.holds t' e := by
  cases p with
  | firstChild => rw [holds, holds, h.previousSibling_eq]
  | lastChild => rw [holds, holds, h.nextSibling_eq]
  | id | hasClass | present | equals | word | dash =>
    rw [holds, holds, h.attribute?_eq _ _ fun hname => hp (congrArg some hname)]

/-- A compound whose predicates do not look at the attribute holds of the same elements. -/
theorem Compound.holds_congr (h : AgreeExcept name t t') {compound : Compound}
    (hc : ∀ p ∈ compound.predicates, p.attribute? ≠ some name) (e : H) :
    compound.holds t e = compound.holds t' e := by
  have hall : compound.predicates.all (Predicate.holds t e)
      = compound.predicates.all (Predicate.holds t' e) := by
    rw [Bool.eq_iff_iff, List.all_eq_true, List.all_eq_true]
    exact forall₂_congr fun p hp => by rw [Predicate.holds_congr h (hc p hp)]
  rw [holds, holds, tagHolds, tagHolds, h.localName_eq, hall]

/-- So it does whatever combinator leads to them. -/
theorem Compound.holdsAfter_congr (h : AgreeExcept name t t') {compound : Compound}
    (hc : ∀ p ∈ compound.predicates, p.attribute? ≠ some name) (e : H) (combinator : Combinator) :
    compound.holdsAfter t e combinator = compound.holdsAfter t' e combinator := by
  have hunplaced : ∀ p ∈ compound.unplaced.predicates, p.attribute? ≠ some name :=
    fun p hp => hc p (List.mem_filter.1 hp).1
  rw [holdsAfter, holdsAfter, holdsBeside, holdsBeside, holds_congr h hc,
    holds_congr h hunplaced]

variable [DecidableEq H]

namespace Selector

/-- One step selects the same elements. -/
theorem walk_congr (h : AgreeExcept name t t') {compound : Compound}
    (hc : ∀ p ∈ compound.predicates, p.attribute? ≠ some name) (combinator : Combinator)
    (current : List H) (parent : H) (inside : Bool) (forest : Forest H) :
    walk t combinator compound current parent inside forest
      = walk t' combinator compound current parent inside forest := by
  induction forest generalizing parent inside with
  | nil => rfl
  | cons e children siblings ihc ihs =>
    have hrelated : related t combinator current parent inside e
        = related t' combinator current parent inside e := by
      cases combinator <;> simp only [related, h.previousSibling_eq]
    rw [walk, walk, ihc, ihs, hrelated, Compound.holdsAfter_congr h hc]

/-- A selector that does not look at the attribute selects the same elements. -/
theorem select_congr (h : AgreeExcept name t t') {s : Selector} (hs : ¬ s.Reads name)
    (context : H) : select t s context = select t' s context := by
  rw [select, select, h.below_eq]
  refine List.foldl_ext _ _ _ ?_
  intro current next hnext
  have hc : ∀ p ∈ next.2.predicates, p.attribute? ≠ some name :=
    fun p hp hname => hs ⟨next, hnext, p, hp, hname⟩
  rw [step, step, walk_congr h hc]

end Selector

/-- A group that does not look at the attribute selects the same elements. -/
theorem SelectorGroup.select_congr (h : AgreeExcept name t t') {group : SelectorGroup}
    (hg : ¬ group.Reads name) (context : H) : select t group context = select t' group context := by
  have hmap : group.map (fun s => Selector.select t s context)
      = group.map (fun s => Selector.select t' s context) := by
    refine List.map_congr_left ?_
    intro s hs
    exact Selector.select_congr h (fun hreads => hg ⟨s, hs, hreads⟩) context
  rw [select, select, List.flatMap_def, List.flatMap_def, hmap]

end StyleInline
