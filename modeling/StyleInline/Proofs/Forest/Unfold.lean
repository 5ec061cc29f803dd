import StyleInline.Proofs.Forest.Place

/-!
# Unfolding

A function that lists what stands next below a label unfolds into a forest.  When every label
is listed once and no chain of steps returns to its start, the forest has distinct labels; they
are what the steps reach, and neighbours in the forest are neighbours in a list.

## Main definitions

* `Forest.Leads`, `Forest.Branches` — one step down, and when the steps make up trees.
* `Forest.Unfolds` — the forests that unfold a function.
* `Forest.unfold` — such a forest, walked with as many steps as are needed.

## Main results

* `Forest.unfolds_unfold` — it unfolds the function, if a rank falls along the steps.
* `Forest.Unfolds.mem_preorder_iff` — its labels are those that the steps reach.
* `Forest.Unfolds.adjacent_iff` — its neighbours are neighbours in a list.
* `Forest.Unfolds.map`, `Forest.adjacent_map_iff` — a renamed forest unfolds a renamed function,
  and has renamed neighbours.
-/

namespace StyleInline.Forest

open Relation

variable {α β : Type} {next : α → List α} {next' : β → List β} {f : α → β} {roots : List α}
  {forest below behind : Forest α} {a b n x : α}

/-- The labels of one tree are its root and those below it. -/
@[simp] theorem mem_preorder_single_iff : x ∈ (single a forest).preorder ↔
    x = a ∨ x ∈ forest.preorder := by
  simp [single]

/-! ## Steps down -/

/-- `b` stands next below `a`. -/
def Leads (next : α → List α) (a b : α) : Prop := b ∈ next a

/-- The steps make up trees: a label is listed once at most, and it is not below itself. -/
structure Branches (next : α → List α) : Prop where
  nodup : ∀ a, (next a).Nodup
  unique : ∀ {a b c}, c ∈ next a → c ∈ next b → a = b
  acyclic : ∀ a, ¬ TransGen (Leads next) a a

namespace Branches

variable (h : Branches next)
include h

/-- Of two labels in one list, none is below the other. -/
theorem eq_of_reflTransGen {p : α} (ha : a ∈ next p) (hb : b ∈ next p)
    (hab : ReflTransGen (Leads next) a b) : a = b := by
  rcases hab.cases_tail with heq | ⟨q, haq, hqb⟩
  · exact heq.symm
  · cases h.unique hqb hb
    exact absurd (TransGen.head' ha haq) (h.acyclic p)

/-- Of two labels above a third, one is above the other. -/
theorem reflTransGen_total (ha : ReflTransGen (Leads next) a x)
    (hb : ReflTransGen (Leads next) b x) :
    ReflTransGen (Leads next) a b ∨ ReflTransGen (Leads next) b a := by
  have hunique : Relator.RightUnique (Function.swap (Leads next)) := fun _ _ _ => h.unique
  rcases ReflTransGen.total_of_right_unique hunique ha.swap hb.swap with hab | hba
  · exact .inr hab.swap
  · exact .inl hba.swap

end Branches

/-! ## The forests that unfold a function -/

/-- The roots of the forest are given, and below a label stands what the function lists. -/
structure Unfolds (next : α → List α) (roots : List α) (forest : Forest α) : Prop where
  roots_eq : forest.roots = roots
  below_eq : ∀ {a : α} {below behind : Forest α}, forest.Place a below behind →
    below.roots = next a

theorem unfolds_nil_iff : Unfolds next roots .nil ↔ roots = [] :=
  ⟨fun h => h.roots_eq.symm, fun h => ⟨h.symm, fun hp => hp.elim⟩⟩

/-- A forest unfolds a function if what is below its first root and what is behind it do. -/
theorem unfolds_cons_iff {c s : Forest α} : Unfolds next roots (.cons a c s) ↔
    roots = a :: s.roots ∧ Unfolds next (next a) c ∧ Unfolds next s.roots s := by
  constructor
  · intro h
    have hchildren : Unfolds next (next a) c :=
      ⟨h.below_eq (place_cons_self a c s), fun hp => h.below_eq (.inr (.inl hp))⟩
    exact ⟨h.roots_eq.symm, hchildren, rfl, fun hp => h.below_eq (.inr (.inr hp))⟩
  · rintro ⟨rfl, hchildren, hsiblings⟩
    refine ⟨rfl, fun hp => ?_⟩
    rcases hp with ⟨rfl, rfl, -⟩ | hp | hp
    · exact hchildren.roots_eq
    · exact hchildren.below_eq hp
    · exact hsiblings.below_eq hp

instance Unfolds.instDecidable [DecidableEq α] (next : α → List α) : (roots : List α) →
    (forest : Forest α) → Decidable (Unfolds next roots forest)
  | _, nil => decidable_of_iff _ unfolds_nil_iff.symm
  | _, cons a c s =>
    haveI := instDecidable next (next a) c
    haveI := instDecidable next s.roots s
    decidable_of_iff _ unfolds_cons_iff.symm

namespace Unfolds

/-- What stands below the first root unfolds the function from there. -/
theorem children {c s : Forest α} (h : Unfolds next roots (cons a c s)) :
    Unfolds next (next a) c :=
  (unfolds_cons_iff.1 h).2.1

/-- What stands behind the first root unfolds the function from the later roots. -/
theorem siblings {c s : Forest α} (h : Unfolds next roots (cons a c s)) :
    Unfolds next s.roots s :=
  (unfolds_cons_iff.1 h).2.2

/-- The labels are what the steps reach from the roots. -/
theorem mem_preorder_iff (h : Unfolds next roots forest) :
    x ∈ forest.preorder ↔ ∃ r ∈ roots, ReflTransGen (Leads next) r x := by
  constructor
  · intro hx
    induction forest generalizing roots with
    | nil => simp at hx
    | cons a c s ihc ihs =>
      rw [← h.roots_eq]
      rw [preorder_cons, List.mem_cons, List.mem_append] at hx
      rcases hx with rfl | hx | hx
      · exact ⟨x, by simp, .refl⟩
      · obtain ⟨r, hr, hrx⟩ := ihc h.children hx
        exact ⟨a, by simp, .head hr hrx⟩
      · obtain ⟨r, hr, hrx⟩ := ihs h.siblings hx
        exact ⟨r, by simp [hr], hrx⟩
  · rintro ⟨r, hr, hrx⟩
    induction hrx with
    | refl => exact mem_preorder_of_mem_roots (h.roots_eq ▸ hr)
    | tail _ hbc ih =>
      obtain ⟨below, behind, hp⟩ := mem_preorder_iff_place.1 ih
      refine hp.preorder_below_sublist.subset (mem_preorder_of_mem_roots ?_)
      rw [h.below_eq hp]
      exact hbc

/-- The labels below a label are what one step or more lead to. -/
theorem mem_preorder_iff_transGen (h : Unfolds next (next n) forest) :
    x ∈ forest.preorder ↔ TransGen (Leads next) n x := by
  rw [h.mem_preorder_iff, TransGen.head'_iff]
  rfl

/-- A forest whose roots end the list of a label has distinct labels. -/
theorem nodup_preorder (hnext : Branches next) (h : Unfolds next roots forest)
    (hroots : roots <:+ next n) : forest.preorder.Nodup := by
  -- The later roots and the first one stand in one list, so nothing is below two of them.
  induction forest generalizing roots n with
  | nil => exact List.nodup_nil
  | cons a c s ihc ihs =>
    have hlist : a :: s.roots <:+ next n := by
      rw [← h.roots_eq] at hroots
      exact hroots
    have ha : a ∈ next n := hlist.subset List.mem_cons_self
    have hnot : a ∉ s.roots := ((hnext.nodup n).sublist hlist.sublist).notMem
    have hapart {r : α} (hr : r ∈ s.roots) : r ≠ a ∧ r ∈ next n :=
      ⟨fun heq => hnot (heq ▸ hr), hlist.subset (List.mem_cons_of_mem a hr)⟩
    refine nodup_preorder_cons_iff.2 ⟨⟨?_, ?_⟩, ihc h.children (List.suffix_refl _),
      ihs h.siblings ((List.suffix_cons a _).trans hlist), ?_⟩
    · intro hmem
      exact hnext.acyclic a (h.children.mem_preorder_iff_transGen.1 hmem)
    · intro hmem
      obtain ⟨r, hr, hra⟩ := h.siblings.mem_preorder_iff.1 hmem
      exact (hapart hr).1 (hnext.eq_of_reflTransGen (hapart hr).2 ha hra)
    · intro x hx hx'
      have hax := (h.children.mem_preorder_iff_transGen.1 hx).to_reflTransGen
      obtain ⟨r, hr, hrx⟩ := h.siblings.mem_preorder_iff.1 hx'
      rcases hnext.reflTransGen_total hax hrx with har | hra
      · exact (hapart hr).1 (hnext.eq_of_reflTransGen ha (hapart hr).2 har).symm
      · exact (hapart hr).1 (hnext.eq_of_reflTransGen (hapart hr).2 ha hra)

/-- Under their own root the labels below it are distinct too. -/
theorem nodup_preorder_single (hnext : Branches next) (h : Unfolds next (next n) forest) :
    (single n forest).preorder.Nodup := by
  have hn : n ∉ forest.preorder :=
    fun hmem => hnext.acyclic n (h.mem_preorder_iff_transGen.1 hmem)
  simpa [single, hn] using h.nodup_preorder hnext (List.suffix_refl _)

end Unfolds

/-! ## Rows of siblings -/

/-- A row is cut at a label in one way. -/
theorem row_unique {row before before' after after' : List α} (hrow : row.Nodup)
    (h : row = before ++ a :: after) (h' : row = before' ++ a :: after') :
    before = before' ∧ after = after' := by
  subst h
  have hnot := (List.nodup_middle.1 hrow).notMem
  rw [List.mem_append, not_or] at hnot
  obtain ⟨hbefore, -, hafter⟩ := (List.append_cons_inj_of_notMem hnot.1 hnot.2).1 h'
  exact ⟨hbefore, hafter⟩

/-- A label stands in a row, among the roots of a forest or below another label. -/
private theorem exists_row_of_place (h : forest.Place x below behind) :
    (∃ before, forest.roots = before ++ x :: behind.roots) ∨
      ∃ p k s before, forest.Place p k s ∧ k.roots = before ++ x :: behind.roots := by
  induction forest with
  | nil => exact h.elim
  | cons a c s ihc ihs =>
    rcases h with ⟨rfl, -, rfl⟩ | h | h
    · exact .inl ⟨[], rfl⟩
    · rcases ihc h with ⟨before, hrow⟩ | ⟨p, k, s', before, hp, hrow⟩
      · exact .inr ⟨a, c, s, before, place_cons_self a c s, hrow⟩
      · exact .inr ⟨p, k, s', before, .inr (.inl hp), hrow⟩
    · rcases ihs h with ⟨before, hrow⟩ | ⟨p, k, s', before, hp, hrow⟩
      · exact .inl ⟨a :: before, by rw [roots_cons, hrow, List.cons_append]⟩
      · exact .inr ⟨p, k, s', before, .inr (.inr hp), hrow⟩

namespace Unfolds

/-- A label stands in the list of a label above it, in front of its later siblings. -/
theorem exists_row (h : Unfolds next (next n) forest) (hp : forest.Place x below behind) :
    ∃ p ∈ (single n forest).preorder, ∃ before, next p = before ++ x :: behind.roots := by
  rcases exists_row_of_place hp with ⟨before, hrow⟩ | ⟨p, k, s, before, hp, hrow⟩
  · exact ⟨n, by simp, before, h.roots_eq ▸ hrow⟩
  · exact ⟨p, by simp [hp.mem], before, h.below_eq hp ▸ hrow⟩

/-- Neighbours in the forest are neighbours in a list. -/
theorem adjacent_iff (hnext : Branches next) (h : Unfolds next (next n) forest) :
    forest.Adjacent a b ↔
      ∃ p ∈ (single n forest).preorder, ∃ before after, next p = before ++ a :: b :: after := by
  constructor
  · rintro ⟨below, behind, hp, hb⟩
    obtain ⟨p, hmem, before, hrow⟩ := h.exists_row hp
    obtain ⟨after, hafter⟩ := List.head?_eq_some_iff.1 hb
    exact ⟨p, hmem, before, after, by rw [hrow, hafter]⟩
  · rintro ⟨p, hp, before, after, hrow⟩
    have ha : a ∈ next p := by simp [hrow]
    have hmem : a ∈ forest.preorder := by
      rw [h.mem_preorder_iff_transGen]
      rcases mem_preorder_single_iff.1 hp with rfl | hp
      · exact .single ha
      · exact (h.mem_preorder_iff_transGen.1 hp).tail ha
    obtain ⟨below, behind, hplace⟩ := mem_preorder_iff_place.1 hmem
    obtain ⟨q, -, before', hrow'⟩ := h.exists_row hplace
    have hpq : p = q := hnext.unique ha (by simp [hrow'])
    subst hpq
    obtain ⟨-, hafter⟩ := row_unique (hnext.nodup p) hrow hrow'
    exact ⟨below, behind, hplace, by rw [← hafter, List.head?_cons]⟩

end Unfolds

/-! ## Unfolding by rank -/

/-- The forest with the given roots, down to `depth` levels. -/
def unfold (next : α → List α) : (depth : Nat) → (roots : List α) → Forest α
  | 0, _ => .nil
  | depth + 1, roots =>
    roots.foldr (fun a behind => .cons a (unfold next depth (next a)) behind) .nil

/-- Unfolding down to a depth unfolds, if a rank falls along the steps and the roots rank below
that depth. -/
theorem unfolds_unfold {rank : α → Nat} (hrank : ∀ {a b}, b ∈ next a → rank b < rank a)
    {depth : Nat} (hroots : ∀ r ∈ roots, rank r < depth) :
    Unfolds next roots (unfold next depth roots) := by
  induction depth generalizing roots with
  | zero =>
    cases roots with
    | nil => exact unfolds_nil_iff.2 rfl
    | cons r roots => exact absurd (hroots r List.mem_cons_self) (Nat.not_lt_zero _)
  | succ depth ih =>
    rw [unfold]
    induction roots with
    | nil => exact unfolds_nil_iff.2 rfl
    | cons r roots ihr =>
      have hrest := ihr fun r' hr' => hroots r' (List.mem_cons_of_mem r hr')
      have hchildren : Unfolds next (next r) (unfold next depth (next r)) := by
        refine ih fun b hb => ?_
        have := hrank hb
        have := hroots r List.mem_cons_self
        omega
      rw [List.foldr_cons, unfolds_cons_iff, hrest.roots_eq]
      exact ⟨rfl, hchildren, hrest⟩

/-! ## Renaming -/

@[simp] theorem roots_map (f : α → β) (forest : Forest α) :
    (forest.map f).roots = forest.roots.map f := by
  induction forest with
  | nil => rfl
  | cons a c s _ ihs => simp [map, ihs]

/-- A place in a renamed forest is a renamed place. -/
theorem exists_place_of_map {y : β} {k s : Forest β} (h : (forest.map f).Place y k s) :
    ∃ x below behind, forest.Place x below behind ∧ f x = y ∧ below.map f = k ∧
      behind.map f = s := by
  induction forest with
  | nil => exact h.elim
  | cons a c s' ihc ihs =>
    rcases h with ⟨rfl, rfl, rfl⟩ | h | h
    · exact ⟨a, c, s', place_cons_self a c s', rfl, rfl, rfl⟩
    · obtain ⟨x, below, behind, hp, hx⟩ := ihc h
      exact ⟨x, below, behind, .inr (.inl hp), hx⟩
    · obtain ⟨x, below, behind, hp, hx⟩ := ihs h
      exact ⟨x, below, behind, .inr (.inr hp), hx⟩

theorem Place.map (h : forest.Place a below behind) (f : α → β) :
    (forest.map f).Place (f a) (below.map f) (behind.map f) := by
  induction forest with
  | nil => exact h.elim
  | cons x c s ihc ihs =>
    rcases h with ⟨rfl, rfl, rfl⟩ | h | h
    · exact .inl ⟨rfl, rfl, rfl⟩
    · exact .inr (.inl (ihc h))
    · exact .inr (.inr (ihs h))

/-- What stands behind a label stands in the forest. -/
theorem Place.mem_of_mem_behind (h : forest.Place a below behind) (hb : b ∈ behind.preorder) :
    b ∈ forest.preorder := by
  induction forest with
  | nil => exact h.elim
  | cons x c s ihc ihs =>
    rw [preorder_cons, List.mem_cons, List.mem_append]
    rcases h with ⟨-, -, rfl⟩ | h | h
    · exact .inr (.inr hb)
    · exact .inr (.inl (ihc h))
    · exact .inr (.inr (ihs h))

/-- Neighbours keep being neighbours under other names, and no others become so. -/
theorem adjacent_map_iff (hf : ∀ x ∈ forest.preorder, f x = f b → x = b) {y : β} :
    (forest.map f).Adjacent y (f b) ↔ ∃ a, f a = y ∧ forest.Adjacent a b := by
  constructor
  · rintro ⟨k, s, hk, hs⟩
    obtain ⟨a, below, behind, hp, rfl, rfl, rfl⟩ := exists_place_of_map hk
    rw [roots_map, List.head?_map, Option.map_eq_some_iff] at hs
    obtain ⟨x, hx, hxb⟩ := hs
    have hmem : x ∈ behind.preorder := mem_preorder_of_mem_roots (List.mem_of_head? hx)
    obtain rfl := hf x (hp.mem_of_mem_behind hmem) hxb
    exact ⟨a, rfl, below, behind, hp, hx⟩
  · rintro ⟨a, rfl, below, behind, hp, hb⟩
    exact ⟨below.map f, behind.map f, hp.map f, by rw [roots_map, List.head?_map, hb]; rfl⟩

/-- A renamed forest unfolds a function that lists the renamed labels. -/
theorem Unfolds.map (h : Unfolds next roots forest)
    (hf : ∀ x ∈ forest.preorder, next' (f x) = (next x).map f) :
    Unfolds next' (roots.map f) (forest.map f) where
  roots_eq := by rw [roots_map, h.roots_eq]
  below_eq hp := by
    obtain ⟨x, below, behind, hx, rfl, rfl, -⟩ := exists_place_of_map hp
    rw [roots_map, h.below_eq hx, hf x hx.mem]

/-! ## Size -/

/-- A chain of steps passes a label at each step. -/
theorem reach_le_length_preorder (forest : Forest α) : forest.reach ≤ forest.preorder.length := by
  induction forest with
  | nil => exact Nat.le_refl _
  | cons a c s ihc ihs =>
    rw [reach, preorder_cons, List.length_cons, List.length_append]
    omega

end StyleInline.Forest
