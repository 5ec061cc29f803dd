import Mathlib.Data.List.Nodup
import Mathlib.Logic.Relation
import StyleInline.Forest

/-!
# Places in a forest

Where a label stands in a forest, and how two labels stand to each other.  A place is
given by the trees below a label and the trees behind it; parents, ancestors and
neighbours are read off places.  When no label occurs twice, a label has one place, and
what is below it can be looked at alone: `place_iff_of_mem_below` says that nothing is
lost by that.

## Main definitions

* `Forest.Place` — a label with what is below and behind it.
* `Forest.Parent`, `Forest.Ancestor`, `Forest.Adjacent` — how two labels stand.
* `Forest.Above` — the ancestors of a label, read off a single place;
  `ancestor_iff_above` says that these are all.
* `Forest.reach` — the longest chain of steps down and forward.
-/

namespace StyleInline.Forest

variable {α : Type}

/-! ## Places -/

/-- `a` stands in the forest with the trees `below` as its children and the trees
`behind` as its later siblings. -/
def Place : Forest α → (a : α) → (below behind : Forest α) → Prop
  | nil, _, _, _ => False
  | cons b children siblings, a, below, behind =>
    (a = b ∧ below = children ∧ behind = siblings) ∨
      children.Place a below behind ∨ siblings.Place a below behind

/-- The longest chain of steps down and forward. -/
def reach : Forest α → Nat
  | nil => 0
  | cons _ children siblings => max children.reach siblings.reach + 1

variable {forest below behind below' behind' : Forest α} {a b : α}

@[simp] theorem not_place_nil : ¬ (nil : Forest α).Place a below behind := id

@[simp] theorem place_cons_iff {children siblings : Forest α} :
    (cons b children siblings).Place a below behind ↔
      (a = b ∧ below = children ∧ behind = siblings) ∨
        children.Place a below behind ∨ siblings.Place a below behind := Iff.rfl

/-- The first root of a forest has a place in it. -/
theorem place_cons_self (a : α) (below behind : Forest α) :
    (cons a below behind).Place a below behind := Or.inl ⟨rfl, rfl, rfl⟩

/-- The labels are those that have a place. -/
theorem mem_preorder_iff_place :
    a ∈ forest.preorder ↔ ∃ below behind, forest.Place a below behind := by
  induction forest with
  | nil => simp
  | cons b children siblings ihc ihs =>
    simp only [preorder_cons, List.mem_cons, List.mem_append, ihc, ihs, place_cons_iff]
    constructor
    · rintro (rfl | ⟨below, behind, h⟩ | ⟨below, behind, h⟩)
      · exact ⟨children, siblings, .inl ⟨rfl, rfl, rfl⟩⟩
      · exact ⟨below, behind, .inr (.inl h)⟩
      · exact ⟨below, behind, .inr (.inr h)⟩
    · rintro ⟨below, behind, ⟨rfl, -, -⟩ | h | h⟩
      · exact .inl rfl
      · exact .inr (.inl ⟨below, behind, h⟩)
      · exact .inr (.inr ⟨below, behind, h⟩)

/-- What has a place is a label. -/
theorem Place.mem (h : forest.Place a below behind) : a ∈ forest.preorder :=
  mem_preorder_iff_place.2 ⟨below, behind, h⟩

/-- A place below a label is a place in the forest. -/
theorem Place.of_below {x : α} {k s : Forest α} (h : forest.Place x k s)
    (hk : k.Place a below behind) : forest.Place a below behind := by
  induction forest with
  | nil => exact h
  | cons b children siblings ihc ihs =>
    rcases h with ⟨-, rfl, -⟩ | h | h
    · exact .inr (.inl hk)
    · exact .inr (.inl (ihc h))
    · exact .inr (.inr (ihs h))

/-- What is below a label stands in the forest in the same order. -/
theorem Place.preorder_below_sublist (h : forest.Place a below behind) :
    below.preorder.Sublist forest.preorder := by
  induction forest with
  | nil => exact h.elim
  | cons b children siblings ihc ihs =>
    rw [preorder_cons]
    rcases h with ⟨-, rfl, -⟩ | h | h
    · exact (List.sublist_append_left _ _).cons b
    · exact ((ihc h).trans (List.sublist_append_left _ _)).cons b
    · exact ((ihs h).trans (List.sublist_append_right _ _)).cons b

/-- A chain of steps below a label can be made longer at its start. -/
theorem Place.reach_below_lt (h : forest.Place a below behind) : below.reach < forest.reach := by
  induction forest with
  | nil => exact h.elim
  | cons b children siblings ihc ihs =>
    rw [reach]
    rcases h with ⟨-, rfl, -⟩ | h | h
    · omega
    · have := ihc h; omega
    · have := ihs h; omega

/-! ## Distinct labels -/

/-- Distinct labels divide into the root, those below it and those behind it. -/
theorem nodup_preorder_cons_iff {children siblings : Forest α} :
    (cons b children siblings).preorder.Nodup ↔
      (b ∉ children.preorder ∧ b ∉ siblings.preorder) ∧
        children.preorder.Nodup ∧ siblings.preorder.Nodup ∧
          ∀ x ∈ children.preorder, x ∉ siblings.preorder := by
  simp only [preorder_cons, List.nodup_cons, List.mem_append, not_or, List.nodup_append]
  constructor
  · rintro ⟨hb, hc, hs, hd⟩
    exact ⟨hb, hc, hs, fun x hx hx' => hd x hx x hx' rfl⟩
  · rintro ⟨hb, hc, hs, hd⟩
    exact ⟨hb, hc, hs, fun x hx y hy hxy => hd x hx (hxy ▸ hy)⟩

/-- A label that occurs once has one place. -/
theorem Place.unique (hn : forest.preorder.Nodup) (h : forest.Place a below behind)
    (h' : forest.Place a below' behind') : below = below' ∧ behind = behind' := by
  induction forest with
  | nil => exact h.elim
  | cons b children siblings ihc ihs =>
    obtain ⟨⟨hbc, hbs⟩, hc, hs, hd⟩ := nodup_preorder_cons_iff.1 hn
    rcases h with ⟨rfl, rfl, rfl⟩ | h | h <;> rcases h' with ⟨h₁, h₂, h₃⟩ | h' | h'
    · exact ⟨h₂.symm, h₃.symm⟩
    · exact absurd h'.mem hbc
    · exact absurd h'.mem hbs
    · exact absurd (h₁ ▸ h.mem) hbc
    · exact ihc hc h h'
    · exact absurd h'.mem (hd a h.mem)
    · exact absurd (h₁ ▸ h.mem) hbs
    · exact absurd h.mem (hd a h'.mem)
    · exact ihs hs h h'

/-- What is below a label can be looked at alone. -/
theorem place_iff_of_mem_below (hn : forest.preorder.Nodup) {x : α} {k s : Forest α}
    (hx : forest.Place x k s) (ha : a ∈ k.preorder) :
    forest.Place a below behind ↔ k.Place a below behind := by
  constructor
  · intro h
    obtain ⟨below', behind', hk⟩ := mem_preorder_iff_place.1 ha
    obtain ⟨rfl, rfl⟩ := h.unique hn (hx.of_below hk)
    exact hk
  · exact hx.of_below

/-! ## How two labels stand -/

/-- `b` is a child of `a`. -/
def Parent (forest : Forest α) (a b : α) : Prop :=
  ∃ below behind, forest.Place a below behind ∧ b ∈ below.roots

/-- `a` is a parent of `b`, or the parent of a parent, and so on. -/
def Ancestor (forest : Forest α) : α → α → Prop := Relation.TransGen forest.Parent

/-- `b` is the next sibling behind `a`. -/
def Adjacent (forest : Forest α) (a b : α) : Prop :=
  ∃ below behind, forest.Place a below behind ∧ behind.roots.head? = some b

/-- `b` is among the labels below `a`. -/
def Above (forest : Forest α) (a b : α) : Prop :=
  ∃ below behind, forest.Place a below behind ∧ b ∈ below.preorder

@[simp] theorem not_parent_nil : ¬ (nil : Forest α).Parent a b := by simp [Parent]

@[simp] theorem not_above_nil : ¬ (nil : Forest α).Above a b := by simp [Above]

/-- The parents in a forest: its root, and the parents below and behind it. -/
theorem parent_cons_iff {x : α} {children siblings : Forest α} :
    (cons x children siblings).Parent a b ↔
      (a = x ∧ b ∈ children.roots) ∨ children.Parent a b ∨ siblings.Parent a b := by
  simp only [Parent, place_cons_iff, or_and_right, exists_or]
  grind

/-- The labels above others: the root of a forest, and those below and behind it. -/
theorem above_cons_iff {x : α} {children siblings : Forest α} :
    (cons x children siblings).Above a b ↔
      (a = x ∧ b ∈ children.preorder) ∨ children.Above a b ∨ siblings.Above a b := by
  simp only [Above, place_cons_iff, or_and_right, exists_or]
  grind

/-- Every label of a forest whose roots are children of `a` has `a` as an ancestor. -/
private theorem ancestor_of_mem_preorder {k : Forest α} (hb : b ∈ k.preorder)
    (hk : ∀ x c s, k.Place x c s → forest.Place x c s) (ha : ∀ r ∈ k.roots, forest.Parent a r) :
    forest.Ancestor a b := by
  induction k generalizing a with
  | nil => simp at hb
  | cons x children siblings ihc ihs =>
    have hax : forest.Parent a x := ha x (by simp)
    rw [preorder_cons, List.mem_cons, List.mem_append] at hb
    rcases hb with rfl | hb | hb
    · exact .single hax
    · refine Relation.TransGen.head hax (ihc hb (fun y c s h => hk y c s (.inr (.inl h))) ?_)
      exact fun r hr => ⟨children, siblings, hk _ _ _ (place_cons_self ..), hr⟩
    · exact ihs hb (fun y c s h => hk y c s (.inr (.inr h))) fun r hr => ha r (by simp [hr])

/-- The ancestors of a label are the labels that it is below. -/
theorem ancestor_iff_above (hn : forest.preorder.Nodup) :
    forest.Ancestor a b ↔ forest.Above a b := by
  constructor
  · intro h
    induction h with
    | single h =>
      obtain ⟨below, behind, hp, hb⟩ := h
      exact ⟨below, behind, hp, mem_preorder_of_mem_roots hb⟩
    | tail _ h ih =>
      obtain ⟨below, behind, hp, hb⟩ := ih
      obtain ⟨k, s, hk, hc⟩ := h
      have hk' := (place_iff_of_mem_below hn hp hb).1 hk
      exact ⟨below, behind, hp, hk'.preorder_below_sublist.subset (mem_preorder_of_mem_roots hc)⟩
  · rintro ⟨below, behind, hp, hb⟩
    exact ancestor_of_mem_preorder hb (fun _ _ _ => hp.of_below) fun r hr => ⟨below, behind, hp, hr⟩

/-- Below a label, parents are parents there. -/
theorem parent_iff_of_mem_below (hn : forest.preorder.Nodup) {x : α} {k s : Forest α}
    (hx : forest.Place x k s) (ha : a ∈ k.preorder) : forest.Parent a b ↔ k.Parent a b := by
  simp only [Parent, place_iff_of_mem_below hn hx ha]

/-- Below a label, the labels that stand above others do so there. -/
theorem above_iff_of_mem_below (hn : forest.preorder.Nodup) {x : α} {k s : Forest α}
    (hx : forest.Place x k s) (ha : a ∈ k.preorder) : forest.Above a b ↔ k.Above a b := by
  simp only [Above, place_iff_of_mem_below hn hx ha]

/-- Under a new root, neighbours stay neighbours. -/
theorem adjacent_single_iff {x : α} : (single x forest).Adjacent a b ↔ forest.Adjacent a b := by
  simp only [Adjacent, single, place_cons_iff, not_place_nil, or_false, or_and_right, exists_or]
  grind [roots_nil]

end StyleInline.Forest
