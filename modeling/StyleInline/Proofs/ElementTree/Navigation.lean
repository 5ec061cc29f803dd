import StyleInline.ElementTree
import StyleInline.Proofs.Forest.Place

/-!
# Trees that navigate a forest

A tree of elements offers steps only.  `Navigates` says that these steps are those of a
finite ordered forest of elements in a container; then the elements found below any node
are the ones that stand below it in the forest.

## Main definitions

* `Navigates` — the steps of a tree are those of a forest.

## Main results

* `Navigates.below_eq` — what the steps find below a node is what stands below it.
-/

namespace StyleInline

open ElementTree

variable {T H : Type} [ElementTree T H]

/-- The steps of `t` are those of a forest of elements with distinct handles, whose roots
are the children of `container`, and the bound of `t` keeps its promise.  Nothing is said
of steps from other nodes. -/
structure Navigates (t : T) (container : H) (elements : Forest H) : Prop where
  nodup : (Forest.single container elements).preorder.Nodup
  firstChild_eq : ∀ {n : H} {below behind : Forest H},
    (Forest.single container elements).Place n below behind →
      firstChild t n = below.roots.head?
  nextSibling_eq : ∀ {e : H} {below behind : Forest H},
    elements.Place e below behind → nextSibling t e = behind.roots.head?
  previousSibling_eq_some_iff : ∀ {e : H}, e ∈ elements.preorder →
    ∀ a, previousSibling t e = some a ↔ elements.Adjacent a e
  reach_le_bound : elements.reach ≤ bound t

/-- Steps down and forward from the first root of a forest find the forest. -/
theorem forestFrom_roots_head? {t : T} {forest : Forest H}
    (hf : ∀ {n : H} {below behind : Forest H}, forest.Place n below behind →
      firstChild t n = below.roots.head? ∧ nextSibling t n = behind.roots.head?)
    {fuel : Nat} (h : forest.reach ≤ fuel) : forestFrom t fuel forest.roots.head? = forest := by
  induction forest generalizing fuel with
  | nil => exact forestFrom_none t fuel
  | cons e children siblings ihc ihs =>
    obtain ⟨hc, hs⟩ := hf (Forest.place_cons_self e children siblings)
    rw [Forest.reach] at h
    obtain ⟨fuel, rfl⟩ : ∃ n, fuel = n + 1 := ⟨fuel - 1, by omega⟩
    have hchildren : forestFrom t fuel children.roots.head? = children :=
      ihc (fun hp => hf (.inr (.inl hp))) (by omega)
    have hsiblings : forestFrom t fuel siblings.roots.head? = siblings :=
      ihs (fun hp => hf (.inr (.inr hp))) (by omega)
    simp only [Forest.roots_cons, List.head?_cons, forestFrom, hc, hs, hchildren, hsiblings]

namespace Navigates

variable {t : T} {container context : H} {elements below behind : Forest H}

/-- No element stands twice among the elements. -/
theorem nodup_elements (h : Navigates t container elements) : elements.preorder.Nodup :=
  h.nodup.sublist (Forest.place_cons_self container elements .nil).preorder_below_sublist

/-- What has a place below a node is an element. -/
theorem place_elements (h : Navigates t container elements)
    (hp : (Forest.single container elements).Place context below behind) {e : H}
    {k s : Forest H} (he : below.Place e k s) : elements.Place e k s := by
  have hne : e ≠ container := by
    rintro rfl
    obtain ⟨⟨hc, -⟩, -⟩ := Forest.nodup_preorder_cons_iff.1 h.nodup
    rcases hp with ⟨rfl, rfl, -⟩ | hp | hp
    · exact hc he.mem
    · exact hc (hp.of_below he).mem
    · exact hp
  rcases hp.of_below he with ⟨rfl, -, -⟩ | he | he
  · exact absurd rfl hne
  · exact he
  · exact he.elim

/-- What the steps find below a node is what stands below it. -/
theorem below_eq (h : Navigates t container elements)
    (hp : (Forest.single container elements).Place context below behind) :
    ElementTree.below t context = below := by
  have hreach : below.reach ≤ bound t := by
    rcases hp with ⟨-, rfl, -⟩ | hp | hp
    · exact h.reach_le_bound
    · exact Nat.le_trans (Nat.le_of_lt hp.reach_below_lt) h.reach_le_bound
    · exact hp.elim
  rw [ElementTree.below, h.firstChild_eq hp]
  refine forestFrom_roots_head? (fun he => ?_) hreach
  exact ⟨h.firstChild_eq (hp.of_below he), h.nextSibling_eq (h.place_elements hp he)⟩

/-- No node is below itself. -/
theorem notMem_below (h : Navigates t container elements)
    (hp : (Forest.single container elements).Place context below behind) :
    context ∉ below.preorder := by
  intro hc
  obtain ⟨k, s, hk⟩ := Forest.mem_preorder_iff_place.1 hc
  obtain ⟨rfl, -⟩ := (hp.of_below hk).unique h.nodup hp
  exact absurd hk.reach_below_lt (Nat.lt_irrefl _)

/-- What stands below a node has it as an ancestor. -/
theorem mem_below_iff (h : Navigates t container elements)
    (hp : (Forest.single container elements).Place context below behind) {e : H} :
    e ∈ below.preorder ↔ (Forest.single container elements).Ancestor context e := by
  rw [Forest.ancestor_iff_above h.nodup]
  constructor
  · intro he
    exact ⟨below, behind, hp, he⟩
  · rintro ⟨k, s, hk, he⟩
    obtain ⟨rfl, -⟩ := hk.unique h.nodup hp
    exact he

/-- What stands below a node stands in the order of the elements. -/
theorem preorder_below_sublist
    (hp : (Forest.single container elements).Place context below behind) :
    below.preorder.Sublist elements.preorder := by
  rcases hp with ⟨-, rfl, -⟩ | hp | hp
  · exact .refl _
  · exact hp.preorder_below_sublist
  · exact hp.elim

end Navigates

end StyleInline
