import Mathlib.Data.List.Induction

/-!
# First appearances

What is left of a list when repetitions are erased: every element once, where it first
appears.  Selectors that rules list, selectors that are remembered, elements that branches and
rules select and filters that are asked for all come in this order.

## Main results

* `eraseDups_append_singleton`, `eraseDups_append_eq` — one more element, and another list.
* `pairwise_idxOf_eraseDups` — the order of what is left.
* `eraseDups_of_nodup` — nothing is erased where nothing is repeated.
-/

namespace StyleInline

variable {α : Type} [BEq α] [LawfulBEq α]

/-- One more element is new or has appeared. -/
theorem eraseDups_append_singleton (l : List α) (a : α) :
    (l ++ [a]).eraseDups = if a ∈ l then l.eraseDups else l.eraseDups ++ [a] := by
  rw [List.eraseDups_append]
  by_cases h : a ∈ l
  · simp [List.removeAll, h]
  · simp [List.removeAll, h, List.eraseDups_cons]

/-- Without repetitions a list stands in the order of first appearance. -/
theorem pairwise_idxOf_eraseDups (l : List α) :
    l.eraseDups.Pairwise fun a b => l.idxOf a < l.idxOf b := by
  induction l using List.reverseRecOn with
  | nil => exact .nil
  | append_singleton l c ih =>
    have hidx {a : α} (ha : a ∈ l) : (l ++ [c]).idxOf a = l.idxOf a := by
      rw [List.idxOf_append, if_pos ha]
    have hold : l.eraseDups.Pairwise fun a b => (l ++ [c]).idxOf a < (l ++ [c]).idxOf b := by
      refine ih.imp_of_mem ?_
      intro a b ha hb hab
      rw [hidx (List.mem_eraseDups.1 ha), hidx (List.mem_eraseDups.1 hb)]
      exact hab
    rw [eraseDups_append_singleton]
    split
    · exact hold
    · next hc =>
      refine List.pairwise_append.2 ⟨hold, List.pairwise_singleton _ _, ?_⟩
      intro a ha b hb
      rw [List.mem_eraseDups] at ha
      rw [List.mem_singleton.1 hb, hidx ha, List.idxOf_append, if_neg hc]
      exact Nat.lt_of_lt_of_le (List.idxOf_lt_length_of_mem ha) (Nat.le_add_left _ _)

/-- Without repetitions no element stands twice. -/
theorem nodup_eraseDups (l : List α) : l.eraseDups.Nodup :=
  (pairwise_idxOf_eraseDups l).imp fun h heq => absurd (heq ▸ h) (Nat.lt_irrefl _)

/-- A list without repetitions stays as it is. -/
theorem eraseDups_of_nodup {l : List α} (h : l.Nodup) : l.eraseDups = l := by
  induction l using List.reverseRecOn with
  | nil => rfl
  | append_singleton l a ih =>
    obtain ⟨hl, -, hne⟩ := List.nodup_append.1 h
    have ha : a ∉ l := fun hmem => hne a hmem a (List.mem_singleton.2 rfl) rfl
    rw [eraseDups_append_singleton, if_neg ha, ih hl]

/-- The elements of a list without repetitions stand where they first appear. -/
theorem pairwise_idxOf_of_nodup {l : List α} (h : l.Nodup) :
    l.Pairwise fun a b => l.idxOf a < l.idxOf b := by
  have hpairwise := pairwise_idxOf_eraseDups l
  rwa [eraseDups_of_nodup h] at hpairwise

/-- Behind a list the elements of another appear for the first time if they are not in it. -/
theorem eraseDups_append_eq [DecidableEq α] (l later : List α) :
    (l ++ later).eraseDups = l.eraseDups ++ later.eraseDups.filter fun a => a ∉ l := by
  induction later using List.reverseRecOn with
  | nil => simp
  | append_singleton later a ih =>
    rw [← List.append_assoc, eraseDups_append_singleton, eraseDups_append_singleton, ih]
    by_cases hlater : a ∈ later
    · simp [hlater]
    · by_cases hl : a ∈ l <;> simp [hlater, hl]

theorem eraseDups_append_of_nodup [DecidableEq α] {l : List α} (h : l.Nodup) (later : List α) :
    (l ++ later).eraseDups = l ++ later.eraseDups.filter fun a => a ∉ l := by
  rw [eraseDups_append_eq, eraseDups_of_nodup h]

/-- The order of two elements is the same without a part that holds neither. -/
theorem idxOf_lt_idxOf_append_iff {front part behind : List α} {a b : α} (ha : a ∉ part)
    (hb : b ∉ part) :
    (front ++ (part ++ behind)).idxOf a < (front ++ (part ++ behind)).idxOf b ↔
      (front ++ behind).idxOf a < (front ++ behind).idxOf b := by
  have hfront {c : α} (hc : c ∈ front) := List.idxOf_lt_length_of_mem hc
  simp only [List.idxOf_append, ha, hb, if_false]
  split_ifs with hafront hbfront hbfront
  · rfl
  · have := hfront hafront
    omega
  · have := hfront hbfront
    omega
  · omega

/-- Nor does it matter where such a part stands. -/
theorem idxOf_lt_idxOf_append_comm_iff {front part other behind : List α} {a b : α}
    (ha : a ∉ part) (hb : b ∉ part) :
    (front ++ (part ++ (other ++ behind))).idxOf a < (front ++ (part ++ (other ++ behind))).idxOf b
      ↔ (front ++ (other ++ (part ++ behind))).idxOf a
        < (front ++ (other ++ (part ++ behind))).idxOf b := by
  rw [idxOf_lt_idxOf_append_iff ha hb, ← List.append_assoc front other behind,
    ← List.append_assoc front other (part ++ behind), idxOf_lt_idxOf_append_iff ha hb]

/-- Where names are different, repetitions are the same. -/
theorem eraseDups_map {β : Type} [BEq β] [LawfulBEq β] {f : α → β} {l : List α}
    (hf : ∀ {a b}, a ∈ l → b ∈ l → f a = f b → a = b) :
    (l.map f).eraseDups = l.eraseDups.map f := by
  induction l using List.reverseRecOn with
  | nil => rfl
  | append_singleton l a ih =>
    have hmem : f a ∈ l.map f ↔ a ∈ l := by
      rw [List.mem_map]
      constructor
      · rintro ⟨b, hb, hba⟩
        exact hf (List.mem_append_left _ hb) (by simp) hba ▸ hb
      · exact fun ha => ⟨a, ha, rfl⟩
    have hl := ih fun ha hb => hf (List.mem_append_left _ ha) (List.mem_append_left _ hb)
    rw [List.map_append, List.map_singleton, eraseDups_append_singleton,
      eraseDups_append_singleton, hl, apply_ite (List.map f), List.map_append]
    simp only [hmem, List.map_singleton]

end StyleInline
