import StyleInline.Proofs.OrderedMap.Merge

/-!
# Writing maps over one another again

A map that is written down and read back before another is written into it may come back
with its values changed.  When a list of maps is written in this way, every key is either
written by one of them, and then the maps alone decide its value, or by none, and then its
value has only been changed by the reading.  So a second pass with the same list finds every
key in its place and with its value.

## Main definitions

* `OrderedMap.mapValues`, `OrderedMap.overlay` — the change of the values, and one step.

## Main results

* `OrderedMap.keys_merge` — the order of the keys of a merge.
* `OrderedMap.ext_get?` — maps with the same keys in the same order and the same values are
  equal.
* `OrderedMap.merge_merge_self` — writing a map a second time changes nothing.
* `OrderedMap.foldl_overlay_foldl_overlay` — a second pass changes nothing.
-/

namespace StyleInline.OrderedMap

variable {κ ν μ : Type} {m m' other : OrderedMap κ ν} {others : List (OrderedMap κ ν)}
  {writes : List (κ × ν)} {k : κ} {f : ν → ν}

/-! ## Changed values -/

/-- The map with every value changed. -/
def mapValues (f : ν → μ) (m : OrderedMap κ ν) : OrderedMap κ μ :=
  ⟨m.entries.map fun e => (e.1, f e.2)⟩

@[simp] theorem keys_mapValues (f : ν → μ) (m : OrderedMap κ ν) :
    (m.mapValues f).keys = m.keys := by
  simp [mapValues, keys, Function.comp_def]

theorem distinct_mapValues (h : m.Distinct) (f : ν → μ) : (m.mapValues f).Distinct := by
  rw [Distinct, keys_mapValues]
  exact h

variable [DecidableEq κ]

@[simp] theorem get?_mapValues (f : ν → μ) (m : OrderedMap κ ν) (k : κ) :
    (m.mapValues f).get? k = (m.get? k).map f := by
  obtain ⟨es⟩ := m
  simp only [mapValues, get?]
  induction es with
  | nil => rfl
  | cons e es ih =>
    rw [List.map_cons, lookup, lookup, ih]
    split <;> rfl

/-! ## Equal maps -/

private theorem eq_of_lookup_eq {es es' : List (κ × ν)} (h : (es.map Prod.fst).Nodup)
    (hkeys : es.map Prod.fst = es'.map Prod.fst) (hget : ∀ k, lookup k es = lookup k es') :
    es = es' := by
  induction es generalizing es' with
  | nil => exact (List.map_eq_nil_iff.1 hkeys.symm).symm
  | cons e es ih =>
    obtain ⟨k, v⟩ := e
    cases es' with
    | nil => cases hkeys
    | cons e' es' =>
      obtain ⟨k', v'⟩ := e'
      rw [List.map_cons, List.map_cons, List.cons.injEq] at hkeys
      obtain ⟨rfl, hkeys⟩ := hkeys
      obtain ⟨hk, h⟩ := List.nodup_cons.1 h
      have hv : some v = some v' := by simpa [lookup] using hget k
      have hrest : es = es' := by
        refine ih h hkeys ?_
        intro j
        by_cases hj : k = j
        · subst hj
          rw [lookup_eq_none_iff.2 hk, lookup_eq_none_iff.2 (hkeys ▸ hk)]
        · simpa [lookup, hj] using hget j
      rw [Option.some.inj hv, hrest]

/-- Two maps are equal when they have the same distinct keys in the same order and the same
values. -/
theorem ext_get? (h : m.Distinct) (hkeys : m.keys = m'.keys) (hget : ∀ k, m.get? k = m'.get? k) :
    m = m' :=
  congrArg mk (eq_of_lookup_eq h hkeys hget)

/-! ## The keys of a merge -/

theorem mem_keys_insertAll :
    k ∈ (m.insertAll writes).keys ↔ k ∈ m.keys ∨ k ∈ writes.map Prod.fst := by
  induction writes generalizing m with
  | nil => simp
  | cons w writes ih =>
    rw [insertAll_cons, ih, keys_insert]
    split <;> grind

/-- The keys of a merge are those of the two maps. -/
theorem mem_keys_merge : k ∈ (m.merge other).keys ↔ k ∈ m.keys ∨ k ∈ other.keys :=
  mem_keys_insertAll

/-- Writes to distinct keys put those that are new behind the others, in their order. -/
theorem keys_insertAll_of_nodup (h : (writes.map Prod.fst).Nodup) :
    (m.insertAll writes).keys = m.keys ++ (writes.map Prod.fst).filter (· ∉ m.keys) := by
  induction writes generalizing m with
  | nil => simp
  | cons w writes ih =>
    obtain ⟨k, v⟩ := w
    obtain ⟨hk, hwrites⟩ := List.nodup_cons.1 h
    rw [insertAll_cons, ih hwrites, keys_insert, List.map_cons]
    by_cases hmem : k ∈ m.keys
    · rw [if_pos hmem, List.filter_cons_of_neg (by simpa using hmem)]
    · have hfilter : (writes.map Prod.fst).filter (· ∉ m.keys ++ [k])
          = (writes.map Prod.fst).filter (· ∉ m.keys) := by
        refine List.filter_congr ?_
        intro j hj
        have hne : j ≠ k := by
          rintro rfl
          exact hk hj
        simp [hne]
      rw [if_neg hmem, hfilter, List.filter_cons_of_pos (by simpa using hmem), List.append_assoc,
        List.singleton_append]

/-- The keys of a merge are those of the first map and, behind them, the new ones of the second
in their order. -/
theorem keys_merge (h : other.Distinct) (m : OrderedMap κ ν) :
    (m.merge other).keys = m.keys ++ other.keys.filter (· ∉ m.keys) :=
  keys_insertAll_of_nodup h

theorem keys_insertAll_of_subset (h : writes.map Prod.fst ⊆ m.keys) :
    (m.insertAll writes).keys = m.keys := by
  induction writes generalizing m with
  | nil => rfl
  | cons w writes ih =>
    rw [List.map_cons, List.cons_subset] at h
    have hkeys : (m.insert w.1 w.2).keys = m.keys := by rw [keys_insert, if_pos h.1]
    rw [insertAll_cons, ih (hkeys ▸ h.2), hkeys]

/-- Writing over keys that are there leaves the keys as they are. -/
theorem keys_merge_of_subset (h : other.keys ⊆ m.keys) : (m.merge other).keys = m.keys :=
  keys_insertAll_of_subset h

/-- Writing a map a second time changes nothing. -/
theorem merge_merge_self (hm : m.Distinct) (h : other.Distinct) :
    (m.merge other).merge other = m.merge other := by
  have hsubset : other.keys ⊆ (m.merge other).keys := fun _ hk => mem_keys_merge.2 (.inr hk)
  refine ext_get? (distinct_merge (distinct_merge hm other) other) (keys_merge_of_subset hsubset) ?_
  intro k
  rw [get?_merge h, get?_merge h]
  cases other.get? k <;> rfl

/-- Writing a map over itself changes nothing. -/
theorem merge_self (h : m.Distinct) : m.merge m = m := by
  have hempty : OrderedMap.empty.merge m = m := ofList_entries h
  have htwice := merge_merge_self distinct_empty h
  rwa [hempty] at htwice

/-! ## Overlays -/

/-- `other` written over `m`, after the values of `m` have been changed. -/
def overlay (f : ν → ν) (m other : OrderedMap κ ν) : OrderedMap κ ν := (m.mapValues f).merge other

theorem distinct_overlay (h : m.Distinct) (f : ν → ν) (other : OrderedMap κ ν) :
    (overlay f m other).Distinct :=
  distinct_merge (distinct_mapValues h f) other

/-- The keys of an overlay are those of the two maps. -/
theorem mem_keys_overlay : k ∈ (overlay f m other).keys ↔ k ∈ m.keys ∨ k ∈ other.keys := by
  rw [overlay, mem_keys_merge, keys_mapValues]

/-- An overlay over keys that are there leaves the keys as they are. -/
theorem keys_overlay_of_subset (h : other.keys ⊆ m.keys) : (overlay f m other).keys = m.keys := by
  rw [overlay, keys_merge_of_subset (by rwa [keys_mapValues]), keys_mapValues]

/-- In an overlay a key has its value in the map written, and its changed value if there is
none. -/
theorem get?_overlay (h : other.Distinct) :
    (overlay f m other).get? k = (other.get? k).or ((m.get? k).map f) := by
  rw [overlay, get?_merge h, get?_mapValues]

/-! ## Passes -/

theorem distinct_foldl_overlay (h : m.Distinct) (others : List (OrderedMap κ ν)) :
    (others.foldl (overlay f) m).Distinct := by
  induction others generalizing m with
  | nil => exact h
  | cons other others ih => exact ih (distinct_overlay h f other)

/-- A key that is there stays there. -/
theorem mem_keys_foldl_overlay (h : k ∈ m.keys ∨ ∃ other ∈ others, k ∈ other.keys) :
    k ∈ (others.foldl (overlay f) m).keys := by
  induction others generalizing m with
  | nil => simpa using h
  | cons other others ih =>
    refine ih ?_
    rw [mem_keys_overlay]
    simpa [or_assoc] using h

/-- A pass over keys that are there leaves the keys as they are. -/
theorem keys_foldl_overlay_of_subset (h : ∀ other ∈ others, other.keys ⊆ m.keys) :
    (others.foldl (overlay f) m).keys = m.keys := by
  induction others generalizing m with
  | nil => rfl
  | cons other others ih =>
    obtain ⟨hother, hlater⟩ := List.forall_mem_cons.1 h
    have hkeys : (overlay f m other).keys = m.keys := keys_overlay_of_subset hother
    rw [List.foldl_cons, ih (by rwa [hkeys]), hkeys]

/-- What a pass makes of a value: the maps that write its key replace it, the others change
it. -/
theorem get?_foldl_overlay (h : ∀ other ∈ others, other.Distinct) :
    (others.foldl (overlay f) m).get? k
      = (others.map (·.get? k)).foldl (fun value w => w.or (value.map f)) (m.get? k) := by
  induction others generalizing m with
  | nil => rfl
  | cons other others ih =>
    obtain ⟨hother, hlater⟩ := List.forall_mem_cons.1 h
    rw [List.foldl_cons, ih hlater, get?_overlay hother]
    rfl

/-- A value that is written does not depend on the one before. -/
private theorem foldl_or_congr {written : List (Option ν)} (h : ∃ w ∈ written, w ≠ none)
    (value value' : Option ν) :
    written.foldl (fun value w => w.or (value.map f)) value
      = written.foldl (fun value w => w.or (value.map f)) value' := by
  induction written generalizing value value' with
  | nil => simp at h
  | cons w written ih =>
    cases w with
    | some v => rfl
    | none => exact ih (by simpa using h) _ _

/-- A value that is not written stays if the change keeps it. -/
private theorem foldl_or_of_forall_none {written : List (Option ν)} (h : ∀ w ∈ written, w = none)
    {value : Option ν} (hvalue : value.map f = value) :
    written.foldl (fun value w => w.or (value.map f)) value = value := by
  induction written with
  | nil => rfl
  | cons w written ih =>
    obtain ⟨rfl, hlater⟩ := List.forall_mem_cons.1 h
    rw [List.foldl_cons, Option.none_or, hvalue, ih hlater]

/-- **A second pass with the same maps changes nothing**, if the change of values keeps those
that are there at the beginning. -/
theorem foldl_overlay_foldl_overlay (hm : m.Distinct) (hf : ∀ e ∈ m.entries, f e.2 = e.2)
    (h : ∀ other ∈ others, other.Distinct) :
    others.foldl (overlay f) (others.foldl (overlay f) m) = others.foldl (overlay f) m := by
  have hdistinct : (others.foldl (overlay f) m).Distinct := distinct_foldl_overlay hm others
  have hkeys : (others.foldl (overlay f) (others.foldl (overlay f) m)).keys
      = (others.foldl (overlay f) m).keys := by
    refine keys_foldl_overlay_of_subset ?_
    intro other hother k hk
    exact mem_keys_foldl_overlay (.inr ⟨other, hother, hk⟩)
  refine ext_get? (distinct_foldl_overlay hdistinct others) hkeys ?_
  intro k
  rw [get?_foldl_overlay h]
  by_cases hk : ∃ w ∈ others.map (·.get? k), w ≠ none
  · rw [foldl_or_congr hk _ (m.get? k), get?_foldl_overlay h]
  · have hnone : ∀ w ∈ others.map (·.get? k), w = none := by simpa using hk
    have hvalue : (m.get? k).map f = m.get? k := by
      cases hv : m.get? k with
      | none => rfl
      | some v => rw [Option.map_some, hf (k, v) (mem_entries_of_get? hv)]
    have hpass : (others.foldl (overlay f) m).get? k = m.get? k := by
      rw [get?_foldl_overlay h, foldl_or_of_forall_none hnone hvalue]
    rw [hpass, foldl_or_of_forall_none hnone hvalue]

end StyleInline.OrderedMap
