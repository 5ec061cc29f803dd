import Mathlib.Data.List.Induction
import StyleInline.OrderedMap

/-!
# Writing maps into maps

What a list of writes leaves behind when the keys written are distinct: every key written
has its value, every other key keeps the one it had, and writes to keys that are not there
go behind the entries in their order.

## Main definitions

* `OrderedMap.Written` — one value is written: in its place, or behind all others.

## Main results

* `OrderedMap.merge_assoc` — maps written one after the other.
* `OrderedMap.get?_merge` — look-up after a merge.
* `OrderedMap.get?_foldl_merge` — look-up after maps have been merged in order: the last one
  that has the key decides.
* `OrderedMap.pairwise_entries_ofList` — entries stand in the order of the first writes.
* `OrderedMap.ofList_entries` — a map with distinct keys is what its entries leave behind.
-/

namespace StyleInline.OrderedMap

variable {κ ν : Type} [DecidableEq κ] {m other : OrderedMap κ ν} {writes : List (κ × ν)} {k : κ}
  {v : ν} {e : κ × ν}

/-! ## Entries -/

/-- An entry after a write is the one written or was there. -/
theorem mem_entries_insert (h : e ∈ (m.insert k v).entries) : e = (k, v) ∨ e ∈ m.entries := by
  obtain ⟨es⟩ := m
  simp only [insert] at h ⊢
  induction es with
  | nil => simpa [put] using h
  | cons e' es ih =>
    obtain ⟨k', v'⟩ := e'
    by_cases hk : k' = k
    · subst hk
      rw [put, if_pos rfl, List.mem_cons] at h
      exact h.imp_right (List.mem_cons_of_mem _)
    · rw [put, if_neg hk, List.mem_cons] at h
      rcases h with rfl | h
      · exact .inr List.mem_cons_self
      · exact (ih h).imp_right (List.mem_cons_of_mem _)

/-- An entry after a list of writes is one of those written or was there. -/
theorem mem_entries_insertAll (h : e ∈ (m.insertAll writes).entries) :
    e ∈ writes ∨ e ∈ m.entries := by
  induction writes generalizing m with
  | nil => exact .inr h
  | cons w writes ih =>
    rcases ih h with h | h
    · exact .inl (List.mem_cons_of_mem w h)
    · rcases mem_entries_insert h with rfl | h
      · exact .inl List.mem_cons_self
      · exact .inr h

/-- What holds of the entries of two maps holds of the entries of one written into the
other. -/
theorem forall_mem_merge {P : κ × ν → Prop} (hm : ∀ e ∈ m.entries, P e)
    (hother : ∀ e ∈ other.entries, P e) : ∀ e ∈ (m.merge other).entries, P e := by
  intro e he
  rcases mem_entries_insertAll he with he | he
  · exact hother e he
  · exact hm e he

/-- An entry that a list of writes leaves behind is one of those written. -/
theorem mem_entries_ofList (h : e ∈ (ofList writes).entries) : e ∈ writes := by
  rcases mem_entries_insertAll h with h | h
  · exact h
  · simp at h

/-- A write to a new key goes behind the entries. -/
theorem entries_insert_of_notMem (h : k ∉ m.keys) :
    (m.insert k v).entries = m.entries ++ [(k, v)] := by
  obtain ⟨es⟩ := m
  simp only [keys, insert] at h ⊢
  induction es with
  | nil => rfl
  | cons e es ih =>
    rw [List.map_cons, List.mem_cons, not_or] at h
    obtain ⟨k', v'⟩ := e
    rw [put, if_neg (Ne.symm h.1), ih h.2, List.cons_append]

/-- One map is another with `v` written at `k`: over the value that is there, in its place, or
behind all entries if there is none. -/
inductive Written {κ ν : Type} (k : κ) (v : ν) : OrderedMap κ ν → OrderedMap κ ν → Prop
  | inPlace (before after : List (κ × ν)) (old : ν) (hbefore : k ∉ before.map Prod.fst) :
    Written k v ⟨before ++ (k, old) :: after⟩ ⟨before ++ (k, v) :: after⟩
  | behind (entries : List (κ × ν)) (hentries : k ∉ entries.map Prod.fst) :
    Written k v ⟨entries⟩ ⟨entries ++ [(k, v)]⟩

/-- What `insert` does to the entries. -/
theorem written_insert (m : OrderedMap κ ν) (k : κ) (v : ν) : Written k v m (m.insert k v) := by
  obtain ⟨entries⟩ := m
  rw [insert]
  induction entries with
  | nil => exact .behind [] List.not_mem_nil
  | cons e later ih =>
    obtain ⟨k', v'⟩ := e
    rw [put]
    split
    · next h =>
      subst h
      exact .inPlace [] later v' List.not_mem_nil
    · next h =>
      have hcons {before : List (κ × ν)} (hbefore : k ∉ before.map Prod.fst) :
          k ∉ ((k', v') :: before).map Prod.fst := by
        rw [List.map_cons, List.mem_cons, not_or]
        exact ⟨Ne.symm h, hbefore⟩
      generalize put k v later = written at ih
      cases ih with
      | inPlace before after old hbefore => exact .inPlace (_ :: before) after old (hcons hbefore)
      | behind _ hentries => exact .behind (_ :: later) (hcons hentries)

/-- A write leaves every entry in its place: that of its key, which in a map with distinct keys
is the only one, with the new value. -/
theorem getElem?_entries_insert (h : m.Distinct) (k : κ) (v : ν) {i : Nat}
    (hi : m.entries[i]? = some e) :
    (m.insert k v).entries[i]? = some (e.1, if e.1 = k then v else e.2) := by
  obtain ⟨es⟩ := m
  simp only [Distinct, keys, insert] at h hi ⊢
  induction es generalizing i with
  | nil => simp at hi
  | cons e' es ih =>
    obtain ⟨k', v'⟩ := e'
    obtain ⟨hk', hes⟩ := List.nodup_cons.1 h
    by_cases hk : k' = k
    · subst hk
      rw [put, if_pos rfl]
      cases i with
      | zero =>
        cases hi
        simp
      | succ i =>
        rw [List.getElem?_cons_succ] at hi ⊢
        have hne : e.1 ≠ k' := by
          rintro rfl
          exact hk' (List.mem_map.2 ⟨e, List.mem_of_getElem? hi, rfl⟩)
        rw [hi, if_neg hne]
    · rw [put, if_neg hk]
      cases i with
      | zero =>
        cases hi
        simp [hk]
      | succ i =>
        rw [List.getElem?_cons_succ] at hi ⊢
        exact ih hes hi

/-- In a map with distinct keys the key of an entry does not stand behind it. -/
theorem Distinct.notMem_behind {κ ν : Type} {before after : List (κ × ν)} {k : κ} {v : ν}
    (h : (mk (before ++ (k, v) :: after)).Distinct) : k ∉ after.map Prod.fst := by
  simp only [Distinct, keys, List.map_append, List.map_cons] at h
  obtain ⟨-, hnodup, -⟩ := List.nodup_append.1 h
  exact (List.nodup_cons.1 hnodup).1

/-- Of two writes to a key the second counts. -/
theorem insert_insert (m : OrderedMap κ ν) (k : κ) (v v' : ν) :
    (m.insert k v).insert k v' = m.insert k v' := by
  obtain ⟨es⟩ := m
  simp only [insert, mk.injEq]
  induction es with
  | nil => simp [put]
  | cons e es ih =>
    obtain ⟨j, w⟩ := e
    by_cases hj : j = k
    · simp [put, hj]
    · simp [put, hj, ih]

/-- Writes to distinct new keys go behind the entries in their order. -/
theorem entries_insertAll_of_disjoint (hw : (writes.map Prod.fst).Nodup)
    (hm : ∀ k ∈ writes.map Prod.fst, k ∉ m.keys) :
    (m.insertAll writes).entries = m.entries ++ writes := by
  induction writes generalizing m with
  | nil => simp
  | cons w writes ih =>
    obtain ⟨k, v⟩ := w
    rw [List.map_cons, List.nodup_cons] at hw
    have hk : k ∉ m.keys := hm k (by simp)
    have hdisjoint : ∀ j ∈ writes.map Prod.fst, j ∉ (m.insert k v).keys := by
      intro j hj
      rw [keys_insert, if_neg hk, List.mem_append, List.mem_singleton, not_or]
      exact ⟨hm j (List.mem_cons_of_mem k hj), fun h => hw.1 (h ▸ hj)⟩
    rw [insertAll_cons, ih hw.2 hdisjoint, entries_insert_of_notMem hk, List.append_assoc,
      List.singleton_append]

/-- Writes to distinct keys are what they leave behind. -/
theorem entries_ofList (h : (writes.map Prod.fst).Nodup) : (ofList writes).entries = writes :=
  entries_insertAll_of_disjoint h (by simp)

/-- A map with distinct keys is what its entries leave behind. -/
theorem ofList_entries (h : m.Distinct) : ofList m.entries = m := by
  have hentries : (ofList m.entries).entries = m.entries := entries_ofList h
  cases m
  exact congrArg OrderedMap.mk hentries

/-! ## One merge after another -/

/-- A write to a key that is there and a write to another key may change places. -/
theorem insert_comm {j : κ} {w : ν} (hk : k ∈ m.keys) (hne : j ≠ k) :
    (m.insert k v).insert j w = (m.insert j w).insert k v := by
  obtain ⟨es⟩ := m
  simp only [insert, keys, mk.injEq] at hk ⊢
  induction es with
  | nil => cases hk
  | cons e es ih =>
    obtain ⟨i, u⟩ := e
    by_cases hi : i = k
    · subst hi
      simp [put, Ne.symm hne]
    · have hk : k ∈ es.map Prod.fst := by simpa [Ne.symm hi] using hk
      by_cases hj : i = j
      · simp [put, hj, hne]
      · simp [put, hi, hj, ih hk]

/-- A write to a key that is there may be put off until other keys have been written. -/
theorem insertAll_insert_comm (hk : k ∈ m.keys) (hwrites : k ∉ writes.map Prod.fst) :
    (m.insert k v).insertAll writes = (m.insertAll writes).insert k v := by
  induction writes generalizing m with
  | nil => rfl
  | cons w writes ih =>
    obtain ⟨j, u⟩ := w
    rw [List.map_cons, List.mem_cons, not_or] at hwrites
    have hkeys : k ∈ (m.insert j u).keys := by
      rw [keys_insert]
      split
      · exact hk
      · exact List.mem_append_left _ hk
    rw [insertAll_cons, insertAll_cons, insert_comm hk (Ne.symm hwrites.1), ih hkeys hwrites.2]

/-- A write into a map that is merged may be made after the merge. -/
theorem merge_insert (h : other.Distinct) (m : OrderedMap κ ν) (k : κ) (v : ν) :
    m.merge (other.insert k v) = (m.merge other).insert k v := by
  have hwritten := written_insert other k v
  generalize other.insert k v = written at hwritten ⊢
  cases hwritten with
  | behind entries hnew => exact insertAll_append m entries [(k, v)]
  | inPlace before after old hbefore =>
    have hafter : k ∉ after.map Prod.fst := h.notMem_behind
    have hthere : k ∈ ((m.insertAll before).insert k old).keys := by
      rw [keys_insert]
      split
      · next hk => exact hk
      · simp
    calc m.merge ⟨before ++ (k, v) :: after⟩
        = ((m.insertAll before).insert k v).insertAll after := insertAll_append ..
      _ = (((m.insertAll before).insert k old).insert k v).insertAll after := by
        rw [insert_insert]
      _ = (((m.insertAll before).insert k old).insertAll after).insert k v :=
        insertAll_insert_comm hthere hafter
      _ = (m.merge ⟨before ++ (k, old) :: after⟩).insert k v := by
        rw [merge, insertAll_append, insertAll_cons]

/-- **Merging is associative**: two maps written one after the other are one map, the second
written into the first. -/
theorem merge_assoc (h : other.Distinct) (m another : OrderedMap κ ν) :
    (m.merge other).merge another = m.merge (other.merge another) := by
  obtain ⟨writes⟩ := another
  change (m.merge other).insertAll writes = m.merge (other.insertAll writes)
  induction writes generalizing other with
  | nil => rfl
  | cons w writes ih =>
    rw [insertAll_cons, insertAll_cons, ← ih (distinct_insert h w.1 w.2), merge_insert h]

/-! ## Look-up -/

/-- What look-up finds is an entry. -/
theorem mem_entries_of_get? (h : m.get? k = some v) : (k, v) ∈ m.entries := by
  obtain ⟨es⟩ := m
  simp only [get?] at h
  induction es with
  | nil => cases h
  | cons e es ih =>
    obtain ⟨j, w⟩ := e
    by_cases hj : j = k
    · rw [lookup, if_pos hj] at h
      cases h
      exact hj ▸ List.mem_cons_self
    · rw [lookup, if_neg hj] at h
      exact List.mem_cons_of_mem _ (ih h)

theorem mem_keys_of_get? (h : m.get? k = some v) : k ∈ m.keys :=
  List.mem_map.2 ⟨_, mem_entries_of_get? h, rfl⟩

/-- Look-up finds an entry whose key stands nowhere else. -/
theorem get?_of_mem_entries (hm : m.Distinct) (h : (k, v) ∈ m.entries) : m.get? k = some v := by
  obtain ⟨es⟩ := m
  simp only [Distinct, keys, get?] at hm h ⊢
  induction es with
  | nil => cases h
  | cons e es ih =>
    obtain ⟨j, w⟩ := e
    obtain ⟨hj, hrest⟩ := List.nodup_cons.1 hm
    rcases List.mem_cons.1 h with heq | h
    · cases heq
      rw [lookup, if_pos rfl]
    · have hne : j ≠ k := by
        rintro rfl
        exact hj (List.mem_map.2 ⟨_, h, rfl⟩)
      rw [lookup, if_neg hne, ih hrest h]

/-- A key has no value exactly when it is no key. -/
theorem get?_eq_none_iff : m.get? k = none ↔ k ∉ m.keys := lookup_eq_none_iff

/-- A list of writes leaves the keys alone that it does not write. -/
theorem get?_insertAll_of_notMem (h : k ∉ writes.map Prod.fst) :
    (m.insertAll writes).get? k = m.get? k := by
  induction writes generalizing m with
  | nil => rfl
  | cons w writes ih =>
    rw [List.map_cons, List.mem_cons, not_or] at h
    rw [insertAll_cons, ih h.2, get?_insert, if_neg (Ne.symm h.1)]

/-- After a list of writes a key has the value that they alone leave, and the one it had if
they leave none. -/
theorem get?_insertAll (m : OrderedMap κ ν) (writes : List (κ × ν)) (k : κ) :
    (m.insertAll writes).get? k = ((ofList writes).get? k).or (m.get? k) := by
  induction writes generalizing m with
  | nil => rfl
  | cons w writes ih =>
    obtain ⟨j, v⟩ := w
    rw [ofList, insertAll_cons, insertAll_cons, ih, ih (empty.insert j v), Option.or_assoc,
      get?_insert, get?_insert]
    split <;> rfl

/-- A list of writes to distinct keys leaves the values that it writes. -/
theorem get?_insertAll_of_nodup (h : (writes.map Prod.fst).Nodup) :
    (m.insertAll writes).get? k = (lookup k writes).or (m.get? k) := by
  induction writes generalizing m with
  | nil => rfl
  | cons w writes ih =>
    obtain ⟨j, v⟩ := w
    rw [List.map_cons, List.nodup_cons] at h
    by_cases hj : j = k
    · subst hj
      rw [insertAll_cons, get?_insertAll_of_notMem h.1, get?_insert, lookup, if_pos rfl, if_pos rfl,
        Option.some_or]
    · rw [insertAll_cons, ih h.2, get?_insert, lookup, if_neg hj, if_neg hj]

/-- After a merge a key has its value in the map written, and the one it had if there is
none. -/
theorem get?_merge (h : other.Distinct) : (m.merge other).get? k = (other.get? k).or (m.get? k) :=
  get?_insertAll_of_nodup h

/-- After maps have been merged in order, a key has the value of the last one that has it,
and the one it had if none does. -/
theorem get?_foldl_merge {ι : Type} {f : ι → OrderedMap κ ν} {R : ι → ι → Prop} {l : List ι}
    (hl : l.Pairwise R) (hf : ∀ i ∈ l, (f i).Distinct) (m : OrderedMap κ ν) (k : κ) :
    ((∀ i ∈ l, (f i).get? k = none) ∧ (l.foldl (fun m i => m.merge (f i)) m).get? k = m.get? k) ∨
      ∃ i ∈ l, (f i).get? k ≠ none ∧ (∀ j ∈ l, (f j).get? k ≠ none → j = i ∨ R j i) ∧
        (l.foldl (fun m i => m.merge (f i)) m).get? k = (f i).get? k := by
  induction l using List.reverseRecOn with
  | nil => exact .inl ⟨by simp, rfl⟩
  | append_singleton l last ih =>
    obtain ⟨hl, -, hlast⟩ := List.pairwise_append.1 hl
    have hget : ((l ++ [last]).foldl (fun m i => m.merge (f i)) m).get? k
        = ((f last).get? k).or ((l.foldl (fun m i => m.merge (f i)) m).get? k) := by
      rw [List.foldl_append, List.foldl_cons, List.foldl_nil, get?_merge (hf last (by simp))]
    rw [hget]
    cases hv : (f last).get? k with
    | some v =>
      refine .inr ⟨last, by simp, by simp [hv], ?_, by rw [hv, Option.some_or]⟩
      intro j hj _
      rcases List.mem_append.1 hj with hj | hj
      · exact .inr (hlast j hj last (by simp))
      · exact .inl (List.mem_singleton.1 hj)
    | none =>
      rw [Option.none_or]
      rcases ih hl fun i hi => hf i (by simp [hi]) with ⟨hnone, hm⟩ | ⟨i, hi, hsome, hbefore, hm⟩
      · refine .inl ⟨?_, hm⟩
        intro j hj
        rcases List.mem_append.1 hj with hj | hj
        · exact hnone j hj
        · rw [List.mem_singleton.1 hj, hv]
      · refine .inr ⟨i, by simp [hi], hsome, ?_, hm⟩
        intro j hj hjsome
        rcases List.mem_append.1 hj with hj | hj
        · exact hbefore j hj hjsome
        · exact absurd (List.mem_singleton.1 hj ▸ hv) hjsome

/-! ## Order -/

theorem ofList_append_singleton (writes : List (κ × ν)) (w : κ × ν) :
    ofList (writes ++ [w]) = (ofList writes).insert w.1 w.2 := by
  rw [ofList, insertAll_append]
  rfl

/-- The entries that writes leave behind stand in the order of the first writes to their keys:
what relates the key of every write to all writes behind it relates that of every entry to the
entries behind it. -/
theorem pairwise_entries_ofList {R : κ → κ × ν → Prop}
    (h : writes.Pairwise fun a b => R a.1 b) :
    (ofList writes).entries.Pairwise fun a b => R a.1 b := by
  induction writes using List.reverseRecOn with
  | nil => exact .nil
  | append_singleton writes w ih =>
    obtain ⟨k, v⟩ := w
    obtain ⟨hwrites, -, hlast⟩ := List.pairwise_append.1 h
    have hbehind : ∀ e ∈ (ofList writes).entries, R e.1 (k, v) := by
      intro e he
      exact hlast e (mem_entries_ofList he) (k, v) (List.mem_singleton.2 rfl)
    have hentries := ih hwrites
    rw [ofList_append_singleton]
    have hwritten := written_insert (ofList writes) k v
    generalize ofList writes = m at hwritten hentries hbehind
    generalize m.insert k v = m' at hwritten
    cases hwritten with
    | inPlace before after old hbefore =>
      -- the new value stands behind the same entries, and its key in front of the same ones
      obtain ⟨hfront, hrest, hacross⟩ := List.pairwise_append.1 hentries
      obtain ⟨hold, hback⟩ := List.pairwise_cons.1 hrest
      refine List.pairwise_append.2 ⟨hfront, List.pairwise_cons.2 ⟨hold, hback⟩, ?_⟩
      intro a ha b hb
      rcases List.mem_cons.1 hb with rfl | hb
      · exact hbehind a (List.mem_append_left _ ha)
      · exact hacross a ha b (List.mem_cons_of_mem _ hb)
    | behind entries hnew =>
      refine List.pairwise_append.2 ⟨hentries, List.pairwise_singleton _ _, ?_⟩
      intro a ha b hb
      rw [List.mem_singleton.1 hb]
      exact hbehind a ha

end StyleInline.OrderedMap
