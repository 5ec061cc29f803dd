/-!
# Ordered maps

A map that remembers the order in which its keys first came: writing to a key
that is present replaces its value where it stands, and a new key goes behind all
others.  Style declarations, attributes, the rules of a sheet while it is being
read, compiled selectors and loaded filters are all kept this way.

## Main definitions

* `OrderedMap.insert`, `OrderedMap.get?` — one write and one look-up.
* `OrderedMap.getThenInsert?` — a write that gives the former value back.
* `OrderedMap.merge` — all entries of one map written into another.
* `OrderedMap.ofList` — the map that a list of writes leaves behind.
* `OrderedMap.Distinct` — no key stands twice; `distinct_insert` and its
  neighbours say that every operation keeps it.
-/

namespace StyleInline

/-- Entries in the order in which their keys first came. -/
structure OrderedMap (κ ν : Type) where
  entries : List (κ × ν)
deriving Repr, DecidableEq

namespace OrderedMap

variable {κ ν : Type}

/-- The map without entries. -/
def empty : OrderedMap κ ν := ⟨[]⟩

instance : Inhabited (OrderedMap κ ν) := ⟨empty⟩

/-- The keys in order. -/
def keys (m : OrderedMap κ ν) : List κ := m.entries.map Prod.fst

/-- The number of entries. -/
def size (m : OrderedMap κ ν) : Nat := m.entries.length

/-- Whether there are no entries. -/
def isEmpty (m : OrderedMap κ ν) : Bool := m.entries.isEmpty

@[simp] theorem entries_empty : (empty : OrderedMap κ ν).entries = [] := rfl

@[simp] theorem keys_empty : (empty : OrderedMap κ ν).keys = [] := rfl

/-- No key stands twice. -/
def Distinct (m : OrderedMap κ ν) : Prop := m.keys.Nodup

theorem distinct_empty : (empty : OrderedMap κ ν).Distinct := List.nodup_nil

variable [DecidableEq κ]

/-! ## Look-up -/

/-- The value of the first entry of `k` in a list of entries. -/
def lookup (k : κ) : List (κ × ν) → Option ν
  | [] => none
  | (k', v) :: rest => if k' = k then some v else lookup k rest

/-- The value at `k`. -/
def get? (m : OrderedMap κ ν) (k : κ) : Option ν := lookup k m.entries

/-- Whether `k` has a value. -/
def contains (m : OrderedMap κ ν) (k : κ) : Bool := (m.get? k).isSome

@[simp] theorem get?_empty (k : κ) : (empty : OrderedMap κ ν).get? k = none := rfl

/-- A key has a value exactly when it is one of the keys. -/
theorem lookup_eq_none_iff {k : κ} {es : List (κ × ν)} :
    lookup k es = none ↔ k ∉ es.map Prod.fst := by
  induction es with
  | nil => simp [lookup]
  | cons e es ih =>
    obtain ⟨k', v⟩ := e
    by_cases h : k' = k
    · simp [lookup, h]
    · simp [lookup, h, ih, Ne.symm h]

/-! ## Writing -/

/-- Writes `v` at `k` in a list of entries: over the value of the first entry of
`k`, or behind the last entry when there is none. -/
def put (k : κ) (v : ν) : List (κ × ν) → List (κ × ν)
  | [] => [(k, v)]
  | (k', v') :: rest => if k' = k then (k', v) :: rest else (k', v') :: put k v rest

/-- Writes `v` at `k`. -/
def insert (m : OrderedMap κ ν) (k : κ) (v : ν) : OrderedMap κ ν := ⟨put k v m.entries⟩

/-- Writes `v` at `k` in a list of entries, with the value that it takes the place of. -/
def exchange (k : κ) (v : ν) : List (κ × ν) → Option ν × List (κ × ν)
  | [] => (none, [(k, v)])
  | (k', v') :: rest =>
    if k' = k then (some v', (k', v) :: rest)
    else
      let (former, written) := exchange k v rest
      (former, (k', v') :: written)

/-- Writes `v` at `k`, with the value that was there. -/
def getThenInsert? (m : OrderedMap κ ν) (k : κ) (v : ν) : Option ν × OrderedMap κ ν :=
  let (former, entries) := exchange k v m.entries
  (former, ⟨entries⟩)

/-- Performs a list of writes, from left to right. -/
def insertAll (m : OrderedMap κ ν) (writes : List (κ × ν)) : OrderedMap κ ν :=
  writes.foldl (fun m (k, v) => m.insert k v) m

/-- Writes every entry of `other` into `m`. -/
def merge (m other : OrderedMap κ ν) : OrderedMap κ ν := m.insertAll other.entries

/-- The map that a list of writes leaves behind. -/
def ofList (writes : List (κ × ν)) : OrderedMap κ ν := empty.insertAll writes

/-- An exchange is a look-up and a write. -/
theorem exchange_eq (k : κ) (v : ν) (es : List (κ × ν)) :
    exchange k v es = (lookup k es, put k v es) := by
  induction es with
  | nil => rfl
  | cons e es ih =>
    rw [exchange, ih, lookup, put]
    split <;> rfl

@[simp] theorem fst_getThenInsert? (m : OrderedMap κ ν) (k : κ) (v : ν) :
    (m.getThenInsert? k v).1 = m.get? k := by
  rw [getThenInsert?, exchange_eq, get?]

@[simp] theorem snd_getThenInsert? (m : OrderedMap κ ν) (k : κ) (v : ν) :
    (m.getThenInsert? k v).2 = m.insert k v := by
  rw [getThenInsert?, exchange_eq, insert]

@[simp] theorem insertAll_nil (m : OrderedMap κ ν) : m.insertAll [] = m := rfl

@[simp] theorem insertAll_cons (m : OrderedMap κ ν) (k : κ) (v : ν) (writes : List (κ × ν)) :
    m.insertAll ((k, v) :: writes) = (m.insert k v).insertAll writes := rfl

/-- Two lists of writes, one after the other, are one list of writes. -/
theorem insertAll_append (m : OrderedMap κ ν) (first second : List (κ × ν)) :
    m.insertAll (first ++ second) = (m.insertAll first).insertAll second :=
  List.foldl_append

/-- The keys after a write: the same, with `k` behind them if it is new. -/
theorem keys_insert (m : OrderedMap κ ν) (k : κ) (v : ν) :
    (m.insert k v).keys = if k ∈ m.keys then m.keys else m.keys ++ [k] := by
  obtain ⟨es⟩ := m
  simp only [keys, insert]
  induction es with
  | nil => simp [put]
  | cons e es ih =>
    obtain ⟨k', v'⟩ := e
    by_cases h : k' = k
    · simp [put, h]
    · simp only [put, h, if_false, List.map_cons, List.mem_cons, Ne.symm h, false_or, ih]
      by_cases hk : k ∈ es.map Prod.fst <;> simp [hk]

/-- A write is read back at its key and leaves every other key alone. -/
theorem get?_insert (m : OrderedMap κ ν) (k j : κ) (v : ν) :
    (m.insert k v).get? j = if k = j then some v else m.get? j := by
  obtain ⟨es⟩ := m
  simp only [get?, insert]
  induction es with
  | nil => simp [put, lookup]
  | cons e es ih =>
    obtain ⟨k', v'⟩ := e
    by_cases h : k' = k
    · subst h; by_cases hj : k' = j <;> simp [put, lookup, hj]
    · by_cases hj : k' = j
      · subst hj; simp [put, h, lookup, Ne.symm h]
      · simp [put, h, lookup, hj, ih]

/-- A write keeps the keys distinct. -/
theorem distinct_insert {m : OrderedMap κ ν} (h : m.Distinct) (k : κ) (v : ν) :
    (m.insert k v).Distinct := by
  unfold Distinct at *
  rw [keys_insert]
  split
  · exact h
  · next hk => exact List.nodup_append.2 ⟨h, by simp, by rintro a ha b hb rfl; simp_all⟩

/-- A list of writes keeps the keys distinct. -/
theorem distinct_insertAll {m : OrderedMap κ ν} (h : m.Distinct) (writes : List (κ × ν)) :
    (m.insertAll writes).Distinct := by
  induction writes generalizing m with
  | nil => exact h
  | cons w writes ih => exact ih (distinct_insert h w.1 w.2)

/-- Merging keeps the keys distinct. -/
theorem distinct_merge {m : OrderedMap κ ν} (h : m.Distinct) (other : OrderedMap κ ν) :
    (m.merge other).Distinct := distinct_insertAll h other.entries

/-- What a list of writes leaves behind has distinct keys. -/
theorem distinct_ofList (writes : List (κ × ν)) : (ofList writes).Distinct :=
  distinct_insertAll distinct_empty writes

/-! ## Changing a value where it stands -/

/-- Writes at `k` the value that `f` makes of the present one. -/
def upsert (m : OrderedMap κ ν) (k : κ) (f : Option ν → ν) : OrderedMap κ ν :=
  m.insert k (f (m.get? k))

end OrderedMap

end StyleInline
