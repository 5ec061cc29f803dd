import StyleInline.Filter.Pool
import StyleInline.Proofs.Document.Storing
import StyleInline.Proofs.OrderedMap.Merge

/-!
# Loading filters

What a filter loads depends on the files alone: a sound memo makes no difference to it.  A
loaded filter keeps its sheet, and one that is not loaded tries the files as they are.  A
pool changes the filter of one identifier at a time.

## Main definitions

* `Files.sheetAt` — what loading the stylesheet at a path finds.
* `Filter.obtain` — the sheet that a filter styles its next page by.
* `FilterPool.Puts` — the filter of one identifier is put into a pool.

## Main results

* `Filter.ensureLoaded_eq` — what becomes of a filter that is to style a page.
* `FilterPool.filterFor_of_named`, `FilterPool.restyle_of_named` — the two questions to a pool.
-/

namespace StyleInline

/-- What loading the stylesheet at a path finds: the compiled form of the text that lies
there, or why there is none. -/
def Files.sheetAt (files : Files) (path : Text) : Except FilterError CompiledSheet :=
  match files.readText path with
  | .error e => .error (.unreadable path e)
  | .ok text => (CompiledSheet.ofText text).mapError (.unusable (some path))

/-! ## One filter -/

namespace Filter

variable {f : Filter} {memo : SelectorMemo} {files : Files} {page text : Text}
  {shares : Bool}

/-- Any page can be read, whatever reads it; then it is styled and printed. -/
theorem exists_restyle (read : PageReader) (sheet : CompiledSheet) (page : Text) :
    ∃ d, (read page).toDocument = .ok d ∧ restyle read sheet page = .ok (sheet.apply d).toHtml := by
  obtain ⟨d, hd, -⟩ := (read page).exists_grafted
  exact ⟨d, hd, by rw [restyle, hd]⟩

/-- The sheet that a filter styles its next page by: the one it has kept, or what loading
finds now. -/
def obtain (f : Filter) (files : Files) : Except FilterError CompiledSheet :=
  match f.sheet with
  | some sheet => .ok sheet
  | none => files.sheetAt f.path

/-- The filter after it has been given a page: a sheet that was found is kept. -/
def settle (f : Filter) (files : Files) : Filter :=
  { f with sheet := f.sheet.or (files.sheetAt f.path).toOption }

/-- A sound memo makes no difference to what is loaded. -/
theorem fst_load (h : memo.Sound) (f : Filter) (files : Files) :
    (f.load files memo).1 = files.sheetAt f.path := by
  rw [load, Files.sheetAt]
  cases files.readText f.path with
  | error e => rfl
  | ok text => simp only [fst_compile h]

/-- Compiling keeps a memo sound. -/
theorem sound_snd_compile (h : memo.Sound) : (compile shares memo text).2.Sound := by
  rw [compile]
  split
  · rw [CompiledSheet.ofTextWith]
    cases Stylesheet.parse text with
    | error e => exact h
    | ok sheet => exact CompiledSheet.sound_snd_compileRulesWith h sheet.rules
  · exact h

/-- Loading keeps a memo sound. -/
theorem sound_snd_load (h : memo.Sound) : (f.load files memo).2.Sound := by
  rw [load]
  cases files.readText f.path with
  | error e => exact h
  | ok text => exact sound_snd_compile h

/-- A filter that is to style a page keeps its sheet, or looks for one; only then the memo is
used. -/
theorem ensureLoaded_eq (h : memo.Sound) (f : Filter) (files : Files) :
    f.ensureLoaded files memo =
      (f.obtain files, f.settle files, if f.isLoaded then memo else (f.load files memo).2) := by
  have hload := fst_load h f files
  obtain ⟨path, shares, sheet⟩ := f
  cases sheet with
  | some sheet => rfl
  | none =>
    rw [ensureLoaded]
    generalize Filter.load _ files memo = found at hload ⊢
    obtain ⟨outcome, memo'⟩ := found
    cases outcome with
    | error e => simp [obtain, settle, isLoaded, ← hload, Except.toOption]
    | ok sheet => simp [obtain, settle, isLoaded, ← hload, Except.toOption]

/-- A page is styled by the sheet that the filter obtains. -/
theorem filter_eq (read : PageReader) (h : memo.Sound) (f : Filter) (files : Files) (page : Text) :
    f.filter read files memo page =
      ((f.obtain files).bind (restyle read · page), f.settle files,
        if f.isLoaded then memo else (f.load files memo).2) := by
  rw [filter, ensureLoaded_eq h]
  cases f.obtain files <;> rfl

end Filter

/-! ## One pool -/

namespace FilterPool

variable {pool pool' : FilterPool} {identifier page : Text} {f : Filter}

/-- The filter of an identifier: the one in the pool, or a new one. -/
def filterOf (pool : FilterPool) (identifier : Text) : Filter :=
  (pool.filters.get? identifier).getD (pool.newFilter identifier)

/-- One pool is another with `f` as the filter of an identifier, behind the others if it is
new; the selectors do not matter. -/
structure Puts (pool : FilterPool) (identifier : Text) (f : Filter) (pool' : FilterPool) :
    Prop where
  settings_eq : pool'.settings = pool.settings
  keys_eq : pool'.filters.keys =
    if identifier ∈ pool.filters.keys then pool.filters.keys
    else pool.filters.keys ++ [identifier]
  get?_eq : ∀ other, pool'.filters.get? other =
    if identifier = other then some f else pool.filters.get? other

theorem puts_insert (pool : FilterPool) (identifier : Text) (f : Filter)
    (selectors : SelectorMemo) :
    pool.Puts identifier f
      { pool with filters := pool.filters.insert identifier f, selectors := selectors } where
  settings_eq := rfl
  keys_eq := by
    rw [OrderedMap.keys_insert]
    congr
  get?_eq other := OrderedMap.get?_insert ..

/-- Of two filters put under one identifier the second counts. -/
theorem Puts.puts_insert (h : pool.Puts identifier f pool') (f' : Filter)
    (selectors : SelectorMemo) :
    pool.Puts identifier f'
      { pool' with filters := pool'.filters.insert identifier f', selectors := selectors } where
  settings_eq := h.settings_eq
  keys_eq := by
    have hmem : identifier ∈ pool'.filters.keys := by
      rw [h.keys_eq]
      split <;> simp_all
    rw [OrderedMap.keys_insert, if_pos hmem, h.keys_eq]
  get?_eq other := by
    rw [OrderedMap.get?_insert, h.get?_eq]
    split <;> rfl

/-- Whoever asks for a filter is given the one in the pool, or a new one that is put there. -/
theorem filterFor_of_named (pool : FilterPool) (h : Text.trim identifier ≠ []) :
    (pool.filterFor identifier).1 = .ok (pool.filterOf identifier) ∧
      pool.Puts identifier (pool.filterOf identifier) (pool.filterFor identifier).2 ∧
      (pool.filterFor identifier).2.selectors = pool.selectors := by
  rw [filterFor, if_neg (by simpa using h), filterOf]
  cases hget : pool.filters.get? identifier with
  | none => exact ⟨rfl, puts_insert pool identifier _ pool.selectors, rfl⟩
  | some f =>
    have hmem : identifier ∈ pool.filters.keys := OrderedMap.mem_keys_of_get? hget
    refine ⟨rfl, ⟨rfl, (if_pos hmem).symm, ?_⟩, rfl⟩
    intro other
    change pool.filters.get? other = if identifier = other then some f else _
    split
    · next heq => rw [← heq, hget]
    · rfl

/-- A page is styled by the sheet that the filter of the identifier obtains, and what has
become of that filter is put into the pool. -/
theorem restyle_of_named (read : PageReader) (h : Text.trim identifier ≠ [])
    (hsound : pool.selectors.Sound) (files : Files) (page : Text) :
    (pool.restyle read files identifier page).1
        = ((pool.filterOf identifier).obtain files).bind (Filter.restyle read · page) ∧
      pool.Puts identifier ((pool.filterOf identifier).settle files)
        (pool.restyle read files identifier page).2 ∧
      (pool.restyle read files identifier page).2.selectors =
        if (pool.filterOf identifier).isLoaded then pool.selectors
        else ((pool.filterOf identifier).load files pool.selectors).2 := by
  obtain ⟨hfound, hputs, hselectors⟩ := filterFor_of_named pool h
  rw [restyle]
  generalize pool.filterFor identifier = asked at hfound hputs hselectors ⊢
  obtain ⟨found, pool'⟩ := asked
  cases hfound
  have hpage := Filter.filter_eq read hsound (pool.filterOf identifier) files page
  rw [← hselectors] at hpage
  simp only [hpage]
  exact ⟨trivial, hputs.puts_insert .., by rw [hselectors]⟩

/-- A blank identifier gets no page and changes nothing. -/
theorem restyle_of_blank (read : PageReader) (pool : FilterPool) (files : Files)
    (h : Text.trim identifier = []) (page : Text) :
    pool.restyle read files identifier page = (.error .emptyIdentifier, pool) := by
  rw [restyle, filterFor_of_blank pool h]

end FilterPool

end StyleInline
