import StyleInline.Filter.Basic
import StyleInline.Filter.Settings

/-!
# The pool of filters

A pool keeps one filter for each identifier that it has been asked for, under the
identifier as it was written.  Its filters may share the selectors that they read.

## Main definitions

* `FilterPool` — the filters and the shared selectors.
* `FilterPool.filterFor` — the filter of an identifier.
* `FilterPool.restyle` — a page, styled by the filter of an identifier.
-/

namespace StyleInline

/-- The filters asked for so far. -/
structure FilterPool where
  settings : Settings
  filters : OrderedMap Text Filter
  selectors : SelectorMemo
deriving Repr, DecidableEq

namespace FilterPool

/-- A pool without filters. -/
def ofSettings (settings : Settings) : FilterPool :=
  ⟨settings, OrderedMap.empty, OrderedMap.empty⟩

/-- The number of filters. -/
def size (pool : FilterPool) : Nat := pool.filters.size

/-- Whether there are no filters. -/
def isEmpty (pool : FilterPool) : Bool := pool.filters.isEmpty

/-- The number of shared selectors. -/
def sharedSelectors (pool : FilterPool) : Nat := pool.selectors.size

/-- The filter that an identifier stands for before it has been loaded. -/
def newFilter (pool : FilterPool) (identifier : Text) : Filter :=
  Filter.ofPath (pool.settings.resolve identifier) pool.settings.sharesSelectors

/-- The filter of an identifier, put into the pool if it is new.  A blank identifier
names none. -/
def filterFor (pool : FilterPool) (identifier : Text) : Except FilterError Filter × FilterPool :=
  if (Text.trim identifier).isEmpty then (.error .emptyIdentifier, pool)
  else
    match pool.filters.get? identifier with
    | some f => (.ok f, pool)
    | none =>
      let f := pool.newFilter identifier
      (.ok f, { pool with filters := pool.filters.insert identifier f })

/-- Styles a page by the filter of an identifier. -/
def restyle (read : PageReader) (pool : FilterPool) (files : Files) (identifier page : Text) :
    Except FilterError Text × FilterPool :=
  match pool.filterFor identifier with
  | (.error e, pool) => (.error e, pool)
  | (.ok f, pool) =>
    let (answer, f, selectors) := f.filter read files pool.selectors page
    (answer, { pool with filters := pool.filters.insert identifier f, selectors := selectors })

@[simp] theorem size_ofSettings (settings : Settings) : (ofSettings settings).size = 0 := rfl

/-- A blank identifier changes nothing. -/
theorem filterFor_of_blank (pool : FilterPool) {identifier : Text}
    (h : Text.trim identifier = []) :
    pool.filterFor identifier = (.error .emptyIdentifier, pool) := by
  simp [filterFor, h]

end FilterPool

end StyleInline
