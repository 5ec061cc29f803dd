import StyleInline.Proofs.Filter.Session
import StyleInline.Proofs.Stylesheet.Remembered

/-!
# Sharing selectors

Whether the filters of a pool share the selectors that they read cannot be told from its
answers, since these follow from the history of the session.  It shows in the number of
shared selectors alone.  Without sharing there are none; with sharing they are those that the
loads of the session have read, also the loads that failed at a later selector.

## Main definitions

* `Session.expectedAnswers` — the answers to steps, told from the history.
* `Session.loads` — the texts that a session has loaded or tried to load.

## Main results

* `Session.keys_selectors_run` — the shared selectors after a history.
* `Session.sharing_unobservable` — what can be seen of the sharing.
-/

namespace StyleInline

/-- The memo after a filter has looked for its sheet. -/
theorem Filter.keys_snd_load {memo : SelectorMemo} {known : List Text} (hsound : memo.Sound)
    (hknown : memo.keys = known.eraseDups) (f : Filter) (files : Files) :
    (f.load files memo).2.keys
      = (known ++ if f.sharesSelectors then
          (files.readText f.path).toOption.toList.flatMap Stylesheet.readSelectors
        else []).eraseDups := by
  rw [load]
  cases files.readText f.path with
  | error e => simpa [Except.toOption] using hknown
  | ok text =>
    simp only [compile]
    split
    · rw [CompiledSheet.keys_snd_ofTextWith hsound hknown]
      simp [Except.toOption]
    · simpa using hknown

namespace Session

variable {read : PageReader} {settings : Settings} {files : Files}
  {before steps later : List Step} {step : Step} {s : Session} {identifier page : Text} {known : List Text} {resolve : Text → Text}

/-! ## Answers -/

/-- What the steps behind a history show, each with the number of filters after it. -/
def expectedAnswers (read : PageReader) (resolve : Text → Text) (files : Files) :
    (before later : List Step) → List (Answer × Nat)
  | _, [] => []
  | before, step :: later =>
    (expected read resolve files before step, (seen (before ++ [step])).eraseDups.length)
      :: expectedAnswers read resolve files (before ++ [step]) later

/-- What the steps behind a history show can be told from it. -/
theorem Follows.answers_eq (h : Follows settings files before s) (later : List Step) :
    s.answers read later = expectedAnswers read settings.resolve files before later := by
  induction later generalizing before s with
  | nil => rfl
  | cons step later ih =>
    have hnext := h.snd_step read step
    rw [answers, expectedAnswers, h.fst_step, hnext.size_eq, ih hnext]

/-! ## Loads -/

/-- The text that a step behind a history loads or tries to load.  A page loads the
stylesheet of its identifier as long as no load for it has succeeded. -/
def loadedBy? (resolve : Text → Text) (files : Files) (before : List Step) : Step → Option Text
  | .style identifier _ =>
    if Text.trim identifier = [] then none
    else
      match snapshot identifier (resolve identifier) files before with
      | some _ => none
      | none => ((filesAfter files before).readText (resolve identifier)).toOption
  | .ask _ | .change _ => none

/-- The texts that the steps behind a history load or try to load, in order. -/
def loads (resolve : Text → Text) (files : Files) : (before later : List Step) → List Text
  | _, [] => []
  | before, step :: later =>
    (loadedBy? resolve files before step).toList
      ++ loads resolve files (before ++ [step]) later

theorem loads_append_singleton :
    loads resolve files before (later ++ [step])
      = loads resolve files before later
        ++ (loadedBy? resolve files (before ++ later) step).toList := by
  induction later generalizing before with
  | nil => simp [loads]
  | cons next later ih => simp [loads, ih]

/-- The selectors that a history has left in the memo, repetitions included. -/
def learned (settings : Settings) (files : Files) (steps : List Step) : List Text :=
  if settings.sharesSelectors then
    (loads settings.resolve files [] steps).flatMap Stylesheet.readSelectors
  else []

/-- A step adds the selectors of what it loads. -/
theorem learned_append_singleton :
    learned settings files (steps ++ [step])
      = learned settings files steps ++
        if settings.sharesSelectors then
          (loadedBy? settings.resolve files steps step).toList.flatMap Stylesheet.readSelectors
        else [] := by
  rw [learned, learned, loads_append_singleton, List.flatMap_append, List.nil_append]
  split <;> rfl

/-- One step adds the selectors of what it loads to the memo. -/
theorem Follows.keys_selectors_step (h : Follows settings files steps s)
    (hkeys : s.pool.selectors.keys = (learned settings files steps).eraseDups) (step : Step) :
    (s.step read step).2.pool.selectors.keys
      = (learned settings files (steps ++ [step])).eraseDups := by
  rw [learned_append_singleton]
  cases step with
  | change new => simpa [Session.step, loadedBy?] using hkeys
  | ask identifier =>
    have hsame : (s.pool.filterFor identifier).2.selectors = s.pool.selectors := by
      by_cases hblank : Text.trim identifier = []
      · rw [FilterPool.filterFor_of_blank s.pool hblank]
      · exact (FilterPool.filterFor_of_named s.pool hblank).2.2
    simpa [Session.step, loadedBy?, hsame] using hkeys
  | style identifier page =>
    by_cases hblank : Text.trim identifier = []
    · rw [Session.step, FilterPool.restyle_of_blank read s.pool s.files hblank]
      simpa [loadedBy?, hblank] using hkeys
    · obtain ⟨-, -, hselectors⟩ := FilterPool.restyle_of_named read hblank h.sound s.files page
      rw [h.filterOf_eq hblank] at hselectors
      rw [Session.step, hselectors, loadedBy?, if_neg hblank]
      cases hsnapshot : snapshot identifier (settings.resolve identifier) files steps with
      | some sheet => simpa [Filter.isLoaded, remembered, hsnapshot] using hkeys
      | none =>
        have hload := Filter.keys_snd_load h.sound hkeys
          (remembered settings files steps identifier) s.files
        rw [h.files_eq] at hload ⊢
        simpa [Filter.isLoaded, remembered, hsnapshot] using hload

/-- The shared selectors after a history. -/
theorem keys_selectors_run (read : PageReader) (settings : Settings) (files : Files)
    (steps : List Step) :
    (run read (start settings files) steps).pool.selectors.keys
      = (learned settings files steps).eraseDups := by
  induction steps using List.reverseRecOn with
  | nil =>
    rw [learned, loads]
    simp [run, start, FilterPool.ofSettings]
  | append_singleton steps step ih =>
    rw [run_append_singleton]
    exact (follows_run read settings files steps).keys_selectors_step ih step

/-- The number of shared selectors after a history. -/
theorem sharedSelectors_run (read : PageReader) (settings : Settings) (files : Files)
    (steps : List Step) :
    (run read (start settings files) steps).pool.sharedSelectors
      = (learned settings files steps).eraseDups.length := by
  rw [← keys_selectors_run read, OrderedMap.keys, List.length_map]
  rfl

/-- **Sharing selectors is not seen in any answer**: it shows in the number of shared
selectors only, which is zero without sharing, and with sharing that of the selectors that
the loads of the session have read, whatever reads the pages. -/
theorem sharing_unobservable (read : PageReader) (root : Option Text) (files : Files)
    (steps : List Step) :
    (start ⟨root, true⟩ files).answers read steps = (start ⟨root, false⟩ files).answers read steps ∧
    (run read (start ⟨root, false⟩ files) steps).pool.sharedSelectors = 0 ∧
    (run read (start ⟨root, true⟩ files) steps).pool.sharedSelectors =
      ((loads (Settings.resolve ⟨root, true⟩) files [] steps).flatMap
        Stylesheet.readSelectors).eraseDups.length := by
  refine ⟨?_, ?_, ?_⟩
  · rw [(follows_start ⟨root, true⟩ files).answers_eq,
      (follows_start ⟨root, false⟩ files).answers_eq]
    rfl
  · rw [sharedSelectors_run]
    rfl
  · rw [sharedSelectors_run]
    rfl

end Session

end StyleInline
