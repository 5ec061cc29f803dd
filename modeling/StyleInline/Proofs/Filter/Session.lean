import Mathlib.Data.List.Induction
import StyleInline.Proofs.Filter.Loading
import StyleInline.Proofs.Stylesheet.Ranking

/-!
# Sessions

In a session a pool is asked for filters and given pages while the files change.  What it
answers can be told from the history of the session alone.  The first sheet that an
identifier has loaded serves all its later pages, whatever becomes of the file; until then
every page tries the file as it is.

The state of a session is tied to its history by `Follows`: one step keeps it, and so does a
run.

## Main definitions

* `Session`, `Session.step`, `Session.run` — a pool with the files as they are, and what steps
  make of it.
* `Session.attempts`, `Session.snapshot` — what the pages of an identifier found at its path,
  and the first sheet among it.
* `Session.Follows` — the state after a history.
* `Session.expected` — the answer to the next step, told from the history.
* `Session.LoadsOnce` — an identifier loads its sheet once.

## Main results

* `Session.follows_run` — every session follows its history.
* `Session.Follows.fst_step` — the answer to the next step is the one expected.
* `Session.loadsOnce_run` — every identifier does, in every session.
-/

namespace StyleInline

/-- A pool of filters, and the files as they are. -/
structure Session where
  pool : FilterPool
  files : Files

namespace Session

/-! ## Steps -/

/-- One step of a session. -/
inductive Step where
  /-- The filter of an identifier is asked for. -/
  | ask (identifier : Text)
  /-- The filter of an identifier is given a page. -/
  | style (identifier page : Text)
  /-- The files are changed, and are `files` from now on. -/
  | change (files : Files)

/-- What a step shows. -/
inductive Answer where
  /-- The path of a filter, and whether it is loaded. -/
  | filter (path : Text) (isLoaded : Bool)
  /-- A page with its styles. -/
  | page (text : Text)
  /-- There is no filter, or no page. -/
  | refused (error : FilterError)
  /-- The files have been changed. -/
  | changed
deriving Repr, DecidableEq

/-- A filter as an answer. -/
def Answer.ofFilter : Except FilterError Filter → Answer
  | .ok f => filter f.path f.isLoaded
  | .error e => refused e

/-- A page as an answer. -/
def Answer.ofPage : Except FilterError Text → Answer
  | .ok text => page text
  | .error e => refused e

/-- The session before the first step. -/
def start (settings : Settings) (files : Files) : Session := ⟨.ofSettings settings, files⟩

/-- What a step shows, and the session after it.  Pages are read by `read`. -/
def step (read : PageReader) (s : Session) : Step → Answer × Session
  | .ask identifier =>
    let found := s.pool.filterFor identifier
    (.ofFilter found.1, { s with pool := found.2 })
  | .style identifier page =>
    let styled := s.pool.restyle read s.files identifier page
    (.ofPage styled.1, { s with pool := styled.2 })
  | .change files => (.changed, { s with files := files })

/-- The session after steps. -/
def run (read : PageReader) (s : Session) (steps : List Step) : Session :=
  steps.foldl (fun s step => (s.step read step).2) s

/-- What steps show, each with the number of filters after it. -/
def answers (read : PageReader) (s : Session) : List Step → List (Answer × Nat)
  | [] => []
  | step :: later =>
    let next := s.step read step
    (next.1, next.2.pool.size) :: answers read next.2 later

/-! ## Histories -/

/-- The identifier that a step names; a blank one is none. -/
def Step.identifier? : Step → Option Text
  | ask identifier | style identifier _ =>
    if Text.trim identifier = [] then none else some identifier
  | change _ => none

/-- The identifiers that steps name, repetitions included. -/
def seen (steps : List Step) : List Text := steps.filterMap Step.identifier?

/-- The files after a step. -/
def Step.filesAfter (files : Files) : Step → Files
  | change files => files
  | ask _ | style .. => files

/-- The files after steps. -/
def filesAfter (files : Files) (steps : List Step) : Files := steps.foldl Step.filesAfter files

/-- What lay at `path` whenever `identifier` was given a page, in order. -/
def attempts (identifier path : Text) : Files → List Step →
    List (Except FilterError CompiledSheet)
  | _, [] => []
  | files, .style other _ :: later =>
    if other = identifier then files.sheetAt path :: attempts identifier path files later
    else attempts identifier path files later
  | files, .ask _ :: later => attempts identifier path files later
  | _, .change files :: later => attempts identifier path files later

/-- The first sheet that lay at `path` when `identifier` was given a page. -/
def snapshot (identifier path : Text) (files : Files) (steps : List Step) :
    Option CompiledSheet :=
  (attempts identifier path files steps).findSome? Except.toOption

/-- The sheet for the next page of `identifier`: the snapshot, or what lies at `path` now. -/
def sheetFor (identifier path : Text) (files : Files) (steps : List Step) :
    Except FilterError CompiledSheet :=
  match snapshot identifier path files steps with
  | some sheet => .ok sheet
  | none => (filesAfter files steps).sheetAt path

/-- What the next step shows after a history, when the stylesheet of an identifier lies where
`resolve` says. -/
def expected (read : PageReader) (resolve : Text → Text) (files : Files) (steps : List Step) :
    Step → Answer
  | .ask identifier =>
    if Text.trim identifier = [] then .refused .emptyIdentifier
    else .filter (resolve identifier)
      (snapshot identifier (resolve identifier) files steps).isSome
  | .style identifier page =>
    if Text.trim identifier = [] then .refused .emptyIdentifier
    else .ofPage ((sheetFor identifier (resolve identifier) files steps).bind
      (Filter.restyle read · page))
  | .change _ => .changed

/-- The filter of an identifier after a history. -/
def remembered (settings : Settings) (files : Files) (steps : List Step) (identifier : Text) :
    Filter where
  path := settings.resolve identifier
  sharesSelectors := settings.sharesSelectors
  sheet := snapshot identifier (settings.resolve identifier) files steps

variable {read : PageReader} {settings : Settings} {files : Files} {steps later : List Step}
  {step : Step} {s : Session} {identifier other path page : Text}

theorem run_append_singleton (read : PageReader) (s : Session) (steps : List Step) (step : Step) :
    run read s (steps ++ [step]) = ((run read s steps).step read step).2 :=
  List.foldl_append

@[simp] theorem filesAfter_append :
    filesAfter files (steps ++ later) = filesAfter (filesAfter files steps) later :=
  List.foldl_append

@[simp] theorem seen_append : seen (steps ++ later) = seen steps ++ seen later :=
  List.filterMap_append

theorem attempts_append :
    attempts identifier path files (steps ++ later)
      = attempts identifier path files steps
        ++ attempts identifier path (filesAfter files steps) later := by
  induction steps generalizing files with
  | nil => rfl
  | cons step steps ih =>
    cases step with
    | ask => exact ih
    | style other page =>
      rw [List.cons_append, attempts, attempts, ih]
      split <;> rfl
    | change => exact ih

theorem notMem_seen_cons_iff : identifier ∉ seen (step :: later) ↔
    step.identifier? ≠ some identifier ∧ identifier ∉ seen later := by
  rw [seen, List.filterMap_cons, ← seen]
  cases step.identifier? with
  | none => simp
  | some other => simp [eq_comm]

/-- A history that does not name an identifier has made no attempts for it. -/
theorem attempts_eq_nil (hnamed : Text.trim identifier ≠ []) (h : identifier ∉ seen steps) :
    attempts identifier path files steps = [] := by
  induction steps generalizing files with
  | nil => rfl
  | cons step steps ih =>
    obtain ⟨hstep, hlater⟩ := notMem_seen_cons_iff.1 h
    cases step with
    | ask | change => exact ih hlater
    | style other page =>
      have hne : other ≠ identifier := by
        intro heq
        subst heq
        exact hstep (if_neg hnamed)
      rw [attempts, if_neg hne, ih hlater]

/-- A step that names another identifier, or none, makes no attempt. -/
theorem snapshot_append_of_ne (h : step.identifier? ≠ some identifier)
    (hnamed : Text.trim identifier ≠ []) :
    snapshot identifier path files (steps ++ [step]) = snapshot identifier path files steps := by
  have hseen : identifier ∉ seen [step] :=
    notMem_seen_cons_iff.2 ⟨h, List.not_mem_nil⟩
  rw [snapshot, attempts_append, attempts_eq_nil hnamed hseen, List.append_nil, snapshot]

/-- A page adds what it finds, if nothing has been found before. -/
theorem snapshot_append_style :
    snapshot identifier path files (steps ++ [.style identifier page])
      = (snapshot identifier path files steps).or
          ((filesAfter files steps).sheetAt path).toOption := by
  rw [snapshot, attempts_append, List.findSome?_append, snapshot, attempts, if_pos rfl, attempts]
  simp

/-- The identifiers that steps name are not blank. -/
theorem trim_ne_nil_of_mem_seen (h : identifier ∈ seen steps) : Text.trim identifier ≠ [] := by
  obtain ⟨step, -, hstep⟩ := List.mem_filterMap.1 h
  cases step with
  | ask other | style other page =>
    rw [Step.identifier?] at hstep
    split at hstep
    · cases hstep
    · next hnamed =>
      cases hstep
      exact hnamed
  | change => cases hstep

/-! ## The state after a history -/

/-- A step that names another identifier, or none, leaves a filter as it was. -/
theorem remembered_append_of_ne (h : step.identifier? ≠ some identifier)
    (hnamed : Text.trim identifier ≠ []) :
    remembered settings files (steps ++ [step]) identifier
      = remembered settings files steps identifier := by
  rw [remembered, remembered, snapshot_append_of_ne h hnamed]

/-- Asking for a filter leaves it as it was. -/
theorem remembered_append_ask :
    remembered settings files (steps ++ [.ask identifier]) identifier
      = remembered settings files steps identifier := by
  rw [remembered, remembered, snapshot, snapshot, attempts_append]
  simp [attempts]

/-- A page leaves the filter with what it has found. -/
theorem settle_remembered (page : Text) :
    (remembered settings files steps identifier).settle (filesAfter files steps)
      = remembered settings files (steps ++ [.style identifier page]) identifier := by
  rw [Filter.settle, remembered, remembered, snapshot_append_style]

/-- The sheet that a filter obtains after a history. -/
theorem obtain_remembered :
    (remembered settings files steps identifier).obtain (filesAfter files steps)
      = sheetFor identifier (settings.resolve identifier) files steps := rfl

/-- A session is in the state that a history leaves: it has a filter for every identifier that
has been named, with the first sheet that was found for it. -/
structure Follows (settings : Settings) (files : Files) (steps : List Step) (s : Session) :
    Prop where
  settings_eq : s.pool.settings = settings
  files_eq : s.files = filesAfter files steps
  keys_eq : s.pool.filters.keys = (seen steps).eraseDups
  get?_eq : ∀ identifier ∈ seen steps,
    s.pool.filters.get? identifier = some (remembered settings files steps identifier)
  sound : s.pool.selectors.Sound

theorem follows_start (settings : Settings) (files : Files) :
    Follows settings files [] (start settings files) where
  settings_eq := rfl
  files_eq := rfl
  keys_eq := rfl
  get?_eq identifier h := by cases h
  sound := SelectorMemo.sound_empty

/-- An identifier that has not been named has a filter that is not loaded, as a new one is. -/
theorem Follows.filterOf_eq (h : Follows settings files steps s)
    (hnamed : Text.trim identifier ≠ []) :
    s.pool.filterOf identifier = remembered settings files steps identifier := by
  rw [FilterPool.filterOf]
  by_cases hseen : identifier ∈ seen steps
  · rw [h.get?_eq identifier hseen, Option.getD_some]
  · have hnone : s.pool.filters.get? identifier = none := by
      rw [OrderedMap.get?_eq_none_iff, h.keys_eq, List.mem_eraseDups]
      exact hseen
    rw [hnone, Option.getD_none, FilterPool.newFilter, h.settings_eq, remembered, snapshot,
      attempts_eq_nil hnamed hseen]
    rfl

/-- After a step that names no identifier, the state follows with the files as they are. -/
theorem Follows.of_unnamed (h : Follows settings files steps s) (hstep : step.identifier? = none) :
    Follows settings files (steps ++ [step]) { s with files := step.filesAfter s.files } := by
  have hseen : seen (steps ++ [step]) = seen steps := by
    rw [seen_append, seen, seen, List.filterMap_cons_none hstep, List.filterMap_nil,
      List.append_nil]
  exact {
    settings_eq := h.settings_eq
    files_eq := by rw [filesAfter_append, h.files_eq]; rfl
    keys_eq := by rw [hseen, h.keys_eq]
    get?_eq := by
      intro identifier hidentifier
      rw [hseen] at hidentifier
      rw [h.get?_eq identifier hidentifier,
        remembered_append_of_ne (by simp [hstep]) (trim_ne_nil_of_mem_seen hidentifier)]
    sound := h.sound }

/-- After a step that names an identifier, the state follows when the filter of that
identifier has been put into the pool as it is remembered. -/
theorem Follows.of_puts (h : Follows settings files steps s)
    (hstep : step.identifier? = some identifier) {pool : FilterPool}
    (hputs : s.pool.Puts identifier (remembered settings files (steps ++ [step]) identifier) pool)
    (hsound : pool.selectors.Sound) :
    Follows settings files (steps ++ [step]) { s with pool := pool } := by
  have hseen : seen (steps ++ [step]) = seen steps ++ [identifier] := by
    rw [seen_append, seen, seen, List.filterMap_cons_some hstep, List.filterMap_nil]
  exact {
    settings_eq := hputs.settings_eq.trans h.settings_eq
    files_eq := by
      rw [filesAfter_append, h.files_eq]
      cases step with
      | ask | style => rfl
      | change => cases hstep
    keys_eq := by
      rw [hputs.keys_eq, hseen, eraseDups_append_singleton, h.keys_eq]
      simp only [List.mem_eraseDups]
    get?_eq := by
      intro other hother
      rw [hputs.get?_eq]
      split
      · next heq => rw [heq]
      · next hne =>
        rw [hseen, List.mem_append, List.mem_singleton] at hother
        have hold : other ∈ seen steps := hother.resolve_right (Ne.symm hne)
        rw [h.get?_eq other hold,
          remembered_append_of_ne (by simpa [hstep] using hne) (trim_ne_nil_of_mem_seen hold)]
    sound := hsound }

/-- One step keeps the state in line with the history. -/
theorem Follows.snd_step (h : Follows settings files steps s) (read : PageReader) (step : Step) :
    Follows settings files (steps ++ [step]) (s.step read step).2 := by
  cases step with
  | change new => exact h.of_unnamed rfl
  | ask identifier =>
    by_cases hblank : Text.trim identifier = []
    · have hsame : (s.step read (.ask identifier)).2 = s := by
        rw [Session.step, FilterPool.filterFor_of_blank s.pool hblank]
      rw [hsame]
      exact h.of_unnamed (if_pos hblank)
    · have hnamed : (Step.ask identifier).identifier? = some identifier := if_neg hblank
      obtain ⟨-, hputs, hselectors⟩ := FilterPool.filterFor_of_named s.pool hblank
      rw [h.filterOf_eq hblank, ← remembered_append_ask] at hputs
      exact h.of_puts hnamed hputs (hselectors ▸ h.sound)
  | style identifier page =>
    by_cases hblank : Text.trim identifier = []
    · have hsame : (s.step read (.style identifier page)).2 = s := by
        rw [Session.step, FilterPool.restyle_of_blank read s.pool s.files hblank]
      rw [hsame]
      exact h.of_unnamed (if_pos hblank)
    · have hnamed : (Step.style identifier page).identifier? = some identifier := if_neg hblank
      obtain ⟨-, hputs, hselectors⟩ :=
        FilterPool.restyle_of_named read hblank h.sound s.files page
      rw [h.filterOf_eq hblank, h.files_eq, settle_remembered page, ← h.files_eq] at hputs
      refine h.of_puts hnamed hputs ?_
      rw [hselectors]
      split
      · exact h.sound
      · exact Filter.sound_snd_load h.sound

/-- A run leaves the state in line with its history. -/
theorem follows_run (read : PageReader) (settings : Settings) (files : Files)
    (steps : List Step) : Follows settings files steps (run read (start settings files) steps) := by
  induction steps using List.reverseRecOn with
  | nil => exact follows_start settings files
  | append_singleton steps step ih =>
    rw [run_append_singleton]
    exact ih.snd_step read step

/-- What a step shows can be told from the history. -/
theorem Follows.fst_step (h : Follows settings files steps s) (step : Step) :
    (s.step read step).1 = expected read settings.resolve files steps step := by
  cases step with
  | change new => rfl
  | ask identifier =>
    rw [Session.step, expected]
    by_cases hblank : Text.trim identifier = []
    · rw [FilterPool.filterFor_of_blank s.pool hblank, if_pos hblank]
      rfl
    · rw [(FilterPool.filterFor_of_named s.pool hblank).1, h.filterOf_eq hblank, if_neg hblank]
      rfl
  | style identifier page =>
    rw [Session.step, expected]
    by_cases hblank : Text.trim identifier = []
    · rw [FilterPool.restyle_of_blank read s.pool s.files hblank, if_pos hblank]
      rfl
    · rw [(FilterPool.restyle_of_named read hblank h.sound s.files page).1, h.filterOf_eq hblank,
        h.files_eq, obtain_remembered, if_neg hblank]

/-- The number of filters is that of the identifiers that have been named. -/
theorem Follows.size_eq (h : Follows settings files steps s) :
    s.pool.size = (seen steps).eraseDups.length := by
  rw [← h.keys_eq, OrderedMap.keys, List.length_map]
  rfl

/-! ## One identifier among others -/

/-- Whether a step names an identifier, or none at all because it changes the files. -/
def Step.concerns (identifier : Text) : Step → Bool
  | ask other | style other _ => other = identifier
  | change _ => true

/-- Steps that name other identifiers do not change the files. -/
theorem filesAfter_filter_concerns :
    filesAfter files (steps.filter (Step.concerns identifier)) = filesAfter files steps := by
  induction steps generalizing files with
  | nil => rfl
  | cons step steps ih =>
    rw [List.filter_cons]
    split
    · exact ih
    · next hstep =>
      cases step with
      | ask | style => exact ih
      | change => exact absurd rfl hstep

/-- Steps that name other identifiers make no attempts for this one. -/
theorem attempts_filter_concerns :
    attempts identifier path files (steps.filter (Step.concerns identifier))
      = attempts identifier path files steps := by
  induction steps generalizing files with
  | nil => rfl
  | cons step steps ih =>
    cases step with
    | ask other =>
      rw [List.filter_cons]
      split <;> exact ih
    | style other page =>
      by_cases h : other = identifier
      · rw [List.filter_cons_of_pos (by simpa [Step.concerns] using h), attempts, attempts,
          if_pos h, if_pos h, ih]
      · rw [List.filter_cons_of_neg (by simpa [Step.concerns] using h), attempts, if_neg h, ih]
    | change new => exact ih

/-- Steps that name other identifiers leave the sheet for the next page as it is. -/
theorem sheetFor_filter_concerns :
    sheetFor identifier path files (steps.filter (Step.concerns identifier))
      = sheetFor identifier path files steps := by
  rw [sheetFor, sheetFor, snapshot, snapshot, attempts_filter_concerns, filesAfter_filter_concerns]

/-! ## The outcome -/

/-- No attempt has found a sheet. -/
def NoneLoaded (identifier path : Text) (files : Files) (steps : List Step) : Prop :=
  ∀ found ∈ attempts identifier path files steps, ∃ e, found = .error e

theorem snapshot_eq_none_iff :
    snapshot identifier path files steps = none ↔ NoneLoaded identifier path files steps := by
  rw [snapshot, List.findSome?_eq_none_iff, NoneLoaded]
  refine forall₂_congr ?_
  intro found _
  cases found <;> simp [Except.toOption]

/-- The first sheet that a page has found is the snapshot from then on. -/
theorem snapshot_eq_some {sheet : CompiledSheet} (h : NoneLoaded identifier path files steps)
    (hsheet : (filesAfter files steps).sheetAt path = .ok sheet) (page : Text)
    (later : List Step) :
    snapshot identifier path files (steps ++ .style identifier page :: later) = some sheet := by
  have hnone : snapshot identifier path files steps = none := snapshot_eq_none_iff.2 h
  rw [snapshot, attempts_append, List.findSome?_append, ← snapshot, hnone, attempts, if_pos rfl,
    hsheet, List.findSome?_cons]
  rfl

/-- The answer is the page, styled by a sheet: the markup that the page stands for is stored as
a document, the sheet is applied to it, and the document is printed. -/
def Answer.IsStyled (read : PageReader) (sheet : CompiledSheet) (page : Text) (answer : Answer) :
    Prop :=
  ∃ d, (read page).toDocument = .ok d ∧ answer = .page (sheet.apply d).toHtml

theorem Answer.isStyled_ofPage_restyle (read : PageReader) (sheet : CompiledSheet) (page : Text) :
    IsStyled read sheet page (.ofPage (Filter.restyle read sheet page)) := by
  obtain ⟨d, hd, hrestyle⟩ := Filter.exists_restyle read sheet page
  exact ⟨d, hd, by rw [hrestyle, ofPage]⟩

/-- How a session that has had `steps` answers: an identifier loads its sheet once. -/
structure LoadsOnce (read : PageReader) (settings : Settings) (files : Files) (steps : List Step)
    (s : Session) : Prop where
  /-- The text that lay at the path of an identifier when one of its pages could load it for
  the first time serves all its later pages, whatever the files are now. -/
  style_of_loaded : ∀ identifier page first before later text sheet,
    Text.trim identifier ≠ [] →
    steps = before ++ .style identifier first :: later →
    NoneLoaded identifier (settings.resolve identifier) files before →
    (filesAfter files before).readText (settings.resolve identifier) = .ok text →
    CompiledSheet.ofText text = .ok sheet →
    (s.step read (.style identifier page)).1.IsStyled read sheet page
  /-- Until then each page tries what lies there now. -/
  style_of_found : ∀ identifier page sheet, Text.trim identifier ≠ [] →
    NoneLoaded identifier (settings.resolve identifier) files steps →
    (filesAfter files steps).sheetAt (settings.resolve identifier) = .ok sheet →
    (s.step read (.style identifier page)).1.IsStyled read sheet page
  /-- If that fails, the page is refused, and the filter is not loaded but is in the pool. -/
  style_of_failed : ∀ identifier page e, Text.trim identifier ≠ [] →
    NoneLoaded identifier (settings.resolve identifier) files steps →
    (filesAfter files steps).sheetAt (settings.resolve identifier) = .error e →
    (s.step read (.style identifier page)).1 = .refused e ∧
    ∃ f, (s.step read (.style identifier page)).2.pool.filters.get? identifier = some f ∧
      f.isLoaded = false
  /-- A blank identifier is refused and changes nothing. -/
  step_of_blank : ∀ identifier page, Text.trim identifier = [] →
    s.step read (.ask identifier) = (.refused .emptyIdentifier, s) ∧
    s.step read (.style identifier page) = (.refused .emptyIdentifier, s)
  /-- There is a filter for each identifier that has been named, and it is loaded when one of
  its pages has found a sheet. -/
  get?_iff : ∀ identifier, identifier ∈ seen steps ↔
    ∃ f, s.pool.filters.get? identifier = some f ∧ f.path = settings.resolve identifier ∧
      (f.isLoaded = true ↔ ¬ NoneLoaded identifier (settings.resolve identifier) files steps)
  /-- Repetitions aside, the identifiers that have been named are as many as the filters. -/
  size_eq : s.pool.size = (seen steps).eraseDups.length
  /-- Steps that name other identifiers make no difference to an identifier, wherever its
  stylesheet lies. -/
  fst_step_eq : ∀ identifier page,
    let own := run read (start settings files) (steps.filter (Step.concerns identifier))
    (own.step read (.ask identifier)).1 = (s.step read (.ask identifier)).1 ∧
    (own.step read (.style identifier page)).1 = (s.step read (.style identifier page)).1

/-- **An identifier loads its sheet once**, at the first page for which that succeeds, whatever
reads the pages. -/
theorem loadsOnce_run (read : PageReader) (settings : Settings) (files : Files)
    (steps : List Step) :
    LoadsOnce read settings files steps (run read (start settings files) steps) := by
  have h := follows_run read settings files steps
  exact {
    style_of_loaded := by
      intro identifier page first before later text sheet hnamed hsteps hnone hread hcompile
      have hsheet :
          (filesAfter files before).sheetAt (settings.resolve identifier) = .ok sheet := by
        rw [Files.sheetAt, hread]
        simp only [hcompile, Except.mapError]
      rw [h.fst_step, expected, if_neg hnamed, sheetFor, hsteps, snapshot_eq_some hnone hsheet]
      exact Answer.isStyled_ofPage_restyle read sheet page
    style_of_found := by
      intro identifier page sheet hnamed hnone hsheet
      rw [h.fst_step, expected, if_neg hnamed, sheetFor, snapshot_eq_none_iff.2 hnone, hsheet]
      exact Answer.isStyled_ofPage_restyle read sheet page
    style_of_failed := by
      intro identifier page e hnamed hnone herror
      have hseen : identifier ∈ seen (steps ++ [.style identifier page]) := by
        simp [seen, Step.identifier?, hnamed]
      refine ⟨?_, _, (h.snd_step read (.style identifier page)).get?_eq identifier hseen, ?_⟩
      · rw [h.fst_step, expected, if_neg hnamed, sheetFor, snapshot_eq_none_iff.2 hnone, herror]
        rfl
      · rw [Filter.isLoaded, remembered, snapshot_append_style, snapshot_eq_none_iff.2 hnone,
          herror]
        rfl
    step_of_blank := by
      intro identifier page hblank
      rw [Session.step, Session.step, FilterPool.filterFor_of_blank _ hblank,
        FilterPool.restyle_of_blank read _ _ hblank]
      exact ⟨rfl, rfl⟩
    get?_iff := by
      intro identifier
      constructor
      · intro hseen
        refine ⟨_, h.get?_eq identifier hseen, rfl, ?_⟩
        rw [Filter.isLoaded, remembered, ← snapshot_eq_none_iff]
        exact Option.isSome_iff_ne_none
      · rintro ⟨f, hf, -⟩
        have hkey := OrderedMap.mem_keys_of_get? hf
        rwa [h.keys_eq, List.mem_eraseDups] at hkey
    size_eq := h.size_eq
    fst_step_eq := by
      intro identifier page own
      have hown : Follows settings files (steps.filter (Step.concerns identifier)) own :=
        follows_run read settings files _
      rw [h.fst_step, h.fst_step, hown.fst_step, hown.fst_step]
      simp only [expected, sheetFor_filter_concerns, snapshot, attempts_filter_concerns]
      exact ⟨trivial, trivial⟩ }

end Session

end StyleInline
