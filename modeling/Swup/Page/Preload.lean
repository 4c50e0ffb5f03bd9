import Mathlib.Data.List.Basic

/-!
# Swup pages - Preloading on hover

{lit}`linkMouseoverHandler` of {lit}`src/index.js` starts a preload when the
pointer enters a link to a page that is neither the current one nor cached,
unless {lit}`preloadPromise` is set.  The fetch's callback caches the page,
resolves the promise and clears {lit}`preloadPromise`.  Its two failure
branches, a server error and a response {lit}`getDataFromHTML` cannot read,
reject the promise and return before the line that clears it, so after one
failed preload no hover starts another.

A run is any sequence of hovers and fetch callbacks; a callback runs at most
once per fetch, in any order with the hovers.

Main results:

- Theorem {lit}`Preloader.inv_run`: at most one preload is in flight, and then
  {lit}`preloadPromise` is its pending promise; with none in flight,
  {lit}`preloadPromise` is null or a rejected promise.
- Theorem {lit}`Preloader.rejected_run`: once {lit}`preloadPromise` holds a
  rejected promise it keeps it, and no hover starts a preload again.
- Theorem {lit}`Preloader.failed_preload_blocks_later_hover`: one server error,
  then a hover over another uncached link starts nothing.
-/

namespace Swup

/-- A URL as {lit}`Link.getAddress` and {lit}`getCurrentUrl` return it. -/
abbrev Url := String

/-- The state of a JavaScript promise. -/
inductive PromiseState where
  | pending
  | resolved
  | rejected
  deriving DecidableEq, Repr

/-- The promise stored in {lit}`preloadPromise`, with its {lit}`route`; it is
the promise of the preload numbered {lit}`fetch`. -/
structure PreloadPromise where
  fetch : Nat
  route : Url
  state : PromiseState
  deriving DecidableEq, Repr

/-- How a preload's request ends. -/
inductive FetchOutcome where
  /-- {lit}`request.status === 500`. -/
  | serverError
  /-- {lit}`getDataFromHTML` returns {lit}`null`. -/
  | unparseable
  /-- A page. -/
  | page
  deriving DecidableEq, Repr

/-- A preload whose fetch callback has not run yet. -/
structure PendingFetch where
  id : Nat
  url : Url
  deriving DecidableEq, Repr

/-- The options and location {lit}`linkMouseoverHandler` reads. -/
structure PreloadEnv where
  /-- {lit}`this.options.preload`. -/
  preload : Bool
  /-- {lit}`getCurrentUrl()`. -/
  currentUrl : Url
  deriving DecidableEq, Repr

/-- The part of a {lit}`Swup` instance the preload handler reads and writes:
{lit}`preloadPromise`, the fetches in flight numbered by start, the cached
URLs, and the events triggered, in order. -/
structure Preloader where
  preloadPromise : Option PreloadPromise
  fetches : List PendingFetch
  started : Nat
  cache : List Url
  events : List String
  deriving DecidableEq, Repr

/-- A step of a run: a hover over a link, or the callback of a fetch. -/
inductive PreloadAction where
  | hover (address : Url)
  | complete (fetch : Nat) (outcome : FetchOutcome)
  deriving DecidableEq, Repr

/-- The closure's own {lit}`resolve` or {lit}`reject`: it settles the promise of
its preload, whatever {lit}`preloadPromise` holds. -/
def settlePreload (fetch : Nat) (state : PromiseState) : Option PreloadPromise → Option PreloadPromise
  | some p => some (if p.fetch = fetch then { p with state := state } else p)
  | none => none

namespace Preloader

/-- A fresh instance, with whatever the cache already holds. -/
def init (cache : List Url) : Preloader :=
  ⟨none, [], 0, cache, []⟩

/-- {lit}`linkMouseoverHandler(event)` for a link to {lit}`address`. -/
def linkMouseoverHandler (env : PreloadEnv) (s : Preloader) (address : Url) : Preloader :=
  let s := { s with events := s.events ++ ["hoverLink"] }
  if env.preload && address != env.currentUrl && !s.cache.contains address &&
      s.preloadPromise.isNone then
    { s with preloadPromise := some ⟨s.started, address, .pending⟩,
             fetches := s.fetches ++ [⟨s.started, address⟩], started := s.started + 1 }
  else s

/-- The callback {lit}`fetch` calls for a preload of {lit}`f.url`. -/
def fetchCallback (s : Preloader) (f : PendingFetch) : FetchOutcome → Preloader
  | .serverError =>
    { s with events := s.events ++ ["serverError"],
             preloadPromise := settlePreload f.id .rejected s.preloadPromise }
  | .unparseable => { s with preloadPromise := settlePreload f.id .rejected s.preloadPromise }
  | .page =>
    { s with cache := s.cache ++ [f.url], events := s.events ++ ["pagePreloaded"],
             preloadPromise := none }

/-- One step.  A callback of a fetch that is not in flight changes nothing. -/
def step (env : PreloadEnv) (s : Preloader) : PreloadAction → Preloader
  | .hover address => s.linkMouseoverHandler env address
  | .complete id outcome =>
    match s.fetches.find? (·.id = id) with
    | some f => fetchCallback { s with fetches := s.fetches.filter (·.id ≠ id) } f outcome
    | none => s

/-- Take the steps in order. -/
def run (env : PreloadEnv) (s : Preloader) (acts : List PreloadAction) : Preloader :=
  acts.foldl (step env) s

@[simp]
theorem run_nil (env : PreloadEnv) (s : Preloader) : s.run env [] = s :=
  rfl

@[simp]
theorem run_cons (env : PreloadEnv) (s : Preloader) (act : PreloadAction)
    (acts : List PreloadAction) : s.run env (act :: acts) = (s.step env act).run env acts :=
  rfl

/-! ## At most one preload in flight -/

/-- The three states the handler can be in: idle, one preload in flight whose
pending promise is stored, or blocked by a rejected promise. -/
def Inv (s : Preloader) : Prop :=
  (s.fetches = [] ∧ s.preloadPromise = none) ∨
    (∃ f, s.fetches = [f] ∧ s.preloadPromise = some ⟨f.id, f.url, .pending⟩) ∨
    (s.fetches = [] ∧ ∃ p, s.preloadPromise = some p ∧ p.state = .rejected)

theorem inv_init (cache : List Url) : Inv (init cache) :=
  .inl ⟨rfl, rfl⟩

theorem inv_step (env : PreloadEnv) {s : Preloader} (hs : Inv s) (act : PreloadAction) :
    Inv (s.step env act) := by
  cases act with
  | hover address =>
    rcases hs with ⟨hf, hp⟩ | ⟨f, hf, hp⟩ | ⟨hf, p, hp, hrej⟩
    · simp only [step, linkMouseoverHandler]
      split_ifs
      · exact .inr (.inl ⟨⟨s.started, address⟩, by simp [hf], rfl⟩)
      · exact .inl ⟨hf, hp⟩
    · exact .inr (.inl ⟨f, by simp [step, linkMouseoverHandler, hp, hf]⟩)
    · exact .inr (.inr ⟨by simp [step, linkMouseoverHandler, hp, hf], p, by
        simp [step, linkMouseoverHandler, hp, hrej]⟩)
  | complete id outcome =>
    rcases hs with ⟨hf, hp⟩ | ⟨f, hf, hp⟩ | ⟨hf, p, hp, hrej⟩
    · simp only [step, hf, List.find?_nil]
      exact .inl ⟨hf, hp⟩
    · by_cases hid : f.id = id
      · subst hid
        cases outcome <;> simp [step, hf, hp, fetchCallback, settlePreload, Inv]
      · have hsame : s.step env (.complete id outcome) = s := by simp [step, hf, hid]
        rw [hsame]
        exact .inr (.inl ⟨f, hf, hp⟩)
    · simp only [step, hf, List.find?_nil]
      exact .inr (.inr ⟨hf, p, hp, hrej⟩)

/-- In every run from a fresh instance, at most one preload is in flight, and
then {lit}`preloadPromise` is its pending promise; with none in flight,
{lit}`preloadPromise` is null or a rejected promise. -/
theorem inv_run (env : PreloadEnv) (cache : List Url) (acts : List PreloadAction) :
    Inv ((init cache).run env acts) := by
  suffices h : ∀ s, Inv s → Inv (s.run env acts) from h _ (inv_init cache)
  induction acts with
  | nil => exact fun s hs => hs
  | cons act acts ih => exact fun s hs => ih _ (inv_step env hs act)

/-! ## A rejected preload blocks the handler -/

/-- With no fetch in flight and a rejected promise stored, every step keeps the
promise and starts no preload. -/
theorem rejected_step (env : PreloadEnv) {s : Preloader} {p : PreloadPromise}
    (hf : s.fetches = []) (hp : s.preloadPromise = some p) (act : PreloadAction) :
    (s.step env act).preloadPromise = some p ∧ (s.step env act).fetches = [] ∧
      (s.step env act).started = s.started := by
  cases act with
  | hover address => simp [step, linkMouseoverHandler, hp, hf]
  | complete id outcome => simp [step, hf, hp]

/-- Once {lit}`preloadPromise` holds a rejected promise and no fetch is in
flight, as after a failed preload, it keeps that promise for the rest of any
run, and no hover starts a preload. -/
theorem rejected_run (env : PreloadEnv) {s : Preloader} {p : PreloadPromise}
    (hf : s.fetches = []) (hp : s.preloadPromise = some p) (acts : List PreloadAction) :
    (s.run env acts).preloadPromise = some p ∧ (s.run env acts).fetches = [] ∧
      (s.run env acts).started = s.started := by
  induction acts generalizing s with
  | nil => exact ⟨hp, hf, rfl⟩
  | cons act acts ih =>
    obtain ⟨hp', hf', hs'⟩ := rejected_step env hf hp act
    obtain ⟨h1, h2, h3⟩ := ih hf' hp'
    exact ⟨h1, h2, h3.trans hs'⟩

/-- The preload of {lit}`/a` fails with a server error. -/
def failedPreloadRun : List PreloadAction :=
  [.hover "/a", .complete 0 .serverError]

theorem rejected_run_failedPreload :
    let s := (init []).run ⟨true, "/"⟩ failedPreloadRun
    s.fetches = [] ∧ s.preloadPromise = some ⟨0, "/a", .rejected⟩ ∧
      ((s.run ⟨true, "/"⟩ [.hover "/b"]).preloadPromise = some ⟨0, "/a", .rejected⟩ ∧
        (s.run ⟨true, "/"⟩ [.hover "/b"]).fetches = [] ∧
        (s.run ⟨true, "/"⟩ [.hover "/b"]).started = s.started) :=
  have hf : ((init []).run ⟨true, "/"⟩ failedPreloadRun).fetches = [] := by decide
  have hp : ((init []).run ⟨true, "/"⟩ failedPreloadRun).preloadPromise =
      some ⟨0, "/a", .rejected⟩ := by decide
  ⟨hf, hp, rejected_run ⟨true, "/"⟩ hf hp [.hover "/b"]⟩

/-- After the preload of {lit}`/a` failed with a server error, no fetch is in
flight but {lit}`preloadPromise` is not null, and a hover over {lit}`/b`, neither
current nor cached, starts no preload. -/
theorem failed_preload_blocks_later_hover :
    ((init []).run ⟨true, "/"⟩ failedPreloadRun).fetches = [] ∧
      ((init []).run ⟨true, "/"⟩ failedPreloadRun).preloadPromise ≠ none ∧
      ((init []).run ⟨true, "/"⟩ (failedPreloadRun ++ [.hover "/b"])).fetches = [] ∧
      ((init []).run ⟨true, "/"⟩ (failedPreloadRun ++ [.hover "/b"])).started = 1 := by
  decide

end Preloader

end Swup
