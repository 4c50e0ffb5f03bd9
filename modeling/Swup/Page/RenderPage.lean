import Swup.Page.Preload

/-!
# Swup pages - Rendering a page while the location moves on

{lit}`renderPage` of {lit}`src/unnamed/part_000` is an async function.  It runs
in segments: the code up to its first {lit}`await`, then the code between one
{lit}`await` and the next.  Between two segments other code runs; a newer visit
may change the current location.  The first segment removes {lit}`is-leaving`
and then checks that the page is still the current one; no later segment looks
at the location again.

So the effects of {lit}`renderPage` are fixed by the location it finds when it
starts: if the page is stale by then, it removes {lit}`is-leaving` and returns;
otherwise it does everything an uninterrupted run does, however the location
changes while it waits.

Main results:

- Theorem {lit}`run_uninterrupted`: the segments run one after another are the
  uninterrupted {lit}`renderPage`.
- Theorem {lit}`renderPage_fixed_at_entry`: in every interleaving, the effects
  so far are a prefix of the uninterrupted run at the location found at entry,
  all of it once {lit}`renderPage` has returned.
- Theorem {lit}`stale_render_has_effects`: a page stale before
  {lit}`renderPage` starts still loses {lit}`is-leaving`, and one that goes
  stale during an await is still rendered.

Current gaps:

- The hook runs are effects of {lit}`renderPage`; what their handlers do is not
  modelled.
-/

namespace Swup

/-- The page record {lit}`renderPage` renders. -/
structure Page where
  url : Url
  responseURL : Url
  deriving DecidableEq, Repr

/-- An effect of {lit}`renderPage` on state other code shares. -/
inductive Effect where
  | removeClass (name : String)
  | addClass (name : String)
  | cacheUrl (page : Page)
  | setCurrentPageUrl (url : Url)
  | updateHistoryRecord (url : Url)
  | runHook (name : String)
  | replaceContent (page : Page)
  | emptyCache
  | enterPage (skipTransition : Bool)
  | resetScrollToElement
  deriving DecidableEq, Repr

/-- What {lit}`renderPage` reads besides the location: the URL resolution, the
URL {lit}`Location.fromUrl` gives, the {lit}`cache` option and its own
{lit}`skipTransition` argument. -/
structure RenderEnv where
  resolveUrl : Url → Url
  locationOf : Url → Url
  cache : Bool
  skipTransition : Bool

/-- Modelled from the spec: {lit}`isSameResolvedUrl` compares the resolved URLs. -/
def isSameResolvedUrl (env : RenderEnv) (a b : Url) : Bool :=
  env.resolveUrl a == env.resolveUrl b

/-- The code of {lit}`renderPage` up to its first {lit}`await`, with
{lit}`getCurrentUrl()` returning {lit}`currentUrl`: its effects, and whether it
goes on. -/
def firstSegment (env : RenderEnv) (page : Page) (currentUrl : Url) : List Effect × Bool :=
  let leaving := [Effect.removeClass "is-leaving"]
  if !isSameResolvedUrl env currentUrl page.url then (leaving, false)
  else
    let url := env.locationOf page.responseURL
    let redirected :=
      if !isSameResolvedUrl env currentUrl url then
        [.cacheUrl { page with url := url }, .setCurrentPageUrl currentUrl, .updateHistoryRecord url]
      else []
    let rendering := if !env.skipTransition then [.addClass "is-rendering"] else []
    (leaving ++ redirected ++ rendering ++ [.runHook "willReplaceContent"], true)

/-- The code between one {lit}`await` and the next, in order; none of it reads
the location. -/
def laterSegments (env : RenderEnv) (page : Page) : List (List Effect) :=
  [[.replaceContent page], [.runHook "contentReplaced"], [.runHook "pageView"],
    (if !env.cache then [.emptyCache] else []) ++
      [.enterPage env.skipTransition, .resetScrollToElement]]

/-- {lit}`renderPage` run to its end with no other code in between. -/
def renderPage (env : RenderEnv) (page : Page) (currentUrl : Url) : List Effect :=
  (firstSegment env page currentUrl).1 ++
    if (firstSegment env page currentUrl).2 then (laterSegments env page).flatten else []

/-! ## Interleaving with a newer visit -/

/-- Where {lit}`renderPage` stands. -/
inductive RenderPc where
  | notStarted
  /-- Suspended before later segment {lit}`k`. -/
  | suspended (k : Nat)
  | returned
  deriving DecidableEq, Repr

/-- The current location, where {lit}`renderPage` stands, and its effects so far. -/
structure RenderState where
  location : Url
  pc : RenderPc
  effects : List Effect
  deriving DecidableEq, Repr

/-- A step of the interleaving: {lit}`renderPage` runs its next segment, or a
newer visit moves the location. -/
inductive RenderStep where
  | resume
  | navigate (url : Url)
  deriving DecidableEq, Repr

namespace RenderState

/-- Where {lit}`renderPage` goes after later segment {lit}`k`. -/
def afterSegment (k : Nat) : RenderPc :=
  if k + 1 < 4 then .suspended (k + 1) else .returned

/-- One step. -/
def step (env : RenderEnv) (page : Page) (s : RenderState) : RenderStep → RenderState
  | .navigate url => { s with location := url }
  | .resume =>
    match s.pc with
    | .notStarted =>
      { s with pc := if (firstSegment env page s.location).2 then .suspended 0 else .returned,
               effects := s.effects ++ (firstSegment env page s.location).1 }
    | .suspended k =>
      { s with pc := afterSegment k,
               effects := s.effects ++ ((laterSegments env page)[k]?.getD []) }
    | .returned => s

/-- Take the steps in order. -/
def run (env : RenderEnv) (page : Page) (s : RenderState) (sched : List RenderStep) :
    RenderState :=
  sched.foldl (step env page) s

@[simp]
theorem run_nil (env : RenderEnv) (page : Page) (s : RenderState) : s.run env page [] = s :=
  rfl

@[simp]
theorem run_cons (env : RenderEnv) (page : Page) (s : RenderState) (st : RenderStep)
    (sched : List RenderStep) : s.run env page (st :: sched) = (s.step env page st).run env page sched :=
  rfl

/-- What is left of an uninterrupted run after a started {lit}`renderPage`. -/
def remaining (env : RenderEnv) (page : Page) : RenderPc → List Effect
  | .suspended k => ((laterSegments env page).drop k).flatten
  | _ => []

theorem remaining_suspended (env : RenderEnv) (page : Page) (k : Nat) :
    remaining env page (.suspended k) =
      ((laterSegments env page)[k]?.getD []) ++ remaining env page (afterSegment k) := by
  match k with
  | 0 | 1 | 2 | 3 => rfl
  | k + 4 => simp [remaining, afterSegment, laterSegments, show ¬ k + 4 + 1 < 4 by omega]

/-- One step keeps a started {lit}`renderPage` started, and its effects so far
and what is left make up the same run. -/
theorem step_started (env : RenderEnv) (page : Page) {s : RenderState} (st : RenderStep)
    (hpc : s.pc ≠ .notStarted) :
    (s.step env page st).pc ≠ .notStarted ∧
      (s.step env page st).effects ++ remaining env page (s.step env page st).pc =
        s.effects ++ remaining env page s.pc := by
  cases st with
  | navigate url => exact ⟨hpc, rfl⟩
  | resume =>
    cases h : s.pc with
    | notStarted => exact absurd h hpc
    | suspended k =>
      refine ⟨?_, by simp [step, h, remaining_suspended]⟩
      simp only [step, h, afterSegment]
      split <;> simp
    | returned => simp [step, h]

/-- A started {lit}`renderPage` whose effects so far and what is left make up
{lit}`R` keeps it so, whatever runs in between. -/
theorem run_started (env : RenderEnv) (page : Page) (R : List Effect) :
    ∀ (sched : List RenderStep) (s : RenderState), s.pc ≠ .notStarted →
      s.effects ++ remaining env page s.pc = R →
      (s.run env page sched).pc ≠ .notStarted ∧
        (s.run env page sched).effects ++ remaining env page (s.run env page sched).pc = R
  | [], _, hpc, hR => ⟨hpc, hR⟩
  | st :: sched, _, hpc, hR =>
    have h := step_started env page st hpc
    run_started env page R sched _ h.1 (h.2.trans hR)

/-- The location {lit}`renderPage` finds when it starts: the location after the
navigations before its first segment. -/
def entryLocation (location : Url) : List RenderStep → Url
  | [] => location
  | .resume :: _ => location
  | .navigate url :: sched => entryLocation url sched

/-- From the start: either {lit}`renderPage` has not started and has done
nothing, or its effects so far and what is left make up the uninterrupted run at
the location it found when it started. -/
theorem run_from_start (env : RenderEnv) (page : Page) :
    ∀ (sched : List RenderStep) (location : Url),
      (run env page ⟨location, .notStarted, []⟩ sched).pc = .notStarted ∧
          (run env page ⟨location, .notStarted, []⟩ sched).effects = [] ∨
        (run env page ⟨location, .notStarted, []⟩ sched).pc ≠ .notStarted ∧
          (run env page ⟨location, .notStarted, []⟩ sched).effects ++
              remaining env page (run env page ⟨location, .notStarted, []⟩ sched).pc =
            renderPage env page (entryLocation location sched)
  | [], location => .inl ⟨rfl, rfl⟩
  | .navigate url :: sched, location => run_from_start env page sched url
  | .resume :: sched, location => by
    refine .inr (run_started env page _ sched _ ?_ ?_)
    · simp only [step]
      split <;> simp
    · simp only [step, entryLocation, renderPage]
      split <;> simp_all [remaining]

/-- Its segments run one after another, with nothing in between, are the
uninterrupted {lit}`renderPage`, and it returns after them. -/
theorem run_uninterrupted (env : RenderEnv) (page : Page) (location : Url) :
    run env page ⟨location, .notStarted, []⟩ (List.replicate 5 .resume) =
      ⟨location, .returned, renderPage env page location⟩ := by
  unfold renderPage
  cases h : (firstSegment env page location).2 <;>
    simp [run, List.replicate, step, h, afterSegment, laterSegments]

/-- In every interleaving of {lit}`renderPage` with navigations, its effects so
far are a prefix of the uninterrupted {lit}`renderPage` at the location it found
when it started, and all of it once it has returned.  If the page was stale by
then, that is the removal of {lit}`is-leaving` alone; if not, no later change of
location stops any of its effects. -/
theorem renderPage_fixed_at_entry (env : RenderEnv) (page : Page) (location : Url)
    (sched : List RenderStep) :
    let s := run env page ⟨location, .notStarted, []⟩ sched
    s.effects <+: renderPage env page (entryLocation location sched) ∧
      (s.pc = .returned → s.effects = renderPage env page (entryLocation location sched)) ∧
      (isSameResolvedUrl env (entryLocation location sched) page.url = false →
        renderPage env page (entryLocation location sched) = [.removeClass "is-leaving"]) := by
  intro s
  refine ⟨?_, ?_, fun hstale => by simp [renderPage, firstSegment, hstale]⟩ <;>
    rcases run_from_start env page sched location with ⟨hpc, hnil⟩ | ⟨-, hR⟩
  · simp [s, hnil]
  · exact ⟨_, hR⟩
  · intro hret
    simp [s, hpc] at hret
  · intro hret
    rw [← hR, hret]
    simp [remaining]

/-- A site whose URLs need no resolving and whose pages are not redirected,
with the cache on. -/
def plainEnv : RenderEnv :=
  ⟨id, id, true, false⟩

/-- A page fetched from {lit}`/a`. -/
def pageA : Page :=
  ⟨"/a", "/a"⟩

/-- Once the location is {lit}`/b`, {lit}`pageA` is stale; yet a
{lit}`renderPage` that starts after the move removes {lit}`is-leaving`, and one
suspended at its first {lit}`await` when the location moves goes on to replace
the content, start {lit}`enterPage` and reset {lit}`scrollToElement`. -/
theorem stale_render_has_effects :
    isSameResolvedUrl plainEnv "/b" pageA.url = false ∧
      (run plainEnv pageA ⟨"/a", .notStarted, []⟩ [.navigate "/b", .resume]).effects =
        [.removeClass "is-leaving"] ∧
      (run plainEnv pageA ⟨"/a", .notStarted, []⟩ [.resume, .navigate "/b"]).effects =
        [.removeClass "is-leaving", .addClass "is-rendering", .runHook "willReplaceContent"] ∧
      (run plainEnv pageA ⟨"/a", .notStarted, []⟩
          [.resume, .navigate "/b", .resume, .resume, .resume, .resume]).effects =
        [.removeClass "is-leaving", .addClass "is-rendering", .runHook "willReplaceContent",
          .replaceContent pageA, .runHook "contentReplaced", .runHook "pageView", .enterPage false,
          .resetScrollToElement] := by
  decide

end RenderState

end Swup
