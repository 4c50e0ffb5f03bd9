import Swup.Page.AnimationPromises

/-!
# Swup pages - Leaving the page

{lit}`leavePage` of {lit}`src/modules/leavePage.ts` is an async function with
three {lit}`await`s.  With {lit}`skipTransition` it awaits the
{lit}`animationSkipped` run and returns.  Otherwise it awaits the
{lit}`animationOutStart` run, whose default handler adds
{lit}`is-changing`, {lit}`is-leaving` and {lit}`is-animating` to the document
element, and {lit}`is-popstate` for a history visit; only then does it call
{lit}`getAnimationPromises`, which puts a {lit}`transitionend` listener on each
animated element, await {lit}`Promise.all` of the promises, and await the
{lit}`animationOutDone` run.

While it waits, the browser delivers {lit}`transitionend` events.  One that
arrives before the listeners are attached, while the {lit}`animationOutStart`
run is still pending, reaches no listener: it is lost, and the element's promise
waits for another.  Each awaited run of an event may also reject, which rejects
{lit}`leavePage` at once.

Main results:

- Theorem {lit}`leavePage_prefix`: in every interleaving, the effects of
  {lit}`leavePage` so far are a prefix of those of the uninterrupted run,
  possibly followed by its rejection, and all of them once it has returned.
- Theorem {lit}`animationOutDone_iff`: {lit}`animationOutDone` runs exactly when
  the transition is not skipped, the {lit}`animationOutStart` run resolves, and
  after that every matched element with a transition receives a
  {lit}`transitionend` targeted at itself; events delivered earlier do not count.

Current gaps:

- {lit}`this.events.run` is missing from the sources: its runs are effects here,
  and when a run settles is the scheduler's choice.
- {lit}`getAnimationPromises('out')` is the version of
  {lit}`src/modules/getAnimationPromises.js`, which ignores its argument.
-/

namespace Swup

/-! ## The uninterrupted run -/

/-- The event a visit started from, as far as {lit}`leavePage` looks at it. -/
inductive VisitEvent where
  | popState
  | other
  deriving DecidableEq, Repr

/-- {lit}`PageRenderOptions`, the fields {lit}`leavePage` reads. -/
structure PageRenderOptions where
  event : Option VisitEvent := none
  skipTransition : Bool := false
  deriving DecidableEq, Repr

/-- {lit}`event instanceof PopStateEvent`. -/
def isHistoryVisit (event : Option VisitEvent) : Bool :=
  event == some .popState

/-- The classes the default handler of {lit}`animationOutStart` adds to the
document element, in order. -/
def leaveClasses (historyVisit : Bool) : List String :=
  ["is-changing", "is-leaving", "is-animating"] ++ if historyVisit then ["is-popstate"] else []

/-- What {lit}`leavePage` does that other code sees. -/
inductive LeaveEffect where
  /-- {lit}`this.events.run(name, undefined, defaultHandler)` is called; the
  default handler, if there is one, adds these classes. -/
  | runEvent (name : String) (defaultClasses : Option (List String))
  /-- {lit}`console.error` of {lit}`getAnimationPromises`. -/
  | consoleError (text : String)
  /-- The promise of {lit}`leavePage` resolves. -/
  | resolved
  /-- The promise of {lit}`leavePage` rejects, with the rejection it awaited. -/
  | rejected
  deriving DecidableEq, Repr

/-- The page as {lit}`getAnimationPromises` finds it. -/
structure LeaveEnv where
  animationSelector : String
  animatedElements : List AnimatedElement
  deriving DecidableEq, Repr

/-- {lit}`this.getAnimationPromises('out')`: the promises and the errors it logs. -/
def LeaveEnv.animations (env : LeaveEnv) : List AnimationPromise × List String :=
  getAnimationPromises env.animationSelector env.animatedElements

/-- The call of {lit}`events.run('animationOutStart', ...)`. -/
def animationOutStart (options : PageRenderOptions) : LeaveEffect :=
  .runEvent "animationOutStart" (some (leaveClasses (isHistoryVisit options.event)))

/-- {lit}`leavePage` run to its end, every awaited promise resolving. -/
def leavePage (options : PageRenderOptions) (env : LeaveEnv) : List LeaveEffect :=
  if options.skipTransition then [.runEvent "animationSkipped" none, .resolved]
  else [animationOutStart options] ++ env.animations.2.map .consoleError ++
    [.runEvent "animationOutDone" none, .resolved]

/-! ## Interleaving with the browser -/

/-- The {lit}`await` at which {lit}`leavePage` is suspended, or how it ended. -/
inductive LeaveStage where
  /-- {lit}`await this.events.run('animationSkipped')`. -/
  | skipping
  /-- {lit}`await this.events.run('animationOutStart', ...)`. -/
  | leaving
  /-- {lit}`await Promise.all(animationPromises)`. -/
  | animating (promises : List AnimationPromise)
  /-- {lit}`await this.events.run('animationOutDone')`. -/
  | finishing
  | done
  | failed
  deriving DecidableEq, Repr

/-- Where {lit}`leavePage` stands, the {lit}`transitionend` events the listeners
of {lit}`getAnimationPromises` have received, and its effects so far. -/
structure LeaveState where
  stage : LeaveStage
  seen : List TransitionEndEvent
  effects : List LeaveEffect
  deriving DecidableEq, Repr

/-- A step of the interleaving: the awaited run of an event resolves or rejects,
or the browser dispatches a {lit}`transitionend` event. -/
inductive LeaveStep where
  | resolve
  | reject
  | deliver (ev : TransitionEndEvent)
  deriving DecidableEq, Repr

/-- The event a step delivers. -/
def LeaveStep.delivered? : LeaveStep → Option TransitionEndEvent
  | .deliver ev => some ev
  | _ => none

namespace LeaveState

/-- {lit}`leavePage(options)` up to its first {lit}`await`. -/
def start (options : PageRenderOptions) : LeaveState :=
  if options.skipTransition then ⟨.skipping, [], [.runEvent "animationSkipped" none]⟩
  else ⟨.leaving, [], [animationOutStart options]⟩

/-- {lit}`await Promise.all(animationPromises)`: it goes on, in the same task as
the listener that resolved the last promise, to call
{lit}`this.events.run('animationOutDone')`. -/
def awaitAll (promises : List AnimationPromise) (s : LeaveState) : LeaveState :=
  if allResolved s.seen promises then
    { s with stage := .finishing, effects := s.effects ++ [.runEvent "animationOutDone" none] }
  else { s with stage := .animating promises }

/-- The code after the {lit}`animationOutStart` run: {lit}`getAnimationPromises`
attaches listeners that have seen nothing yet and logs its errors. -/
def startAnimations (env : LeaveEnv) (s : LeaveState) : LeaveState :=
  awaitAll env.animations.1
    { s with seen := [], effects := s.effects ++ env.animations.2.map .consoleError }

/-- The rejection of an awaited run rejects {lit}`leavePage`. -/
def fail (s : LeaveState) : LeaveState :=
  { s with stage := .failed, effects := s.effects ++ [.rejected] }

/-- One step.  A step that does not apply where {lit}`leavePage` stands changes
nothing. -/
def step (env : LeaveEnv) (s : LeaveState) : LeaveStep → LeaveState
  | .resolve =>
    match s.stage with
    | .skipping | .finishing => { s with stage := .done, effects := s.effects ++ [.resolved] }
    | .leaving => startAnimations env s
    | _ => s
  | .reject =>
    match s.stage with
    | .skipping | .leaving | .finishing => s.fail
    | _ => s
  | .deliver ev =>
    match s.stage with
    | .animating promises => awaitAll promises { s with seen := s.seen ++ [ev] }
    | _ => s

/-- Take the steps in order. -/
def run (env : LeaveEnv) (s : LeaveState) (sched : List LeaveStep) : LeaveState :=
  sched.foldl (step env) s

@[simp]
theorem run_nil (env : LeaveEnv) (s : LeaveState) : s.run env [] = s :=
  rfl

@[simp]
theorem run_cons (env : LeaveEnv) (s : LeaveState) (st : LeaveStep) (sched : List LeaveStep) :
    s.run env (st :: sched) = (s.step env st).run env sched :=
  rfl

/-- A step only appends effects. -/
theorem effects_prefix_step (env : LeaveEnv) (s : LeaveState) (st : LeaveStep) :
    s.effects <+: (s.step env st).effects := by
  have hall : ∀ ps (t : LeaveState) pre, pre <+: t.effects → pre <+: (awaitAll ps t).effects :=
    fun ps t pre h => by unfold awaitAll; split <;> simp [h.trans (List.prefix_append _ _), h]
  cases st <;> simp only [step, startAnimations] <;> split
  all_goals first
    | exact List.prefix_refl _
    | exact List.prefix_append _ _
    | exact hall _ _ _ (List.prefix_append _ _)
    | exact hall _ _ _ (List.prefix_refl _)

theorem effects_prefix_run (env : LeaveEnv) (s : LeaveState) (sched : List LeaveStep) :
    s.effects <+: (s.run env sched).effects := by
  induction sched generalizing s with
  | nil => exact List.prefix_refl _
  | cons st sched ih => exact (effects_prefix_step env s st).trans (ih _)

/-! ## What leavePage has done at each await -/

/-- The effects of the code before each {lit}`await`: a suspended
{lit}`leavePage` has done exactly that, and the promises it awaits are the
page's, not all resolved. -/
def Inv (options : PageRenderOptions) (env : LeaveEnv) (s : LeaveState) : Prop :=
  match s.stage with
  | .skipping => options.skipTransition = true ∧ s.effects = [.runEvent "animationSkipped" none]
  | .leaving => options.skipTransition = false ∧ s.effects = [animationOutStart options]
  | .animating promises =>
    options.skipTransition = false ∧ promises = env.animations.1 ∧
      allResolved s.seen promises = false ∧
      s.effects = [animationOutStart options] ++ env.animations.2.map .consoleError
  | .finishing =>
    options.skipTransition = false ∧ s.effects = [animationOutStart options] ++
      env.animations.2.map .consoleError ++ [.runEvent "animationOutDone" none]
  | .done => s.effects = leavePage options env
  | .failed => ∃ pre, pre <+: leavePage options env ∧ s.effects = pre ++ [.rejected]

section Invariant

variable {options : PageRenderOptions} {env : LeaveEnv}

theorem inv_start : Inv options env (start options) := by
  unfold start
  split <;> simp_all [Inv]

theorem inv_fail {s : LeaveState} (hs : s.effects <+: leavePage options env) :
    Inv options env s.fail :=
  ⟨s.effects, hs, rfl⟩

theorem inv_awaitAll {s : LeaveState} (hskip : options.skipTransition = false)
    (heff : s.effects = [animationOutStart options] ++ env.animations.2.map .consoleError) :
    Inv options env (awaitAll env.animations.1 s) := by
  unfold awaitAll
  split <;> simp_all [Inv]

theorem inv_step {s : LeaveState} (hs : Inv options env s) (st : LeaveStep) :
    Inv options env (s.step env st) := by
  obtain ⟨stage, seen, effects⟩ := s
  cases stage with
  | skipping =>
    obtain ⟨hskip, rfl⟩ := hs
    cases st <;> first
      | exact inv_fail (by simp [leavePage, hskip])
      | simp_all [step, Inv, leavePage]
  | leaving =>
    obtain ⟨hskip, rfl⟩ := hs
    cases st with
    | resolve => exact inv_awaitAll hskip rfl
    | reject => exact inv_fail (by simp [leavePage, hskip])
    | deliver ev => exact ⟨hskip, rfl⟩
  | animating promises =>
    obtain ⟨hskip, rfl, hnot, rfl⟩ := hs
    cases st with
    | deliver ev => exact inv_awaitAll hskip rfl
    | _ => exact ⟨hskip, rfl, hnot, rfl⟩
  | finishing =>
    obtain ⟨hskip, rfl⟩ := hs
    cases st with
    | resolve => simp [step, Inv, leavePage, hskip]
    | reject => exact inv_fail (by simp [leavePage, hskip])
    | deliver ev => exact ⟨hskip, rfl⟩
  | done | failed => cases st <;> exact hs

theorem run_inv {s : LeaveState} (hs : Inv options env s) (sched : List LeaveStep) :
    Inv options env (s.run env sched) := by
  induction sched generalizing s with
  | nil => exact hs
  | cons st sched ih => exact ih (inv_step hs st)

/-- What a suspended or finished {lit}`leavePage` has done is a prefix of the
uninterrupted run, or such a prefix and the rejection. -/
theorem Inv.effects_within {s : LeaveState} (hs : Inv options env s) :
    ∃ pre, pre <+: leavePage options env ∧ (s.effects = pre ∨ s.effects = pre ++ [.rejected]) := by
  obtain ⟨stage, seen, effects⟩ := s
  cases stage with
  | failed => obtain ⟨pre, hpre, rfl⟩ := hs; exact ⟨pre, hpre, .inr rfl⟩
  | done => exact ⟨effects, hs ▸ List.prefix_refl _, .inl rfl⟩
  | skipping | leaving | finishing =>
    obtain ⟨hskip, rfl⟩ := hs
    exact ⟨_, by simp [leavePage, hskip], .inl rfl⟩
  | animating promises =>
    obtain ⟨hskip, -, -, rfl⟩ := hs
    exact ⟨_, by simp [leavePage, hskip], .inl rfl⟩

end Invariant

/-- In every interleaving of {lit}`leavePage` with the settling of the runs it
awaits and the browser's {lit}`transitionend` events, its effects so far are a
prefix of the uninterrupted run, possibly followed by its rejection, which ends
it.  Once it has returned, they are the whole uninterrupted run.  So it calls the
runs of {lit}`animationOutStart` (with the classes of its default handler) and
{lit}`animationOutDone` in this order, and with {lit}`skipTransition` only the
run of {lit}`animationSkipped`. -/
theorem leavePage_prefix (options : PageRenderOptions) (env : LeaveEnv) (sched : List LeaveStep) :
    (∃ pre, pre <+: leavePage options env ∧
      ((start options).run env sched).effects ∈ [pre, pre ++ [.rejected]]) ∧
    (((start options).run env sched).stage = .done →
      ((start options).run env sched).effects = leavePage options env) := by
  have hinv := run_inv (inv_start : Inv options env (start options)) sched
  refine ⟨?_, fun hdone => ?_⟩
  · obtain ⟨pre, hpre, heff⟩ := hinv.effects_within
    exact ⟨pre, hpre, by simpa using heff⟩
  · unfold Inv at hinv
    rw [hdone] at hinv
    exact hinv

/-! ## When the leave animation is done -/

theorem run_failed (env : LeaveEnv) {s : LeaveState} (hs : s.stage = .failed)
    (sched : List LeaveStep) : s.run env sched = s := by
  induction sched with
  | nil => rfl
  | cons st sched ih => cases st <;> simpa [step, hs] using ih

/-- Once the promises are awaited, {lit}`animationOutDone` runs exactly when
every promise has resolved with the events delivered from then on. -/
theorem animationOutDone_of_animating {options : PageRenderOptions} {env : LeaveEnv}
    {s : LeaveState} {promises : List AnimationPromise} (hs : Inv options env s)
    (hstage : s.stage = .animating promises) (sched : List LeaveStep) :
    .runEvent "animationOutDone" none ∈ (s.run env sched).effects ↔
      allResolved (s.seen ++ sched.filterMap LeaveStep.delivered?) promises = true := by
  induction sched generalizing s with
  | nil =>
    obtain ⟨stage, seen, effects⟩ := s
    cases hstage
    obtain ⟨-, -, hnot, rfl⟩ := hs
    simpa [animationOutStart] using hnot
  | cons st sched ih =>
    cases st with
    | deliver ev =>
      have ht := inv_step hs (.deliver ev)
      simp only [run_cons, step, hstage, List.filterMap_cons, LeaveStep.delivered?] at ht ⊢
      by_cases hall : allResolved (s.seen ++ [ev]) promises = true
      · simp only [awaitAll, hall, if_true]
        exact iff_of_true ((effects_prefix_run env _ sched).subset (by simp))
          (allResolved_of_subset hall (by simp))
      · simp only [awaitAll, hall, Bool.false_eq_true, if_false] at ht ⊢
        rw [ih ht rfl, List.append_assoc, List.singleton_append]
    | _ => simpa [step, hstage, LeaveStep.delivered?] using ih hs hstage

/-- From the {lit}`animationOutStart` run on, {lit}`animationOutDone` runs
exactly when the first step that is not a delivery resolves that run, and the
promises resolve with the events delivered after it. -/
theorem animationOutDone_of_leaving {options : PageRenderOptions} {env : LeaveEnv}
    {s : LeaveState} (hs : Inv options env s) (hstage : s.stage = .leaving)
    (sched : List LeaveStep) :
    .runEvent "animationOutDone" none ∈ (s.run env sched).effects ↔
      ∃ post, sched.dropWhile (·.delivered?.isSome) = .resolve :: post ∧
        allResolved (post.filterMap LeaveStep.delivered?) env.animations.1 = true := by
  obtain ⟨stage, seen, effects⟩ := s
  cases hstage
  obtain ⟨hskip, rfl⟩ := hs
  induction sched with
  | nil => simp [animationOutStart]
  | cons st sched ih =>
    cases st with
    | deliver ev => simpa [step, LeaveStep.delivered?] using ih
    | reject =>
      rw [run_cons, step, run_failed env rfl]
      simp [fail, animationOutStart, LeaveStep.delivered?]
    | resolve =>
      have ht := @inv_step options env ⟨.leaving, seen, [animationOutStart options]⟩ ⟨hskip, rfl⟩
        .resolve
      simp only [run_cons, step, startAnimations, List.dropWhile_cons, LeaveStep.delivered?] at ht ⊢
      by_cases hall : allResolved [] env.animations.1 = true
      · simp only [awaitAll, hall, if_true]
        exact iff_of_true ((effects_prefix_run env _ sched).subset (by simp))
          ⟨sched, by simp, allResolved_of_subset hall (by simp)⟩
      · simp only [awaitAll, hall, Bool.false_eq_true, if_false] at ht ⊢
        rw [animationOutDone_of_animating ht rfl]
        simp

/-- {lit}`animationOutDone` runs, in an interleaving, exactly when the transition
is not skipped, the first step that is not a {lit}`transitionend` resolves the
{lit}`animationOutStart` run, and after that every matched element that the
duration test takes for a transition receives a {lit}`transitionend` targeted at
itself.  An event delivered while the {lit}`animationOutStart` run is pending
reaches no listener and does not count: if the element's transition ends then,
{lit}`leavePage` waits for another. -/
theorem animationOutDone_iff (options : PageRenderOptions) (env : LeaveEnv)
    (sched : List LeaveStep) :
    .runEvent "animationOutDone" none ∈ ((start options).run env sched).effects ↔
      options.skipTransition = false ∧
        ∃ post, sched.dropWhile (·.delivered?.isSome) = .resolve :: post ∧
          ∀ e ∈ env.animatedElements, noTransitionDefined e.transitionDuration = true ∨
            ∃ ev ∈ post.filterMap LeaveStep.delivered?, ev.currentTarget = e.id ∧ ev.target = e.id := by
  cases hskip : options.skipTransition with
  | true =>
    obtain ⟨pre, hpre, heff⟩ :=
      (run_inv (inv_start : Inv options env (start options)) sched).effects_within
    simp only [leavePage, hskip, if_true] at hpre
    simp only [Bool.true_eq_false, false_and, iff_false]
    intro hmem
    have hmem' : .runEvent "animationOutDone" none ∈ pre := by
      rcases heff with h | h <;> rw [h] at hmem <;> simpa using hmem
    simpa using hpre.subset hmem'
  | false =>
    have hstart : start options = ⟨.leaving, [], [animationOutStart options]⟩ := by simp [start, hskip]
    rw [hstart, @animationOutDone_of_leaving options env ⟨.leaving, [], _⟩ ⟨hskip, rfl⟩ rfl]
    simp only [true_and, LeaveEnv.animations, allResolved_getAnimationPromises]

/-- A page with one element whose transition lasts {lit}`0.3s`. -/
def fadingPage : LeaveEnv :=
  ⟨defaultAnimationSelector, [⟨1, some "0.3s"⟩]⟩

/- The element's transition ends while the {lit}`animationOutStart` run is
pending: the event is lost and {lit}`leavePage` still waits.  Delivered after
that run, the same event lets it go on. -/
example : ((start {}).run fadingPage [.deliver ⟨1, 1⟩, .resolve]).stage =
    .animating [.transitionEnd 1] := by
  decide

example : ((start {}).run fadingPage [.resolve, .deliver ⟨1, 1⟩]).stage = .finishing := by
  decide

end LeaveState

end Swup
