import Swup.Hooks.Spy

/-!
# Swup hooks - What a trigger removes

{lit}`run` and {lit}`runSync` call {lit}`off(hook, handler)` for a registration
with {lit}`once` set right after its handler returns normally, and at no other
point.  With the registry frame of {lit}`Tracked`, this says what a trigger does
to the registry: the ledger it leaves is the ledger it found with the handlers'
registry calls and these removals replayed in the order they happened.

Three consequences follow from where the removal sits.  A once registration
whose handler throws stays.  The main handler of a replace chain stays, since
{lit}`getHandlers` builds its registration without {lit}`once`, and the nested
replacements are never run directly, so nothing removes them.  And the removal is
keyed by handler function, so it deletes whatever registration of that function
the ledger holds when the handler returns, one made while it ran included.

Main results:

- Theorem {lit}`run_runsDirectly`: {lit}`run` and {lit}`runSync` run a prefix of
  their registrations, all of them when they return, each followed by its removal
  exactly when it has {lit}`once` set and returned normally.
- Theorem {lit}`trigger_once_bookkeeping`: the same for {lit}`call` and
  {lit}`callSync`, with the registry they leave.
- Theorem {lit}`once_replacement_runs_twice`: a replacement registered with
  {lit}`once` is run by two triggers in a row.
-/

namespace Swup

/-- A step of a trigger's own bookkeeping: a registration it ran directly, with
its outcome, or a removal it made. -/
inductive Step where
  | ran (r : HookRegistration) (out : Except Value Value)
  | removed (hook : HookName) (h : HandlerId)

variable {Visit Args : Type}

/-- The bookkeeping step an event records. -/
def Event.step? : Event Visit Args → Option Step
  | .returned r out => some (.ran r out)
  | .unregister hook h => some (.removed hook h)
  | _ => none

/-- What {lit}`run` records for one registration: its outcome, then its removal
when it has {lit}`once` set and returned normally. -/
def afterRun (r : HookRegistration) (out : Except Value Value) : List Step :=
  .ran r out :: if r.once && out.isOk then [.removed r.hook r.handler] else []

/-- The bookkeeping of a run from {lit}`w` that was to run the registrations
{lit}`direct`: it ran a prefix of them, all of them when it returned, and
recorded for each what {lit}`afterRun` says. -/
def StepsOf {α : Type} (direct : List HookRegistration) (w : World Visit Args)
    (res : EStateM.Result Value (World Visit Args) α) : Prop :=
  ∃ runs : List (HookRegistration × Except Value Value),
    observed Event.step? w res = runs.flatMap (fun p => afterRun p.1 p.2) ∧
    runs.map Prod.fst <+: direct ∧
    ∀ a w', res = .ok a w' → runs.map Prod.fst = direct

/-- {lit}`x` is tracked, and from every world its bookkeeping is that of a run of
{lit}`direct`. -/
structure RunsDirectly {α : Type} (x : TriggerM Visit Args α)
    (direct : List HookRegistration) : Prop where
  tracked : Tracked x
  steps : ∀ w, StepsOf direct w (x.run w)

namespace RunsDirectly

theorem of_emits {α : Type} {x : TriggerM Visit Args α} (hx : Emits Event.step? x []) :
    RunsDirectly x [] := by
  refine ⟨hx.tracked, fun w => ⟨[], ?_, List.prefix_refl _, fun _ _ _ => rfl⟩⟩
  obtain ⟨_, _, -, h⟩ := hx.emits w
  exact h

theorem bind {α β : Type} {x : TriggerM Visit Args α} {f : α → TriggerM Visit Args β}
    {d1 d2 : List HookRegistration} (hx : RunsDirectly x d1) (hf : ∀ a, RunsDirectly (f a) d2) :
    RunsDirectly (x >>= f) (d1 ++ d2) := by
  refine ⟨hx.tracked.bind fun a => (hf a).tracked, fun w => ?_⟩
  obtain ⟨runs1, hobs1, hpre1, hall1⟩ := hx.steps w
  cases hrun : x.run w with
  | error e w1 =>
    rw [hrun] at hobs1
    refine ⟨runs1, by rwa [run_bind, hrun], hpre1.trans (List.prefix_append _ _), ?_⟩
    intro a w' h
    rw [run_bind, hrun] at h
    cases h
  | ok a w1 =>
    obtain ⟨runs2, hobs2, hpre2, hall2⟩ := (hf a).steps w1
    have hd1 := hall1 a w1 hrun
    refine ⟨runs1 ++ runs2, ?_, ?_, fun b w' h => ?_⟩
    · rw [observed_bind hx.tracked (hf a).tracked hrun, hobs1, hobs2, List.flatMap_append]
    · rw [List.map_append, hd1]
      exact (List.prefix_append_right_inj d1).mpr hpre2
    · rw [run_bind, hrun] at h
      rw [List.map_append, hd1, hall2 b w' h]

/-- A part that never throws and records the steps of one registration, followed
by a rest that runs {lit}`d`, runs the registration and then {lit}`d`. -/
theorem cons_emits {α β : Type} {x : TriggerM Visit Args α} {g : α → TriggerM Visit Args β}
    {d : List HookRegistration} {r : HookRegistration} {out : Except Value Value}
    (hx : Emits Event.step? x (afterRun r out)) (hg : ∀ a, RunsDirectly (g a) d) :
    RunsDirectly (x >>= g) (r :: d) := by
  refine ⟨hx.tracked.bind fun a => (hg a).tracked, fun w => ?_⟩
  obtain ⟨a, w1, hrun, hobs⟩ := hx.emits w
  obtain ⟨runs, hobs2, hpre, hall⟩ := (hg a).steps w1
  refine ⟨(r, out) :: runs, ?_, by simpa using hpre, fun b w' h => ?_⟩
  · rw [observed_bind hx.tracked (hg a).tracked hrun, hobs, hobs2, List.flatMap_cons]
  · rw [run_bind, hrun] at h
    simp [hall b w' h]

/-- One registration of {lit}`run` or {lit}`runSync`: the handler's own run
{lit}`P`, its outcome, the rest {lit}`k` of the way back, the removal when once,
and the rest {lit}`g` of the loop. -/
theorem registration {β : Type} {P : TriggerM Visit Args (Except Value Value)}
    {g : Value → TriggerM Visit Args β} {d : List HookRegistration} (r : HookRegistration)
    (k : Value → TriggerM Visit Args Unit) (hP : Emits Event.step? P [])
    (hk : ∀ v, Emits Event.step? (k v) []) (hg : ∀ v, RunsDirectly (g v) d) :
    RunsDirectly (P >>= fun out => World.record (.returned r out) >>= fun _ =>
      settle out >>= fun v => k v >>= fun _ => removeOnce r >>= fun _ => g v) (r :: d) := by
  have hrest : ∀ out, RunsDirectly (World.record (.returned r out) >>= fun _ =>
      settle out >>= fun v => k v >>= fun _ => removeOnce r >>= fun _ => g v) (r :: d) := by
    intro out
    cases out with
    | error e =>
      refine ⟨(Tracked.returned r _).bind fun _ => (Tracked.settle _).bind fun v =>
        (hk v).tracked.bind fun _ => (Tracked.removeOnce r).bind fun _ => (hg v).tracked,
        fun w => ⟨[(r, .error e)], ?_, by simp, fun a w' h => ?_⟩⟩
      · simp [observed, appended, afterRun, Event.step?, run_bind, Except.isOk, Except.toBool]
      · simp [run_bind] at h
    | ok v =>
      have hv := (Emits.record Event.step? (.returned r (.ok v)) rfl).bind fun _ =>
        (hk v).bind_nil fun _ => (Emits.removeOnce r : Emits Event.step? _ _)
      have hv' : Emits Event.step? (World.record (.returned r (.ok v)) >>= fun _ => k v >>=
          fun _ => removeOnce r) (afterRun r (.ok v)) := by
        convert hv using 1
        cases h : r.once <;> simp [afterRun, Event.step?, h, Except.isOk, Except.toBool]
      simpa only [settle_ok, pure_bind, bind_assoc] using cons_emits hv' fun _ => hg v
  simpa using (of_emits hP).bind hrest

end RunsDirectly

/-- What a run from {lit}`w` that was to run the registrations {lit}`direct` did
to the registry: it left the registry it found with the recorded registry calls
replayed in order, and its own steps are those of a run of {lit}`direct`. -/
structure OnceBookkeeping {α : Type} (w : World Visit Args) (direct : List HookRegistration)
    (res : EStateM.Result Value (World Visit Args) α) : Prop where
  replay : (final res).hooks.registry =
    (w.hooks.replay ((appended w res).filterMap Event.call?)).registry
  steps : StepsOf direct w res

section Semantics

variable (impl : HandlerId → Visit → Args → Option Fn → Prog Visit Args)

/-- {lit}`run` and {lit}`runSync` run a prefix of their registrations, all of
them when they return, each followed by its removal exactly when it has
{lit}`once` set and its handler returned normally. -/
theorem run_runsDirectly (v : Visit) (a : Args) (rs : List HookRegistration) :
    RunsDirectly (run impl v a rs) rs ∧ RunsDirectly (runSync impl v a rs) rs := by
  induction rs with
  | nil => exact ⟨.of_emits (Emits.pure _), .of_emits (Emits.pure _)⟩
  | cons r rs ih =>
    have hP := fun awaiting => (Emits.handlerRun_nil impl (fun _ _ _ _ => rfl) (fun _ => rfl)
      awaiting v a r : Emits Event.step? _ [])
    have hrest : ∀ {loop : TriggerM Visit Args (List Value)}, RunsDirectly loop rs →
        ∀ v : Value, RunsDirectly (loop >>= fun results => pure (v :: results)) (rs ++ []) :=
      fun hloop v => hloop.bind fun results => .of_emits (Emits.pure (v :: results))
    constructor
    · simpa [run, runAsPromise_eq, bind_assoc] using RunsDirectly.registration
        r (fun _ => pure ()) (hP true) (fun _ => Emits.pure ()) (hrest ih.1)
    · simpa [runSync, invokeSync_eq, bind_assoc] using RunsDirectly.registration
        r (warnIfPromise r.hook) (hP false) (fun _ => Emits.warnIfPromise _ _) (hrest ih.2)

/-- The loops of a trigger after {lit}`getHandlers`, with the DOM event. -/
theorem triggerLoops_runsDirectly (v : Visit) (hook : HookName) (a : Args) (hs : Handlers) :
    RunsDirectly (do
      let _ ← run impl v a hs.before
      let results ← run impl v a hs.handler
      let _ ← run impl v a hs.after
      dispatchDomEvent v hook a
      pure (results.headD .undefined)) hs.direct ∧
    RunsDirectly (do
      let _ ← runSync impl v a hs.before
      let results ← runSync impl v a hs.handler
      let _ ← runSync impl v a hs.after
      dispatchDomEvent v hook a
      pure (results.headD .undefined)) hs.direct := by
  have hdispatch : ∀ results : List Value, RunsDirectly (dispatchDomEvent v hook a >>= fun _ =>
      (pure (results.headD .undefined) : TriggerM Visit Args Value)) [] := fun _ =>
    .of_emits ((Emits.record Event.step? (.dispatch ("swup:" ++ hook) hook a v)
      rfl).bind_nil fun _ => Emits.pure _)
  constructor
  · simpa [Handlers.direct] using (run_runsDirectly impl v a hs.before).1.bind fun _ =>
      (run_runsDirectly impl v a hs.handler).1.bind fun results =>
        (run_runsDirectly impl v a hs.after).1.bind fun _ => hdispatch results
  · simpa [Handlers.direct] using (run_runsDirectly impl v a hs.before).2.bind fun _ =>
      (run_runsDirectly impl v a hs.handler).2.bind fun results =>
        (run_runsDirectly impl v a hs.after).2.bind fun _ => hdispatch results

/-- The steps of {lit}`call` and {lit}`callSync` are those of a run of the
registrations {lit}`getHandlers` gives them. -/
theorem trigger_steps (v : Visit) (hook : HookName) (a : Args) (d : Option HandlerId)
    (w : World Visit Args) :
    StepsOf (w.hooks.getHandlers hook d).1.direct w ((call impl v hook a d).run w) ∧
    StepsOf (w.hooks.getHandlers hook d).1.direct w ((callSync impl v hook a d).run w) :=
  have hloops := triggerLoops_runsDirectly impl v hook a (w.hooks.getHandlers hook d).1
  ⟨hloops.1.steps { w with hooks := (w.hooks.getHandlers hook d).2 },
    hloops.2.steps { w with hooks := (w.hooks.getHandlers hook d).2 }⟩

/-- What {lit}`call` and {lit}`callSync` do to the registry, whether they return
or stop at a handler's exception.  The registry they leave is the one they found
with the recorded registry calls replayed in order: the handlers' own calls, and
the trigger's {lit}`off(hook, handler)` for each registration with {lit}`once`
set, right after its handler returned normally, among those it ran directly.
It ran a prefix of the before group, the main handler and the after group, all
of them when it returned, and the main handler's registration never has
{lit}`once` set. -/
theorem trigger_once_bookkeeping (v : Visit) (hook : HookName) (a : Args)
    (d : Option HandlerId) (w : World Visit Args) :
    OnceBookkeeping w (w.hooks.getHandlers hook d).1.direct ((call impl v hook a d).run w) ∧
    OnceBookkeeping w (w.hooks.getHandlers hook d).1.direct ((callSync impl v hook a d).run w) ∧
    ∀ r ∈ (w.hooks.getHandlers hook d).1.handler, r.once = false :=
  ⟨⟨(Tracked.call impl v hook a d).registry_eq w, (trigger_steps impl v hook a d w).1⟩,
    ⟨(Tracked.callSync impl v hook a d).registry_eq w, (trigger_steps impl v hook a d w).2⟩,
    Hooks.getHandlers_handler_not_once _ _ _⟩

end Semantics

/-! ## A once replacement stays -/

/-- A fresh registry after {lit}`on('visit:start', handler, { once: true,
replace: true })`. -/
def onceReplacement : Hooks :=
  Hooks.init.«on» "visit:start" 1 { once := true, replace := true }

/-- Two triggers of {lit}`visit:start` in a row both run the replacement
registered with {lit}`once`: it runs as the main handler, whose registration
{lit}`getHandlers` builds without {lit}`once`, so the first trigger leaves it. -/
theorem once_replacement_runs_twice :
    let w0 : World Unit Unit := ⟨onceReplacement, [], []⟩
    let trigger := call returnsUndefined () "visit:start" () (some 9)
    observed Event.invoked? w0 (trigger.run w0) = [1] ∧
      observed Event.invoked? (final (trigger.run w0)) (trigger.run (final (trigger.run w0))) = [1] := by
  decide

end Swup
