import Swup.Hooks.Spy

/-!
# Swup hooks - How a trigger ends

{lit}`run` awaits each registration through {lit}`runAsPromise` and
{lit}`runSync` calls each one; either way a handler's exception leaves the loop
at once, and so {lit}`call` and {lit}`callSync` after it.  The trace records
the outcome of every registration a trigger runs directly, so how a trigger
ended can be read off its trace: the registrations that ran are a prefix of the
before group, the main handler and the after group; the trigger returned
exactly when all of them ran and returned normally; and when it threw, the
exception is the one the last of them threw.  The DOM event comes last, and only
when the trigger returns.  What the trigger returns is what its main handler
returned, or {lit}`undefined` when it has none.

Main results:

- Structure {lit}`Settles` and theorem {lit}`Settles.bind`: the outcome pattern is
  closed under bind.
- Theorem {lit}`run_settles`: {lit}`run` and {lit}`runSync` settle as a run of
  their registrations.
- Theorem {lit}`trigger_outcome`: the outcome and the DOM event of
  {lit}`call` and {lit}`callSync`, from every world.
- Theorem {lit}`trigger_returns_main_value`: the value {lit}`call` and
  {lit}`callSync` return is their main handler's.
-/

namespace Swup

variable {Visit Args : Type}

/-- The DOM event an event dispatches: its type and hook. -/
def Event.dispatched? : Event Visit Args → Option (String × HookName)
  | .dispatch type hook _ _ => some (type, hook)
  | _ => none

/-- A registration that returned normally. -/
def ReturnedNormally (p : HookRegistration × Except Value Value) : Prop :=
  ∃ val, p.2 = .ok val

/-- How the registrations a run from {lit}`w` ran directly ended, by the
outcomes the trace records: they are a prefix of {lit}`direct`; when the run
returned, they are all of {lit}`direct` and each returned normally; when it
threw, the last of them threw the same exception and the others returned
normally. -/
structure SettlesAs {α : Type} (direct : List HookRegistration) (w : World Visit Args)
    (res : EStateM.Result Value (World Visit Args) α) : Prop where
  ran : (observed Event.returned? w res).map Prod.fst <+: direct
  returned : ∀ a w', res = .ok a w' →
    (observed Event.returned? w res).map Prod.fst = direct ∧
      ∀ p ∈ observed Event.returned? w res, ReturnedNormally p
  threw : ∀ e w', res = .error e w' → ∃ r pre,
    observed Event.returned? w res = pre ++ [(r, .error e)] ∧ ∀ p ∈ pre, ReturnedNormally p

/-- {lit}`x` is tracked, and from every world it settles as a run of
{lit}`direct`. -/
structure Settles {α : Type} (x : TriggerM Visit Args α) (direct : List HookRegistration) :
    Prop where
  tracked : Tracked x
  settles : ∀ w, SettlesAs direct w (x.run w)

namespace Settles

/-- A part that never throws and runs no registration. -/
theorem of_emits {α : Type} {x : TriggerM Visit Args α} (hx : Emits Event.returned? x []) :
    Settles x [] := by
  refine ⟨hx.tracked, fun w => ?_⟩
  obtain ⟨a, w', hrun, hobs⟩ := hx.emits w
  refine ⟨by simp [hobs], fun _ _ _ => by simp [hobs], fun e w'' h => ?_⟩
  rw [hrun] at h
  cases h

theorem bind {α β : Type} {x : TriggerM Visit Args α} {f : α → TriggerM Visit Args β}
    {d1 d2 : List HookRegistration} (hx : Settles x d1) (hf : ∀ a, Settles (f a) d2) :
    Settles (x >>= f) (d1 ++ d2) := by
  refine ⟨hx.tracked.bind fun a => (hf a).tracked, fun w => ?_⟩
  have h1 := hx.settles w
  cases hrun : x.run w with
  | error e w1 =>
    have hres : (x >>= f).run w = .error e w1 := by rw [run_bind, hrun]
    rw [hres]
    rw [hrun] at h1
    refine ⟨h1.ran.trans (List.prefix_append _ _), fun _ _ h => (by cases h), fun e' w' h => ?_⟩
    cases h
    exact h1.threw e w1 rfl
  | ok a w1 =>
    obtain ⟨hd1, hok1⟩ := h1.returned a w1 hrun
    have h2 := (hf a).settles w1
    have hobs : observed Event.returned? w ((x >>= f).run w) =
        observed Event.returned? w (x.run w) ++ observed Event.returned? w1 ((f a).run w1) :=
      observed_bind hx.tracked (hf a).tracked hrun
    have hres : (x >>= f).run w = (f a).run w1 := by rw [run_bind, hrun]
    refine ⟨?_, fun b w' h => ?_, fun e w' h => ?_⟩
    · rw [hobs, List.map_append, hd1]
      exact (List.prefix_append_right_inj d1).mpr h2.ran
    · obtain ⟨hd2, hok2⟩ := h2.returned b w' (hres ▸ h)
      rw [hobs, List.map_append, hd1, hd2]
      exact ⟨rfl, fun p hp => (List.mem_append.mp hp).elim (hok1 p) (hok2 p)⟩
    · obtain ⟨r, pre, hpre, hokpre⟩ := h2.threw e w' (hres ▸ h)
      refine ⟨r, observed Event.returned? w (x.run w) ++ pre, by
        rw [hobs, hpre, List.append_assoc], fun p hp => ?_⟩
      exact (List.mem_append.mp hp).elim (hok1 p) (hokpre p)

/-- A registration's outcome, then {lit}`settle`: it returns the value, or
throws the exception. -/
theorem returned (r : HookRegistration) (out : Except Value Value) :
    Settles (World.record (.returned r out) >>= fun _ => settle out : TriggerM Visit Args Value)
      [r] := by
  refine ⟨(Tracked.returned r out).bind fun _ => Tracked.settle out, fun w => ?_⟩
  have hobs : observed Event.returned? w
      ((World.record (.returned r out) >>= fun _ => settle out : TriggerM Visit Args Value).run w) =
        [(r, out)] := by
    cases out <;>
      simp only [run_bind, World.record_run, settle_ok, settle_error, run_pure, run_throw] <;>
      simp [observed, appended, Event.returned?]
  cases out with
  | ok val =>
    refine ⟨by rw [hobs]; simp, fun _ _ _ => ⟨by rw [hobs]; rfl, ?_⟩, fun e w' h => ?_⟩
    · rw [hobs]
      simp [ReturnedNormally]
    · cases h
  | error e =>
    refine ⟨by rw [hobs]; simp, fun _ _ h => (by cases h), fun e' w' h => ⟨r, [], ?_, by simp⟩⟩
    cases h
    exact hobs

end Settles

section Semantics

variable (impl : HandlerId → Visit → Args → Option Fn → Prog Visit Args)

/-- {lit}`run` and {lit}`runSync` settle as a run of their registrations: a
handler's exception ends the loop with that exception. -/
theorem run_settles (v : Visit) (a : Args) (rs : List HookRegistration) :
    Settles (run impl v a rs) rs ∧ Settles (runSync impl v a rs) rs := by
  induction rs with
  | nil => exact ⟨.of_emits (Emits.pure _), .of_emits (Emits.pure _)⟩
  | cons r rs ih =>
    have hP := fun awaiting => (Emits.handlerRun_nil impl (fun _ _ _ _ => rfl) (fun _ => rfl)
      awaiting v a r : Emits Event.returned? _ [])
    have hremove : Settles (removeOnce r : TriggerM Visit Args Unit) [] := by
      have h : Emits Event.returned? (removeOnce r : TriggerM Visit Args Unit) _ := Emits.removeOnce r
      exact .of_emits (by simpa [Event.returned?] using h)
    have hrest : ∀ {loop : TriggerM Visit Args (List Value)}, Settles loop rs → ∀ res : Value,
        Settles (removeOnce r >>= fun _ => loop >>= fun results => pure (res :: results)) rs :=
      fun hloop res => by
        simpa using hremove.bind fun _ => hloop.bind fun results => .of_emits (Emits.pure _)
    have hfirst : Settles (runAsPromise impl v a r) [r] ∧ Settles (invokeSync impl v a r) [r] := by
      rw [runAsPromise_eq, invokeSync_eq]
      constructor
      · simpa using (Settles.of_emits (hP true)).bind fun out => Settles.returned r out
      · simpa using (Settles.of_emits (hP false)).bind fun out => (Settles.returned r out).bind
          fun res => (Settles.of_emits (Emits.warnIfPromise _ res)).bind fun _ =>
            Settles.of_emits (Emits.pure res)
    exact ⟨hfirst.1.bind (hrest ih.1), hfirst.2.bind (hrest ih.2)⟩

/-- {lit}`run` and {lit}`runSync` show nothing to a spy that ignores calls of
handler functions, registry calls, outcomes and removals. -/
theorem run_quiet {β : Type} {proj : Event Visit Args → Option β}
    (hinv : ∀ h v a d, proj (.invoke h v a d) = none) (hreq : ∀ op, proj (.request op) = none)
    (hret : ∀ r out, proj (.returned r out) = none) (hunreg : ∀ k h, proj (.unregister k h) = none)
    (v : Visit) (a : Args) (rs : List HookRegistration) :
    EmitsAll proj (run impl v a rs) [] ∧ EmitsAll proj (runSync impl v a rs) [] := by
  induction rs with
  | nil => exact ⟨(Emits.pure _).toAll, (Emits.pure _).toAll⟩
  | cons r rs ih =>
    have hP := fun awaiting => Emits.handlerRun_nil impl hinv hreq awaiting v a r
    have hreturned : ∀ out, Emits proj (World.record (.returned r out) : TriggerM Visit Args Unit) [] :=
      fun out => by simpa [hret] using Emits.record proj (.returned r out) rfl
    have hremove : Emits proj (removeOnce r : TriggerM Visit Args Unit) [] := by
      simpa [hunreg] using (Emits.removeOnce r : Emits proj _ _)
    have hrest : ∀ {loop : TriggerM Visit Args (List Value)}, EmitsAll proj loop [] → ∀ res : Value,
        EmitsAll proj (removeOnce r >>= fun _ => loop >>= fun results => pure (res :: results)) [] :=
      fun hloop res => hremove.toAll.bind_quiet fun _ => hloop.bind_quiet fun _ => (Emits.pure _).toAll
    constructor
    · have h : EmitsAll proj (runAsPromise impl v a r) [] := by
        rw [runAsPromise_eq]
        exact (hP true).toAll.bind_quiet fun out => (hreturned out).toAll.bind_quiet fun _ =>
          EmitsAll.settle out
      exact h.bind_quiet (hrest ih.1)
    · have h : EmitsAll proj (invokeSync impl v a r) [] := by
        rw [invokeSync_eq]
        exact (hP false).toAll.bind_quiet fun out => (hreturned out).toAll.bind_quiet fun _ =>
          (EmitsAll.settle out).bind_quiet fun _ =>
            (Emits.warnIfPromise _ _).toAll.bind_quiet fun _ => (Emits.pure _).toAll
      exact h.bind_quiet (hrest ih.2)

/-! ## What a trigger returns -/

/-- The outcomes the trace records of registrations that all returned, with the
values a loop over them collected. -/
def returnedValues (rs : List HookRegistration) (vs : List Value) :
    List (HookRegistration × Except Value Value) :=
  List.zipWith (fun r val => (r, .ok val)) rs vs

theorem returnedValues_fst {rs : List HookRegistration} {vs : List Value}
    (h : vs.length = rs.length) : (returnedValues rs vs).map Prod.fst = rs := by
  induction rs generalizing vs with
  | nil => rfl
  | cons r rs ih =>
    cases vs with
    | nil => cases h
    | cons val vs =>
      simp only [returnedValues] at ih ⊢
      simp only [List.zipWith_cons_cons, List.map_cons, ih (Nat.succ.inj h)]

/-- For the main handler list, of at most one registration: the value recorded
is the head of the values. -/
theorem returnedValues_of_length_le_one {rs : List HookRegistration} {vs : List Value}
    (hrs : rs.length ≤ 1) (h : vs.length = rs.length) :
    returnedValues rs vs = rs.map fun m => (m, .ok (vs.headD .undefined)) := by
  rcases rs with _ | ⟨m, _ | ⟨m', rest⟩⟩
  · rw [List.length_eq_zero.mp h]
    rfl
  · obtain ⟨x, rfl⟩ := List.length_eq_one.mp h
    rfl
  · simp at hrs

/-- When the loop over {lit}`rs` run from {lit}`w` returns the values
{lit}`vs`, there is one per registration, and the trace records that each
registration returned its own. -/
def YieldsAs (rs : List HookRegistration) (w : World Visit Args)
    (res : EStateM.Result Value (World Visit Args) (List Value)) : Prop :=
  ∀ vs w', res = .ok vs w' →
    vs.length = rs.length ∧ observed Event.returned? w res = returnedValues rs vs

/-- A registration's run that returns {lit}`b` records that it returned
{lit}`b`, and nothing else. -/
theorem registration_value {P : TriggerM Visit Args (Except Value Value)}
    (hP : Emits Event.returned? P []) (r : HookRegistration) (w : World Visit Args) (b : Value)
    (w' : World Visit Args)
    (h : (P >>= fun out => World.record (.returned r out) >>= fun _ => settle out).run w = .ok b w') :
    observed Event.returned? w
      ((P >>= fun out => World.record (.returned r out) >>= fun _ => settle out).run w) =
        [(r, .ok b)] := by
  obtain ⟨out, w1, h1, hobs1⟩ := hP.emits w
  have hrest : Tracked (World.record (.returned r out) >>= fun _ => settle out :
      TriggerM Visit Args Value) :=
    (Tracked.returned r out).bind fun _ => Tracked.settle out
  rw [observed_bind hP.tracked hrest h1, hobs1, List.nil_append]
  rw [run_bind, h1] at h
  cases out with
  | ok val =>
    have hrun : (World.record (.returned r (.ok val)) >>= fun _ => settle (.ok val) :
        TriggerM Visit Args Value).run w1 =
          .ok val { w1 with trace := w1.trace ++ [.returned r (.ok val)] } :=
      rfl
    dsimp only at h
    rw [hrun] at h ⊢
    cases h
    simp [observed, appended, Event.returned?]
  | error e => simp only [run_bind, World.record_run, settle_error, run_throw] at h; cases h

/-- The step of the loops of {lit}`run` and {lit}`runSync`: a registration
whose run records that it returned the value it returns, then its removal, then
the rest of the loop. -/
theorem YieldsAs.cons {x : TriggerM Visit Args Value} {loop : TriggerM Visit Args (List Value)}
    {r : HookRegistration} {rs : List HookRegistration} (hx : Tracked x)
    (hxval : ∀ w b w', x.run w = .ok b w' → observed Event.returned? w (x.run w) = [(r, .ok b)])
    (hloop : Tracked loop) (hyields : ∀ w, YieldsAs rs w (loop.run w)) (w : World Visit Args) :
    YieldsAs (r :: rs) w
      ((x >>= fun result => removeOnce r >>= fun _ => loop >>= fun results =>
        pure (result :: results)).run w) := by
  intro vs w' h
  have hremove : Emits Event.returned? (removeOnce r : TriggerM Visit Args Unit) [] := by
    simpa [Event.returned?] using (Emits.removeOnce r : Emits Event.returned? _ _)
  have hpure : ∀ (b : Value) (results : List Value),
      Tracked (pure (b :: results) : TriggerM Visit Args (List Value)) := fun _ _ => Tracked.pure _
  obtain ⟨b, w1, h1, h⟩ := run_bind_eq_ok h
  obtain ⟨u, w2, h2, h⟩ := run_bind_eq_ok h
  obtain ⟨vs0, w3, h3, h⟩ := run_bind_eq_ok h
  cases h
  obtain ⟨hlen, hobs3⟩ := hyields w2 vs0 _ h3
  obtain ⟨-, -, -, hobs2⟩ := hremove.emits w1
  have hlast : observed Event.returned? w2 ((loop >>= fun results => pure (b :: results)).run w2) =
      observed Event.returned? w2 (loop.run w2) := by
    rw [run_bind, h3]
    rfl
  refine ⟨by simp [hlen], ?_⟩
  rw [observed_bind hx (hremove.tracked.bind fun _ => hloop.bind (hpure b)) h1,
    observed_bind hremove.tracked (hloop.bind (hpure b)) h2, hxval w b w1 h1, hobs2, hlast, hobs3]
  rfl

end Semantics

section Semantics

variable (impl : HandlerId → Visit → Args → Option Fn → Prog Visit Args)

/-- {lit}`invokeSync` returns what its handler returned, and records just that. -/
theorem invokeSync_value (v : Visit) (a : Args) (r : HookRegistration) (w : World Visit Args)
    (b : Value) (w' : World Visit Args) (h : (invokeSync impl v a r).run w = .ok b w') :
    observed Event.returned? w ((invokeSync impl v a r).run w) = [(r, .ok b)] := by
  have hP : Emits Event.returned? _ [] :=
    Emits.handlerRun_nil impl (fun _ _ _ _ => rfl) (fun _ => rfl) false v a r
  let first := (World.record (.invoke r.handler v a r.defaultHandler) >>= fun _ =>
    exec false (r.defaultHandler.map (callFn impl)) (impl r.handler v a r.defaultHandler)) >>=
      fun out => World.record (.returned r out) >>= fun _ => settle out
  have hrest : ∀ result : Value, Emits Event.returned?
      (warnIfPromise r.hook result >>= fun _ => pure result : TriggerM Visit Args Value) [] :=
    fun _ => (Emits.warnIfPromise _ _).bind_nil fun _ => Emits.pure _
  have heq : invokeSync impl v a r = first >>= fun result =>
      warnIfPromise r.hook result >>= fun _ => pure result := by
    simp only [invokeSync_eq, first, bind_assoc]
  rw [heq] at h ⊢
  obtain ⟨b0, w1, h1, h⟩ := run_bind_eq_ok h
  simp only [run_bind, warnIfPromise_run, run_pure, EStateM.Result.ok.injEq] at h
  obtain ⟨rfl, -⟩ := h
  obtain ⟨-, -, -, hobs2⟩ := (hrest b0).emits w1
  rw [observed_bind (hP.tracked.bind fun out => (Tracked.returned r out).bind fun _ =>
    Tracked.settle out) (hrest b0).tracked h1, registration_value hP r w b0 w1 h1, hobs2,
    List.append_nil]

/-- {lit}`run` and {lit}`runSync` return one value per registration, and the
trace records that each registration returned its own. -/
theorem run_yields (v : Visit) (a : Args) :
    ∀ (rs : List HookRegistration) (w : World Visit Args),
      YieldsAs rs w ((run impl v a rs).run w) ∧ YieldsAs rs w ((runSync impl v a rs).run w)
  | [], w => by
    have hnil : YieldsAs [] w (.ok [] w) := fun vs w' h => by
      cases h
      exact ⟨rfl, by simp [observed, appended, returnedValues]⟩
    exact ⟨hnil, hnil⟩
  | r :: rs, w => by
    have hP : Emits Event.returned? _ [] :=
      Emits.handlerRun_nil impl (fun _ _ _ _ => rfl) (fun _ => rfl) true v a r
    refine ⟨YieldsAs.cons (Tracked.runAsPromise impl v a r) (fun w b w' h => ?_)
        (Tracked.run impl v a rs) (fun w => (run_yields v a rs w).1) w,
      YieldsAs.cons (Tracked.invokeSync impl v a r) (invokeSync_value impl v a r)
        (Tracked.runSync impl v a rs) (fun w => (run_yields v a rs w).2) w⟩
    rw [runAsPromise_eq] at h ⊢
    exact registration_value hP r w b w' h

end Semantics

/-- The main handler list {lit}`getHandlers` builds has at most one registration. -/
theorem Hooks.getHandlers_handler_length (s : Hooks) (hook : HookName) (d : Option HandlerId) :
    (s.getHandlers hook d).1.handler.length ≤ 1 := by
  unfold Hooks.getHandlers
  split
  · simp
  · simp only [sortHandlers]
    split <;> simp

/-- What a trigger run from {lit}`w`, whose handlers are {lit}`hs`, recorded
when it returned {lit}`b`: its before group returning, then its main handler
returning {lit}`b`, then its after group; without a main handler, {lit}`b` is
{lit}`undefined`. -/
def ReturnsMain (hs : Handlers) (w : World Visit Args)
    (res : EStateM.Result Value (World Visit Args) Value) (b : Value) : Prop :=
  ∃ pre post, observed Event.returned? w res =
      pre ++ hs.handler.map (fun m => (m, .ok b)) ++ post ∧
    pre.map Prod.fst = hs.before ∧ post.map Prod.fst = hs.after ∧ (hs.handler = [] → b = .undefined)

/-- What a trigger built from a loop that collects its registrations' values, as
{lit}`call` is from {lit}`run` and {lit}`callSync` from {lit}`runSync`, returns:
the value its main handler returned, recorded between the before and after
groups, or {lit}`undefined` when it has no main handler. -/
theorem triggerValue_of_loop {loop : List HookRegistration → TriggerM Visit Args (List Value)}
    (htracked : ∀ rs, Tracked (loop rs)) (hyields : ∀ rs w, YieldsAs rs w ((loop rs).run w))
    (v : Visit) (hook : HookName) (a : Args) (d : Option HandlerId) (w : World Visit Args)
    (b : Value) (w' : World Visit Args)
    (h : (World.getHandlers hook d >>= fun hs => loop hs.before >>= fun _ =>
      loop hs.handler >>= fun results => loop hs.after >>= fun _ =>
        dispatchDomEvent v hook a >>= fun _ => pure (results.headD .undefined)).run w = .ok b w') :
    ReturnsMain (w.hooks.getHandlers hook d).1 w ((World.getHandlers hook d >>= fun hs =>
        loop hs.before >>= fun _ => loop hs.handler >>= fun results => loop hs.after >>= fun _ =>
          dispatchDomEvent v hook a >>= fun _ => pure (results.headD .undefined)).run w) b := by
  have hlen := Hooks.getHandlers_handler_length w.hooks hook d
  generalize hhs : (w.hooks.getHandlers hook d).1 = hs at hlen ⊢
  let w1 : World Visit Args := { w with hooks := (w.hooks.getHandlers hook d).2 }
  let finish := fun results : List Value =>
    (dispatchDomEvent v hook a >>= fun _ => pure (results.headD .undefined) : TriggerM Visit Args Value)
  let after := fun results : List Value => loop hs.after >>= fun _ => finish results
  let main := fun _ : List Value => loop hs.handler >>= after
  have hrun : (World.getHandlers hook d >>= fun hs => loop hs.before >>= fun _ =>
      loop hs.handler >>= fun results => loop hs.after >>= fun _ =>
        dispatchDomEvent v hook a >>= fun _ => pure (results.headD .undefined)).run w =
      (loop hs.before >>= main).run w1 := by
    subst hhs
    rfl
  rw [hrun] at h ⊢
  have hfinish : ∀ results, Tracked (finish results) := fun _ =>
    (Tracked.dispatchDomEvent v hook a).bind fun _ => Tracked.pure _
  have hafter : ∀ results, Tracked (after results) := fun results =>
    (htracked _).bind fun _ => hfinish results
  have hmain : ∀ vs, Tracked (main vs) := fun _ => (htracked _).bind hafter
  obtain ⟨vs1, w2, h1, h⟩ := run_bind_eq_ok h
  obtain ⟨vs2, w3, h2, h⟩ := run_bind_eq_ok h
  obtain ⟨vs3, w4, h3, h⟩ := run_bind_eq_ok h
  have h4 : (finish vs2).run w4 = .ok (vs2.headD .undefined)
      { w4 with trace := w4.trace ++ [.dispatch ("swup:" ++ hook) hook a v] } := rfl
  rw [h4] at h
  cases h
  obtain ⟨hlen1, hobs1⟩ := hyields _ w1 vs1 w2 h1
  obtain ⟨hlen2, hobs2⟩ := hyields _ w2 vs2 w3 h2
  obtain ⟨hlen3, hobs3⟩ := hyields _ w3 vs3 w4 h3
  have hobs4 : observed Event.returned? w4 ((finish vs2).run w4) = [] := by
    rw [h4]
    simp [observed, appended, Event.returned?]
  have hobs : observed Event.returned? w1 ((loop hs.before >>= main).run w1) =
      returnedValues hs.before vs1 ++ (returnedValues hs.handler vs2 ++ returnedValues hs.after vs3) := by
    rw [observed_bind (htracked _) (hmain vs1) h1, observed_bind (htracked _) (hafter vs2) h2,
      @observed_bind Visit Args _ _ _ _ _ (fun _ => finish vs2) w3 w4 vs3 (htracked _) (hfinish vs2) h3,
      hobs1, hobs2, hobs3, hobs4, List.append_nil]
  refine ⟨returnedValues hs.before vs1, returnedValues hs.after vs3, ?_,
    returnedValues_fst hlen1, returnedValues_fst hlen3, fun hnil => ?_⟩
  · rw [← returnedValues_of_length_le_one hlen hlen2, List.append_assoc]
    exact hobs
  · rw [hnil, List.length_nil, List.length_eq_zero] at hlen2
    rw [hlen2]
    rfl

/-- How a trigger run from {lit}`w`, whose handlers are {lit}`hs`, ended: it
settled as a run of its before group, main handler and after group; when it
returned, it had dispatched the DOM event once, as its last event; when it
threw, it had dispatched none. -/
structure TriggerEnds (v : Visit) (hook : HookName) (a : Args) (hs : Handlers)
    (w : World Visit Args) (res : EStateM.Result Value (World Visit Args) Value) : Prop where
  settles : SettlesAs hs.direct w res
  dispatched : ∀ b w', res = .ok b w' →
    observed Event.dispatched? w res = [("swup:" ++ hook, hook)] ∧
      (appended w res).getLast? = some (.dispatch ("swup:" ++ hook) hook a v)
  notDispatched : ∀ e w', res = .error e w' → observed Event.dispatched? w res = []

/-- A trigger built from a loop over registrations that settles as a run of them
and dispatches nothing, as {lit}`call` is from {lit}`run` and {lit}`callSync`
from {lit}`runSync`. -/
theorem triggerEnds_of_loop {loop : List HookRegistration → TriggerM Visit Args (List Value)}
    (hloop : ∀ rs, Settles (loop rs) rs) (hquiet : ∀ rs, EmitsAll Event.dispatched? (loop rs) [])
    (v : Visit) (hook : HookName) (a : Args) (d : Option HandlerId) (w : World Visit Args) :
    TriggerEnds v hook a (w.hooks.getHandlers hook d).1 w
      ((World.getHandlers hook d >>= fun hs => loop hs.before >>= fun _ =>
        loop hs.handler >>= fun results => loop hs.after >>= fun _ =>
          dispatchDomEvent v hook a >>= fun _ => pure (results.headD .undefined)).run w) := by
  generalize hhs : (w.hooks.getHandlers hook d).1 = hs
  let w1 : World Visit Args := { w with hooks := (w.hooks.getHandlers hook d).2 }
  let loops := loop hs.before >>= fun _ => loop hs.handler >>= fun results =>
    loop hs.after >>= fun _ => pure results
  let finish := fun results : List Value =>
    (dispatchDomEvent v hook a >>= fun _ => pure (results.headD .undefined) : TriggerM Visit Args Value)
  have hrun : (World.getHandlers hook d >>= fun hs => loop hs.before >>= fun _ =>
      loop hs.handler >>= fun results => loop hs.after >>= fun _ =>
        dispatchDomEvent v hook a >>= fun _ => pure (results.headD .undefined)).run w =
      (loops >>= finish).run w1 := by
    simp only [run_bind, World.getHandlers_run, hhs, loops, finish, bind_assoc, pure_bind]
  rw [hrun]
  have hloops : Settles loops hs.direct := by
    simpa [Handlers.direct] using (hloop hs.before).bind fun _ => (hloop hs.handler).bind
      fun _ => (hloop hs.after).bind fun _ => .of_emits (Emits.pure _)
  have hquietLoops : EmitsAll Event.dispatched? loops [] :=
    (hquiet _).bind_quiet fun _ => (hquiet _).bind_quiet fun _ =>
      (hquiet _).bind_quiet fun _ => (Emits.pure _).toAll
  have hfinish : ∀ results, Emits Event.returned? (finish results) [] := fun results =>
    (Emits.record Event.returned? (.dispatch ("swup:" ++ hook) hook a v) rfl).bind_nil fun _ =>
      Emits.pure _
  have hsettles := (hloops.bind fun results => .of_emits (hfinish results)).settles w1
  rw [List.append_nil] at hsettles
  refine ⟨⟨hsettles.1, hsettles.2, hsettles.3⟩, fun b w' h => ?_, fun e w' h => ?_⟩
  · cases hl : loops.run w1 with
    | error e w2 => rw [run_bind, hl] at h; cases h
    | ok results w2 =>
      have hobs := hquietLoops.emits w1
      rw [hl] at hobs
      rw [run_bind, hl]
      simp only [finish, dispatchDomEvent, run_bind, World.record_run, run_pure]
      simp only [observed, appended, final_ok] at hobs ⊢
      obtain ⟨n, hn, -⟩ := hloops.tracked w1
      rw [hl, final_ok] at hn
      simp only [hn, List.append_assoc, List.drop_left] at hobs ⊢
      simp [hobs, Event.dispatched?]
  · cases hl : loops.run w1 with
    | error e2 w2 =>
      have hobs := hquietLoops.emits w1
      rw [hl] at hobs
      rw [run_bind, hl]
      exact hobs
    | ok results w2 =>
      rw [run_bind, hl] at h
      simp only [finish, dispatchDomEvent, run_bind, World.record_run, run_pure] at h
      cases h

section Semantics

variable (impl : HandlerId → Visit → Args → Option Fn → Prog Visit Args)

/-- How {lit}`call` and {lit}`callSync` end, from every world.  The
registrations they ran directly are, in order, a prefix of the before group, the
main handler and the after group.  A trigger returns exactly when it ran all of
them and each returned normally, and it then dispatches the DOM event once, as
its last event.  When a handler throws, the trigger throws the same exception at
once: that handler is the last registration it ran, every earlier one returned
normally, and no DOM event is dispatched. -/
theorem trigger_outcome (v : Visit) (hook : HookName) (a : Args) (d : Option HandlerId)
    (w : World Visit Args) :
    TriggerEnds v hook a (w.hooks.getHandlers hook d).1 w ((call impl v hook a d).run w) ∧
      TriggerEnds v hook a (w.hooks.getHandlers hook d).1 w ((callSync impl v hook a d).run w) :=
  have hquiet : ∀ rs, EmitsAll Event.dispatched? (run impl v a rs) [] ∧
      EmitsAll Event.dispatched? (runSync impl v a rs) [] := fun rs =>
    run_quiet impl (fun _ _ _ _ => rfl) (fun _ => rfl) (fun _ _ => rfl) (fun _ _ => rfl) v a rs
  ⟨triggerEnds_of_loop (fun rs => (run_settles impl v a rs).1) (fun rs => (hquiet rs).1) v hook a d w,
    triggerEnds_of_loop (fun rs => (run_settles impl v a rs).2) (fun rs => (hquiet rs).2) v hook a d w⟩

/-- What {lit}`call` and {lit}`callSync` return: the value their main handler
returned, that is the default handler's or, when the hook has replacements, the
last replacement's; {lit}`undefined` when the trigger has no main handler, for
an unknown hook or a call without a default handler.  The trace records the
before group returning, the main handler returning that value, then the after
group. -/
theorem trigger_returns_main_value (v : Visit) (hook : HookName) (a : Args) (d : Option HandlerId)
    (w : World Visit Args) :
    (∀ b w', (call impl v hook a d).run w = .ok b w' →
      ReturnsMain (w.hooks.getHandlers hook d).1 w ((call impl v hook a d).run w) b) ∧
    (∀ b w', (callSync impl v hook a d).run w = .ok b w' →
      ReturnsMain (w.hooks.getHandlers hook d).1 w ((callSync impl v hook a d).run w) b) :=
  ⟨triggerValue_of_loop (Tracked.run impl v a) (fun rs w => (run_yields impl v a rs w).1) v hook a d w,
    triggerValue_of_loop (Tracked.runSync impl v a) (fun rs w => (run_yields impl v a rs w).2) v hook a
      d w⟩

end Semantics

end Swup
