import Swup.Hooks.Frame

/-!
# Swup hooks - callSync refines call

{lit}`callSync` and {lit}`call` are separate loops, {lit}`runSync` and {lit}`run`,
over the same {lit}`getHandlers` result.  They differ in two places: {lit}`run`
awaits each handler through {lit}`runAsPromise`, so an async handler's tail runs
before the next handler, and {lit}`runSync` warns about a returned promise.
When no registration the trigger runs directly returns a promise, the two
triggers end in the same world with the same outcome: the same calls with the
same arguments in the same trace, the same registry and console, and the same
value or exception.

Main results:

- Theorem {lit}`exec_await_eq_sync`: awaiting a handler program that returns
  no promise is running it.
- Theorem {lit}`callSync_eq_call`: the refinement, over every world, hook,
  arguments and default handler.
-/

namespace Swup

variable {Visit Args : Type}

/-! ## Awaiting a program that returns no promise -/

/-- The two modes of {lit}`exec` differ only at an async return, so a program
whose synchronous run does not return a thenable runs the same when awaited. -/
theorem exec_await_eq_sync
    (cd : Option (Visit → Args → TriggerM Visit Args (Except Value Value)))
    (p : Prog Visit Args) (w : World Visit Args)
    (h : ∀ n w', (exec false cd p).run w ≠ .ok (.ok (.thenable n)) w') :
    (exec true cd p).run w = (exec false cd p).run w := by
  induction p generalizing w with
  | ret v => rfl
  | throw e => rfl
  | request op next ih =>
    simp only [exec, run_bind, World.perform_run] at h ⊢
    exact ih _ h
  | callDefault v a next ih =>
    simp only [exec, run_bind] at h ⊢
    cases hc : (callDefaultOf cd v a).run w with
    | ok r w' =>
      rw [hc] at h
      exact ih r w' h
    | error e w' => rfl
  | async n tail _ =>
    exact absurd rfl (h n _)

/-! ## Agreement when every direct call returns a plain value -/

/-- Every registration run directly in these events returned a value that is
not a thenable, or threw. -/
def ReturnsPlain (evs : List (Event Visit Args)) : Prop :=
  ∀ r v, Event.returned r (.ok v) ∈ evs → isPromise v = false

/-- Whether an event, when it is the return of a direct run, returned no promise. -/
def Event.returnsPlain : Event Visit Args → Bool
  | .returned _ (.ok v) => !isPromise v
  | _ => true

theorem returnsPlain_iff (evs : List (Event Visit Args)) :
    ReturnsPlain evs ↔ evs.all Event.returnsPlain := by
  simp only [ReturnsPlain, List.all_eq_true]
  constructor
  · intro h e he
    match e, he with
    | .returned r (.ok v), he => simpa [Event.returnsPlain] using h r v he
    | .returned _ (.error _), _ | .invoke .., _ | .request _, _ | .unregister .., _
    | .dispatch .., _ => rfl
  · intro h r v hm
    simpa [Event.returnsPlain] using h _ hm

instance (evs : List (Event Visit Args)) : Decidable (ReturnsPlain evs) :=
  decidable_of_iff _ (returnsPlain_iff evs).symm

/-- {lit}`x` is tracked, and ends as {lit}`y` from every world where the
registrations {lit}`x` runs directly return no promise. -/
structure AgreesWhenPlain {α : Type} (x y : TriggerM Visit Args α) : Prop where
  tracked : Tracked x
  agrees : ∀ w, ReturnsPlain (appended w (x.run w)) → x.run w = y.run w

namespace AgreesWhenPlain

theorem refl {α : Type} {x : TriggerM Visit Args α} (hx : Tracked x) : AgreesWhenPlain x x :=
  ⟨hx, fun _ _ => rfl⟩

theorem bind {α β : Type} {x y : TriggerM Visit Args α} {f g : α → TriggerM Visit Args β}
    (hxy : AgreesWhenPlain x y) (hfg : ∀ a, AgreesWhenPlain (f a) (g a)) :
    AgreesWhenPlain (x >>= f) (y >>= g) := by
  refine ⟨hxy.tracked.bind fun a => (hfg a).tracked, fun w h => ?_⟩
  rw [run_bind, run_bind]
  cases hrun : x.run w with
  | error e w1 =>
    rw [run_bind, hrun] at h
    rw [← hxy.agrees w (by rwa [hrun]), hrun]
  | ok a w1 =>
    rw [Tracked.appended_bind hxy.tracked (hfg a).tracked hrun] at h
    rw [← hxy.agrees w fun r v hm => h r v (List.mem_append_left _ hm), hrun]
    exact (hfg a).agrees w1 fun r v hm => h r v (List.mem_append_right _ hm)

end AgreesWhenPlain

/-! ## The refinement -/

section Semantics

variable (impl : HandlerId → Visit → Args → Option Fn → Prog Visit Args)

/-- {lit}`runSync`'s call of one handler agrees with {lit}`runAsPromise` when the
handler returns no promise. -/
theorem invokeSync_agrees (v : Visit) (a : Args) (r : HookRegistration) :
    AgreesWhenPlain (invokeSync impl v a r) (runAsPromise impl v a r) := by
  refine ⟨Tracked.invokeSync impl v a r, fun w h => ?_⟩
  simp only [invokeSync, runAsPromise, run_bind, World.record_run] at h ⊢
  generalize hw1 : ({ w with trace := w.trace ++ [.invoke r.handler v a r.defaultHandler] } :
    World Visit Args) = w1 at h ⊢
  obtain ⟨n, hn, -⟩ := (Tracked.exec (Tracked.defaultOf impl r)
    (impl r.handler v a r.defaultHandler) : Tracked (exec false _ _)) w1
  cases hx : (exec false (r.defaultHandler.map (callFn impl))
      (impl r.handler v a r.defaultHandler)).run w1 with
  | error e w2 => rw [exec_await_eq_sync _ _ _ (by simp [hx]), hx]
  | ok out w2 =>
    rw [hx] at h hn
    simp only [World.record_run, final_ok] at h hn
    cases out with
    | error e =>
      rw [exec_await_eq_sync _ _ _ (by simp [hx]), hx]
      rfl
    | ok val =>
      simp only [settle_ok, run_pure, warnIfPromise_run] at h
      have hval : isPromise val = false := h r val (by
        split <;> simp [appended, hn, ← hw1])
      rw [exec_await_eq_sync _ _ _ fun n w' h' => by
        rw [hx] at h'
        cases h'
        simp [isPromise] at hval, hx]
      simp [warnIfPromise_run, hval]

theorem runSync_agrees (v : Visit) (a : Args) (rs : List HookRegistration) :
    AgreesWhenPlain (runSync impl v a rs) (run impl v a rs) := by
  induction rs with
  | nil => exact .refl (Tracked.pure _)
  | cons r rs ih =>
    exact .bind (invokeSync_agrees impl v a r) fun _ =>
      .bind (.refl (Tracked.removeOnce r)) fun _ => .bind ih fun _ => .refl (Tracked.pure _)

theorem callSync_agrees (v : Visit) (hook : HookName) (a : Args) (d : Option HandlerId) :
    AgreesWhenPlain (callSync impl v hook a d) (call impl v hook a d) :=
  .bind (.refl (Tracked.getHandlers hook d)) fun _ =>
    .bind (runSync_agrees impl v a _) fun _ => .bind (runSync_agrees impl v a _) fun _ =>
      .bind (runSync_agrees impl v a _) fun _ =>
        .bind (.refl (Tracked.dispatchDomEvent v hook a)) fun _ => .refl (Tracked.pure _)

/-- When every registration the trigger runs directly returns a value that is
not a thenable, or throws, {lit}`callSync` ends in the same world with the same
outcome as {lit}`call` run on its own: the same handler calls with the same
arguments in the same order, the same registry and console, and the same
returned value or exception. -/
theorem callSync_eq_call (v : Visit) (hook : HookName) (a : Args) (d : Option HandlerId)
    (w : World Visit Args)
    (hplain : ReturnsPlain (appended w ((callSync impl v hook a d).run w))) :
    (callSync impl v hook a d).run w = (call impl v hook a d).run w :=
  (callSync_agrees impl v hook a d).agrees w hplain

end Semantics

/-- A fresh registry after {lit}`on('visit:start', handler, { once: true })`. -/
def onceHandler : Hooks :=
  Hooks.init.«on» "visit:start" 1 { once := true }

theorem callSync_eq_call_onceHandler :
    let w : World Unit Unit := ⟨onceHandler, [], []⟩
    ReturnsPlain (appended w ((callSync returnsUndefined () "visit:start" () (some 9)).run w)) ∧
      (callSync returnsUndefined () "visit:start" () (some 9)).run w =
        (call returnsUndefined () "visit:start" () (some 9)).run w :=
  ⟨by decide, callSync_eq_call returnsUndefined () "visit:start" () (some 9) _ (by decide)⟩

end Swup
