import Swup.Hooks.Trigger

/-!
# Swup hooks - The registry frame of a trigger

A trigger never changes the registry behind the trace's back: whatever the
handlers do, and whether the trigger returns or stops at an exception, the
registry it leaves is the registry it found with the recorded registry calls
replayed in order.  The property is {lit}`Tracked`; it is closed under
{lit}`pure` and bind, holds of every primitive, and so of handler programs, the
replace chain, {lit}`run`, {lit}`runSync`, {lit}`call` and {lit}`callSync`.

Main results:

- Theorems {lit}`Tracked.call` and {lit}`Tracked.callSync`.
-/

namespace Swup

variable {Visit Args : Type}

/-- An action only appends to the trace, and changes the registry exactly by the
registry calls it records. -/
def Tracked {α : Type} (x : TriggerM Visit Args α) : Prop :=
  ∀ w, ∃ new, (final (x.run w)).trace = w.trace ++ new ∧
    (final (x.run w)).hooks.registry = (w.hooks.replay (new.filterMap Event.call?)).registry

/-- The events a run appended to the trace of the world it started from. -/
def appended {α : Type} (w : World Visit Args) (res : EStateM.Result Value (World Visit Args) α) :
    List (Event Visit Args) :=
  (final res).trace.drop w.trace.length

namespace Tracked

theorem appended_eq {α : Type} {x : TriggerM Visit Args α} (hx : Tracked x)
    (w : World Visit Args) : ∃ n, (final (x.run w)).trace = w.trace ++ n ∧
      appended w (x.run w) = n := by
  obtain ⟨n, hn, -⟩ := hx w
  exact ⟨n, hn, by simp [appended, hn]⟩

/-- The registry a tracked run leaves is the one it found with the registry calls
among its events replayed. -/
theorem registry_eq {α : Type} {x : TriggerM Visit Args α} (hx : Tracked x) (w : World Visit Args) :
    (final (x.run w)).hooks.registry =
      (w.hooks.replay ((appended w (x.run w)).filterMap Event.call?)).registry := by
  obtain ⟨n, ht, hr⟩ := hx w
  rw [hr, appended, ht, List.drop_left]

/-- The events of a bind are those of its two parts. -/
theorem appended_bind {α β : Type} {x : TriggerM Visit Args α} {f : α → TriggerM Visit Args β}
    {w w1 : World Visit Args} {a : α} (hx : Tracked x) (hf : Tracked (f a))
    (hrun : x.run w = .ok a w1) :
    appended w ((x >>= f).run w) = appended w (x.run w) ++ appended w1 ((f a).run w1) := by
  obtain ⟨n1, ht1, ha1⟩ := hx.appended_eq w
  obtain ⟨n2, ht2, ha2⟩ := hf.appended_eq w1
  rw [ha1, ha2, run_bind, hrun]
  rw [hrun, final_ok] at ht1
  simp [appended, ht2, ht1]

theorem pure {α : Type} (a : α) : Tracked (Pure.pure a : TriggerM Visit Args α) :=
  fun w => ⟨[], by simp, rfl⟩

theorem throw {α : Type} (e : Value) : Tracked (MonadExcept.throw e : TriggerM Visit Args α) :=
  fun w => ⟨[], by simp, rfl⟩

theorem bind {α β : Type} {x : TriggerM Visit Args α} {f : α → TriggerM Visit Args β}
    (hx : Tracked x) (hf : ∀ a, Tracked (f a)) : Tracked (x >>= f) := by
  intro w
  obtain ⟨n1, ht1, hr1⟩ := hx w
  rw [run_bind]
  cases h : x.run w with
  | ok a w1 =>
    rw [h, final_ok] at ht1 hr1
    obtain ⟨n2, ht2, hr2⟩ := hf a w1
    refine ⟨n1 ++ n2, by rw [ht2, ht1, List.append_assoc], ?_⟩
    rw [hr2, List.filterMap_append, Hooks.replay_append]
    exact Hooks.replay_registry_congr hr1 _
  | error e w1 =>
    rw [h] at ht1 hr1
    exact ⟨n1, ht1, hr1⟩

theorem record {e : Event Visit Args} (he : e.call? = none) : Tracked (World.record e) :=
  fun w => ⟨[e], by simp, by simp [he]⟩

theorem invoke (h : HandlerId) (v : Visit) (a : Args) (d : Option Fn) :
    Tracked (World.record (.invoke h v a d)) :=
  record rfl

theorem returned (r : HookRegistration) (out : Except Value Value) :
    Tracked (World.record (.returned r out) : TriggerM Visit Args Unit) :=
  record rfl

theorem perform (op : Hooks.Op) : Tracked (World.perform op : TriggerM Visit Args Unit) :=
  fun w => ⟨[.request op], by simp, by simp [Event.call?, Hooks.replay_cons]⟩

theorem unregister (hook : HookName) (h : HandlerId) :
    Tracked (World.unregister hook h : TriggerM Visit Args Unit) :=
  fun w => ⟨[.unregister hook h], by simp, by simp [Event.call?, Hooks.replay_cons, Hooks.apply]⟩

theorem defer (p : Prog Visit Args) : Tracked (World.defer p) :=
  fun w => ⟨[], by simp, by simp⟩

theorem warn (text : String) : Tracked (World.warn text : TriggerM Visit Args Unit) :=
  fun w => ⟨[], by simp, by simp⟩

theorem getHandlers (hook : HookName) (d : Option HandlerId) :
    Tracked (World.getHandlers hook d : TriggerM Visit Args Handlers) :=
  fun w => ⟨[], by simp, by simp⟩

theorem dispatchDomEvent (v : Visit) (hook : HookName) (a : Args) :
    Tracked (Swup.dispatchDomEvent v hook a) :=
  record rfl

section Semantics

variable (impl : HandlerId → Visit → Args → Option Fn → Prog Visit Args)

theorem exec {awaiting : Bool}
    {cd : Option (Visit → Args → TriggerM Visit Args (Except Value Value))}
    (hcd : ∀ f ∈ cd, ∀ v a, Tracked (f v a)) (p : Prog Visit Args) :
    Tracked (Swup.exec awaiting cd p) := by
  induction p with
  | ret v => exact pure _
  | throw e => exact pure _
  | request op next ih => exact (perform op).bind fun _ => ih
  | callDefault v a next ih =>
    refine bind ?_ fun r => ih r
    cases cd with
    | none => exact pure _
    | some f => exact hcd f rfl v a
  | async n tail ih =>
    cases awaiting
    · exact (defer tail).bind fun _ => pure _
    · exact ih

theorem callHandler (h : HandlerId) (v : Visit) (a : Args) :
    Tracked (Swup.callHandler impl h v a) :=
  (invoke _ _ _ _).bind fun _ => exec (by simp) _

theorem callNested (hs : List HandlerId) (d : HandlerId) :
    ∀ i v a, Tracked (Swup.callNested impl hs d i v a)
  | 0, v, a => callHandler impl d v a
  | i + 1, v, a => by
    simp only [Swup.callNested]
    split
    · exact callHandler impl d v a
    · exact (invoke _ _ _ _).bind fun _ => exec (by simpa using callNested hs d i) _

theorem callFn (f : Fn) (v : Visit) (a : Args) : Tracked (Swup.callFn impl f v a) := by
  cases f with
  | handler h => exact callHandler impl h v a
  | nested hs d i => exact callNested impl hs d i v a

theorem settle (out : Except Value Value) : Tracked (Swup.settle out : TriggerM Visit Args Value) := by
  cases out with
  | ok v => exact pure _
  | error e => exact throw e

theorem removeOnce (r : HookRegistration) :
    Tracked (Swup.removeOnce r : TriggerM Visit Args Unit) := by
  unfold Swup.removeOnce
  split
  · exact unregister _ _
  · exact pure _

theorem warnIfPromise (hook : HookName) (result : Value) :
    Tracked (Swup.warnIfPromise hook result : TriggerM Visit Args Unit) := by
  unfold Swup.warnIfPromise
  split
  · exact warn _
  · exact pure _

theorem defaultOf (r : HookRegistration) :
    ∀ f ∈ r.defaultHandler.map (Swup.callFn impl), ∀ v a, Tracked (f v a) := by
  simpa using fun f _ => callFn impl f

theorem runAsPromise (v : Visit) (a : Args) (r : HookRegistration) :
    Tracked (Swup.runAsPromise impl v a r) :=
  (invoke _ _ _ _).bind fun _ => (exec (defaultOf impl r) _).bind fun out =>
    (returned _ _).bind fun _ => settle out

theorem run (v : Visit) (a : Args) (rs : List HookRegistration) :
    Tracked (Swup.run impl v a rs) := by
  induction rs with
  | nil => exact pure _
  | cons r rs ih =>
    exact (runAsPromise impl v a r).bind fun _ => (removeOnce r).bind fun _ =>
      ih.bind fun _ => pure _

theorem invokeSync (v : Visit) (a : Args) (r : HookRegistration) :
    Tracked (Swup.invokeSync impl v a r) :=
  (invoke _ _ _ _).bind fun _ => (exec (defaultOf impl r) _).bind fun out =>
    (returned _ _).bind fun _ => (settle out).bind fun result =>
      (warnIfPromise _ result).bind fun _ => pure _

theorem runSync (v : Visit) (a : Args) (rs : List HookRegistration) :
    Tracked (Swup.runSync impl v a rs) := by
  induction rs with
  | nil => exact pure _
  | cons r rs ih =>
    exact (invokeSync impl v a r).bind fun _ => (removeOnce r).bind fun _ =>
      ih.bind fun _ => pure _

theorem call (v : Visit) (hook : HookName) (a : Args) (d : Option HandlerId) :
    Tracked (Swup.call impl v hook a d) :=
  (getHandlers hook d).bind fun _ => (run impl v a _).bind fun _ =>
    (run impl v a _).bind fun _ => (run impl v a _).bind fun _ =>
      (dispatchDomEvent _ _ _).bind fun _ => pure _

theorem callSync (v : Visit) (hook : HookName) (a : Args) (d : Option HandlerId) :
    Tracked (Swup.callSync impl v hook a d) :=
  (getHandlers hook d).bind fun _ => (runSync impl v a _).bind fun _ =>
    (runSync impl v a _).bind fun _ => (runSync impl v a _).bind fun _ =>
      (dispatchDomEvent _ _ _).bind fun _ => pure _

end Semantics

end Tracked

end Swup
