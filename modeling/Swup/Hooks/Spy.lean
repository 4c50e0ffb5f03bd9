import Swup.Hooks.Frame

/-!
# Swup hooks - What a spy sees of a run

A spy looks at one kind of event in the trace through a projection.
{lit}`Emits proj x L` says that {lit}`x` never throws and, from every world,
appends events whose projection is {lit}`L`; {lit}`EmitsAll` drops the first
half, for runs that may stop at a handler's exception.  Both are closed under
bind, so the events of a trigger are computed from those of its parts.

Main results:

- Theorem {lit}`Emits.exec_nil`: a handler program whose default handler shows
  the spy nothing shows it nothing beyond its own registry calls.
- Theorem {lit}`Emits.callNested_nil`: the same for the whole replace chain.
-/

namespace Swup

variable {Visit Args : Type}

/-- What a spy looking through {lit}`proj` saw of a run. -/
def observed {β α : Type} (proj : Event Visit Args → Option β) (w : World Visit Args)
    (res : EStateM.Result Value (World Visit Args) α) : List β :=
  (appended w res).filterMap proj

theorem observed_bind {β α γ : Type} {proj : Event Visit Args → Option β}
    {x : TriggerM Visit Args α} {f : α → TriggerM Visit Args γ} {w w1 : World Visit Args} {a : α}
    (hx : Tracked x) (hf : Tracked (f a)) (hrun : x.run w = .ok a w1) :
    observed proj w ((x >>= f).run w) =
      observed proj w (x.run w) ++ observed proj w1 ((f a).run w1) := by
  simp [observed, Tracked.appended_bind hx hf hrun]

/-- From every world, {lit}`x` returns without throwing, and the spy sees {lit}`L`. -/
structure Emits {β α : Type} (proj : Event Visit Args → Option β) (x : TriggerM Visit Args α)
    (L : List β) : Prop where
  tracked : Tracked x
  emits : ∀ w, ∃ a w', x.run w = .ok a w' ∧ observed proj w (x.run w) = L

/-- From every world, the spy sees {lit}`L` of {lit}`x`, whether it returns or throws. -/
structure EmitsAll {β α : Type} (proj : Event Visit Args → Option β) (x : TriggerM Visit Args α)
    (L : List β) : Prop where
  tracked : Tracked x
  emits : ∀ w, observed proj w (x.run w) = L

namespace Emits

variable {β : Type} {proj : Event Visit Args → Option β}

theorem pure {α : Type} (a : α) : Emits proj (Pure.pure a : TriggerM Visit Args α) [] :=
  ⟨Tracked.pure a, fun w => ⟨a, w, rfl, by simp [observed, appended]⟩⟩

theorem bind {α γ : Type} {x : TriggerM Visit Args α} {f : α → TriggerM Visit Args γ}
    {L1 L2 : List β} (hx : Emits proj x L1) (hf : ∀ a, Emits proj (f a) L2) :
    Emits proj (x >>= f) (L1 ++ L2) := by
  refine ⟨hx.tracked.bind fun a => (hf a).tracked, fun w => ?_⟩
  obtain ⟨a, w1, hrun, hL1⟩ := hx.emits w
  obtain ⟨b, w2, hrun2, hL2⟩ := (hf a).emits w1
  refine ⟨b, w2, by rw [run_bind, hrun]; exact hrun2, ?_⟩
  rw [observed_bind hx.tracked (hf a).tracked hrun, hL1, hL2]

theorem bind_nil {α γ : Type} {x : TriggerM Visit Args α} {f : α → TriggerM Visit Args γ}
    {L : List β} (hx : Emits proj x []) (hf : ∀ a, Emits proj (f a) L) :
    Emits proj (x >>= f) L := by
  simpa using hx.bind hf

theorem record (proj : Event Visit Args → Option β) (e : Event Visit Args) (he : e.call? = none) :
    Emits proj (World.record e) (proj e).toList :=
  ⟨Tracked.record he, fun w => ⟨(), _, rfl, by cases h : proj e <;> simp [observed, appended, h]⟩⟩

theorem perform (op : Hooks.Op) (hreq : proj (.request op) = none) :
    Emits proj (World.perform op : TriggerM Visit Args Unit) [] :=
  ⟨Tracked.perform op, fun w => ⟨(), _, rfl, by simp [observed, appended, hreq]⟩⟩

theorem defer (p : Prog Visit Args) : Emits proj (World.defer p) [] :=
  ⟨Tracked.defer p, fun w => ⟨(), _, rfl, by simp [observed, appended]⟩⟩

theorem warnIfPromise (hook : HookName) (result : Value) :
    Emits proj (Swup.warnIfPromise hook result : TriggerM Visit Args Unit) [] :=
  ⟨Tracked.warnIfPromise hook result, fun w =>
    ⟨(), _, warnIfPromise_run hook result w, by
      rw [warnIfPromise_run]
      split <;> simp [observed, appended]⟩⟩

theorem removeOnce (r : HookRegistration) :
    Emits proj (Swup.removeOnce r : TriggerM Visit Args Unit)
      (if r.once then (proj (.unregister r.hook r.handler)).toList else []) := by
  refine ⟨Tracked.removeOnce r, fun w => ?_⟩
  unfold Swup.removeOnce
  split
  · exact ⟨(), _, rfl, by cases h : proj (.unregister r.hook r.handler) <;> simp [observed, appended, h]⟩
  · exact ⟨(), _, rfl, by simp [observed, appended]⟩

theorem toAll {α : Type} {x : TriggerM Visit Args α} {L : List β} (hx : Emits proj x L) :
    EmitsAll proj x L :=
  ⟨hx.tracked, fun w => by obtain ⟨_, _, -, h⟩ := hx.emits w; exact h⟩

/-- A program whose default handler shows the spy nothing shows it nothing, when
the spy ignores registry calls. -/
theorem exec_nil (hreq : ∀ op, proj (.request op) = none) {awaiting : Bool}
    {cd : Option (Visit → Args → TriggerM Visit Args (Except Value Value))}
    (hcd : ∀ f ∈ cd, ∀ v a, Emits proj (f v a) []) (p : Prog Visit Args) :
    Emits proj (exec awaiting cd p) [] := by
  induction p with
  | ret v => exact pure _
  | throw e => exact pure _
  | request op next ih => exact (perform op (hreq op)).bind_nil fun _ => ih
  | callDefault v a next ih =>
    refine Emits.bind_nil ?_ fun r => ih r
    cases cd with
    | none => exact pure _
    | some f => exact hcd f rfl v a
  | async n tail ih =>
    cases awaiting
    · exact (defer tail).bind_nil fun _ => pure _
    · exact ih

end Emits

namespace EmitsAll

variable {β : Type} {proj : Event Visit Args → Option β}

theorem settle (out : Except Value Value) :
    EmitsAll proj (Swup.settle out : TriggerM Visit Args Value) [] := by
  cases out with
  | ok v => exact (Emits.pure v).toAll
  | error e => exact ⟨Tracked.throw e, fun w => by simp [observed, appended]⟩

/-- A rest that shows nothing adds nothing, whether or not the first part throws. -/
theorem bind_quiet {α γ : Type} {x : TriggerM Visit Args α} {f : α → TriggerM Visit Args γ}
    {L : List β} (hx : EmitsAll proj x L) (hf : ∀ a, EmitsAll proj (f a) []) :
    EmitsAll proj (x >>= f) L := by
  refine ⟨hx.tracked.bind fun a => (hf a).tracked, fun w => ?_⟩
  have hL := hx.emits w
  cases hrun : x.run w with
  | ok a w1 =>
    rw [observed_bind hx.tracked (hf a).tracked hrun, hL, (hf a).emits, List.append_nil]
  | error e w1 =>
    rw [hrun] at hL
    rwa [run_bind, hrun]

end EmitsAll

/-- From every world, the spy sees of {lit}`x` a prefix of {lit}`L`, whether it
returns or throws, and all of {lit}`L` when it returns. -/
structure EmitsUpTo {β α : Type} (proj : Event Visit Args → Option β) (x : TriggerM Visit Args α)
    (L : List β) : Prop where
  tracked : Tracked x
  isPrefix : ∀ w, observed proj w (x.run w) <+: L
  complete : ∀ w a w', x.run w = .ok a w' → observed proj w (x.run w) = L

theorem EmitsAll.upTo {β α : Type} {proj : Event Visit Args → Option β} {x : TriggerM Visit Args α}
    {L : List β} (hx : EmitsAll proj x L) : EmitsUpTo proj x L :=
  ⟨hx.tracked, fun w => hx.emits w ▸ List.prefix_refl L, fun w _ _ _ => hx.emits w⟩

/-- A part that throws shows a prefix of its own list; one that returns shows
all of it, followed by what the rest shows. -/
theorem EmitsUpTo.bind {β α γ : Type} {proj : Event Visit Args → Option β}
    {x : TriggerM Visit Args α} {f : α → TriggerM Visit Args γ} {L1 L2 : List β}
    (hx : EmitsUpTo proj x L1) (hf : ∀ a, EmitsUpTo proj (f a) L2) :
    EmitsUpTo proj (x >>= f) (L1 ++ L2) := by
  refine ⟨hx.tracked.bind fun a => (hf a).tracked, fun w => ?_, fun w b w' h => ?_⟩
  · cases hrun : x.run w with
    | ok a w1 =>
      rw [observed_bind hx.tracked (hf a).tracked hrun, hx.complete w a w1 hrun,
        List.prefix_append_right_inj]
      exact (hf a).isPrefix w1
    | error e w1 =>
      have hthrow : (x >>= f).run w = .error e w1 := by rw [run_bind, hrun]
      have hpre := hx.isPrefix w
      rw [hrun] at hpre
      rw [hthrow]
      exact hpre.trans (List.prefix_append _ _)
  · obtain ⟨a, w1, h1, h2⟩ := run_bind_eq_ok h
    rw [observed_bind hx.tracked (hf a).tracked h1, hx.complete w a w1 h1, (hf a).complete w1 b w' h2]

section Semantics

variable (impl : HandlerId → Visit → Args → Option Fn → Prog Visit Args)
variable {β : Type} {proj : Event Visit Args → Option β}

/-- The replace chain shows nothing to a spy that ignores calls of handler
functions and registry calls. -/
theorem Emits.callNested_nil (hinv : ∀ h v a d, proj (.invoke h v a d) = none)
    (hreq : ∀ op, proj (.request op) = none) (hs : List HandlerId) (d : HandlerId) :
    ∀ k v a, Emits proj (callNested impl hs d k v a) []
  | 0, v, a => by
    simpa [hinv] using (Emits.record proj (.invoke d v a none) rfl).bind fun _ =>
      Emits.exec_nil hreq (by simp) _
  | k + 1, v, a => by
    simp only [callNested]
    split
    · simpa [hinv] using (Emits.record proj (.invoke d v a none) rfl).bind fun _ =>
        Emits.exec_nil hreq (by simp) _
    · simpa [hinv] using (Emits.record proj (.invoke _ v a _) rfl).bind fun _ =>
        Emits.exec_nil hreq (by simpa using Emits.callNested_nil hinv hreq hs d k) _

theorem Emits.callFn_nil (hinv : ∀ h v a d, proj (.invoke h v a d) = none)
    (hreq : ∀ op, proj (.request op) = none) (f : Fn) (v : Visit) (a : Args) :
    Emits proj (callFn impl f v a) [] := by
  cases f with
  | handler h =>
    simpa [hinv] using (Emits.record proj (.invoke h v a none) rfl).bind fun _ =>
      Emits.exec_nil hreq (by simp) _
  | nested hs d k => exact Emits.callNested_nil impl hinv hreq hs d k v a

/-- The run of a registration's handler shows nothing to a spy that ignores calls
of handler functions and registry calls. -/
theorem Emits.handlerRun_nil (hinv : ∀ h v a d, proj (.invoke h v a d) = none)
    (hreq : ∀ op, proj (.request op) = none) (awaiting : Bool) (v : Visit) (a : Args)
    (r : HookRegistration) :
    Emits proj (World.record (.invoke r.handler v a r.defaultHandler) >>= fun _ =>
      exec awaiting (r.defaultHandler.map (callFn impl)) (impl r.handler v a r.defaultHandler)) [] := by
  simpa [hinv] using (Emits.record proj (.invoke r.handler v a r.defaultHandler) rfl).bind
    fun _ => Emits.exec_nil hreq (by simpa using fun f _ => Emits.callFn_nil impl hinv hreq f) _

/-- {lit}`runAsPromise`, regrouped: the handler's own run, then its outcome. -/
theorem runAsPromise_eq (v : Visit) (a : Args) (r : HookRegistration) :
    runAsPromise impl v a r =
      (World.record (.invoke r.handler v a r.defaultHandler) >>= fun _ =>
        exec true (r.defaultHandler.map (callFn impl)) (impl r.handler v a r.defaultHandler)) >>=
        fun out => World.record (.returned r out) >>= fun _ => settle out := by
  simp only [runAsPromise, bind_assoc]

/-- {lit}`invokeSync`, regrouped the same way. -/
theorem invokeSync_eq (v : Visit) (a : Args) (r : HookRegistration) :
    invokeSync impl v a r =
      (World.record (.invoke r.handler v a r.defaultHandler) >>= fun _ =>
        exec false (r.defaultHandler.map (callFn impl)) (impl r.handler v a r.defaultHandler)) >>=
        fun out => World.record (.returned r out) >>= fun _ => settle out >>= fun result =>
          warnIfPromise r.hook result >>= fun _ => pure result := by
  simp only [invokeSync, bind_assoc]

/-- A once removal calls no handler. -/
theorem Emits.removeOnce_invoked (r : HookRegistration) :
    Emits Event.invoked? (Swup.removeOnce r : TriggerM Visit Args Unit) [] := by
  simpa [Event.invoked?] using (removeOnce r : Emits Event.invoked? _ _)

/-- The call of a registration's handler, awaited or not, followed by the record
and the settling of its outcome, shows a spy of handler calls what the call of
its handler shows. -/
theorem EmitsAll.handlerCall (v : Visit) (a : Args) (r : HookRegistration) {L : List HandlerId}
    (hcall : ∀ awaiting, Emits Event.invoked?
      (World.record (.invoke r.handler v a r.defaultHandler) >>= fun _ =>
        exec awaiting (r.defaultHandler.map (callFn impl)) (impl r.handler v a r.defaultHandler)) L) :
    EmitsAll Event.invoked? (runAsPromise impl v a r) L ∧
      EmitsAll Event.invoked? (invokeSync impl v a r) L := by
  rw [runAsPromise_eq, invokeSync_eq]
  exact ⟨(hcall true).toAll.bind_quiet fun out =>
      (Emits.record _ (.returned _ _) rfl).toAll.bind_quiet fun _ => EmitsAll.settle out,
    (hcall false).toAll.bind_quiet fun out =>
      (Emits.record _ (.returned _ _) rfl).toAll.bind_quiet fun _ =>
        (EmitsAll.settle out).bind_quiet fun _ =>
          (Emits.warnIfPromise _ _).toAll.bind_quiet fun _ => (Emits.pure _).toAll⟩

/-- One step of the loops of {lit}`run` and {lit}`runSync`: the call of the
registration's handler, awaited or not, then the rest of the loop. -/
theorem EmitsUpTo.run_cons (v : Visit) (a : Args) (r : HookRegistration) (rs : List HookRegistration)
    {L Lrest : List HandlerId}
    (hcall : ∀ awaiting, Emits Event.invoked?
      (World.record (.invoke r.handler v a r.defaultHandler) >>= fun _ =>
        exec awaiting (r.defaultHandler.map (callFn impl)) (impl r.handler v a r.defaultHandler)) L)
    (hrest : EmitsUpTo Event.invoked? (run impl v a rs) Lrest ∧
      EmitsUpTo Event.invoked? (runSync impl v a rs) Lrest) :
    EmitsUpTo Event.invoked? (run impl v a (r :: rs)) (L ++ Lrest) ∧
      EmitsUpTo Event.invoked? (runSync impl v a (r :: rs)) (L ++ Lrest) := by
  have hfirst := EmitsAll.handlerCall impl v a r hcall
  have hloop := fun (first : TriggerM Visit Args Value) (loop : TriggerM Visit Args (List Value))
      (h1 : EmitsUpTo Event.invoked? first L) (h2 : EmitsUpTo Event.invoked? loop Lrest) =>
    by simpa using h1.bind fun res => (Emits.removeOnce_invoked r).toAll.upTo.bind fun _ =>
      h2.bind fun results => (Emits.pure (res :: results)).toAll.upTo
  exact ⟨hloop _ _ hfirst.1.upTo hrest.1, hloop _ _ hfirst.2.upTo hrest.2⟩

/-- The loops of {lit}`run` and {lit}`runSync` over registrations without a
default handler call their handlers in order: a prefix of them, and all of them
when the loop returns. -/
theorem run_invokes_upTo (v : Visit) (a : Args) :
    ∀ rs : List HookRegistration, (∀ r ∈ rs, r.defaultHandler = none) →
      EmitsUpTo Event.invoked? (run impl v a rs) (rs.map (·.handler)) ∧
        EmitsUpTo Event.invoked? (runSync impl v a rs) (rs.map (·.handler))
  | [], _ => ⟨(Emits.pure _).toAll.upTo, (Emits.pure _).toAll.upTo⟩
  | r :: rs, hrs => by
    have hcall : ∀ awaiting, Emits Event.invoked?
        (World.record (.invoke r.handler v a r.defaultHandler) >>= fun _ =>
          exec awaiting (r.defaultHandler.map (callFn impl)) (impl r.handler v a r.defaultHandler))
        [r.handler] := fun awaiting => by
      rw [hrs r (List.mem_cons_self _ _)]
      simpa [Event.invoked?] using (Emits.record Event.invoked? (.invoke r.handler v a none) rfl).bind
        fun _ => Emits.exec_nil (fun _ => rfl) (by simp) _
    exact EmitsUpTo.run_cons impl v a r rs hcall
      (run_invokes_upTo v a rs fun r' hr' => hrs r' (List.mem_cons_of_mem r hr'))

/-- The loops of a trigger after {lit}`getHandlers`, when the before and after
groups have no default handler and the main handler's run calls {lit}`L`,
awaited or not: they call a prefix of the before group's handlers, then
{lit}`L`, then the after group's, and all of them when the trigger returns. -/
theorem triggerLoops_invokes (v : Visit) (hook : HookName) (a : Args) (hs : Handlers)
    {L : List HandlerId} (hgroups : ∀ r ∈ hs.before ++ hs.after, r.defaultHandler = none)
    (hmain : EmitsUpTo Event.invoked? (run impl v a hs.handler) L ∧
      EmitsUpTo Event.invoked? (runSync impl v a hs.handler) L) :
    EmitsUpTo Event.invoked? (do
      let _ ← run impl v a hs.before
      let results ← run impl v a hs.handler
      let _ ← run impl v a hs.after
      dispatchDomEvent v hook a
      pure (results.headD .undefined))
        (hs.before.map (·.handler) ++ L ++ hs.after.map (·.handler)) ∧
    EmitsUpTo Event.invoked? (do
      let _ ← runSync impl v a hs.before
      let results ← runSync impl v a hs.handler
      let _ ← runSync impl v a hs.after
      dispatchDomEvent v hook a
      pure (results.headD .undefined))
        (hs.before.map (·.handler) ++ L ++ hs.after.map (·.handler)) := by
  have hbefore := run_invokes_upTo impl v a hs.before fun r hr => hgroups r (List.mem_append_left _ hr)
  have hafter := run_invokes_upTo impl v a hs.after fun r hr => hgroups r (List.mem_append_right _ hr)
  have hdispatch : ∀ results : List Value, EmitsUpTo Event.invoked? (dispatchDomEvent v hook a >>=
      fun _ => (pure (results.headD .undefined) : TriggerM Visit Args Value)) [] := fun _ =>
    ((Emits.record Event.invoked? (.dispatch ("swup:" ++ hook) hook a v) rfl).bind_nil
      fun _ => Emits.pure _).toAll.upTo
  constructor
  · simpa using hbefore.1.bind fun _ => hmain.1.bind fun results => hafter.1.bind fun _ =>
      hdispatch results
  · simpa using hbefore.2.bind fun _ => hmain.2.bind fun results => hafter.2.bind fun _ =>
      hdispatch results

end Semantics

end Swup
