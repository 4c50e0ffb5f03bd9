import Swup.Hooks.WellFormed

/-!
# Swup hooks - Triggers one after another

{lit}`Swup.Hooks.Concurrent` lets the steps of the triggers in flight and the
registry calls of any code interleave freely.  This module connects that model
to the sequential {lit}`call` of {lit}`Swup.Hooks.Trigger`, in which a handler's
registry calls happen while the trigger runs it.  In a serial schedule each
trigger runs alone, from its start to the resolution of its last handler; the
registry calls a handler makes come while the trigger awaits that handler, and
those of other code come between triggers.  On such a schedule the concurrent
system calls the handlers of the sequential program, in the same order, and
leaves the same registry and console.

Handlers are scripts ({lit}`scripted`): handler {lit}`h` makes the registry
calls {lit}`ops h` and returns {lit}`undefined`.

Main results:

- Theorem {lit}`run_scripted`: the sequential {lit}`run` of scripted handlers
  returns, calls them in order, and leaves each handler's registry calls
  followed by the removal of its once registration.
- Theorem {lit}`System.run_scriptedSolo`: the same trigger, alone in the
  concurrent system.
- Theorem {lit}`System.solo_call`: one trigger alone, whose handlers make no
  registry call, calls the handlers of the sequential {lit}`call`.
- Theorem {lit}`System.serial_refines_sequential`: a serial schedule of the
  concurrent system is the sequential program of its registry calls and
  triggers.
- Theorem {lit}`System.serial_once_at_most_once`: in a serial schedule, a once
  registration runs at most once, as long as nothing registers its handler
  for the hook again.
- Theorem {lit}`System.serial_once_exactly_once`: and exactly once, for a
  registration made without {lit}`replace`, when the schedule starts with a
  trigger of its hook.

Current gaps:

- A handler that throws or rejects stops the sequential program but only its
  own trigger in the concurrent system; scripts neither throw nor reject, nor
  call their default handler.  A once handler that throws is not removed
  ({lit}`Swup.Hooks.OnceRemoval`), so the once results need handlers that
  return.
- A replacement registered with {lit}`once` runs as the main handler, whose
  registration has no {lit}`once` flag, so the two once results say nothing
  about it; {lit}`Swup.Hooks.OnceRemoval` shows it running twice.
-/

namespace Swup

/-! ## Scripted handlers and the sequential program -/

section Sequential

variable {Visit Args : Type}

/-- A handler program that makes the registry calls {lit}`ops`, in order, and
returns {lit}`undefined`. -/
def Prog.script (ops : List Hooks.Op) : Prog Visit Args :=
  ops.foldr .request (.ret .undefined)

/-- Handlers that are scripts: handler {lit}`h` makes the registry calls
{lit}`ops h`, whatever its arguments. -/
def scripted (ops : HandlerId → List Hooks.Op) :
    HandlerId → Visit → Args → Option Fn → Prog Visit Args :=
  fun h _ _ _ => Prog.script (ops h)

/-- What happens between triggers, or a whole trigger. -/
inductive Segment where
  /-- A registry call by code outside any handler. -/
  | request (op : Hooks.Op)
  /-- {lit}`call(hook, args, defaultHandler)`, awaited to its end. -/
  | call (hook : HookName) (defaultHandler : Option HandlerId)
  deriving DecidableEq, Repr

/-- The sequential program of a schedule: its registry calls and its awaited
triggers, one after another. -/
def sequential (impl : HandlerId → Visit → Args → Option Fn → Prog Visit Args) (v : Visit)
    (a : Args) : List Segment → TriggerM Visit Args Unit
  | [] => pure ()
  | .request op :: segs => do
    World.perform op
    sequential impl v a segs
  | .call hook d :: segs => do
    let _ ← call impl v hook a d
    sequential impl v a segs

/-- The registry a scripted handler's registration leaves: the handler's
registry calls, then the removal of the registration if it has {lit}`once`
set. -/
def Hooks.afterScript (ops : HandlerId → List Hooks.Op) (s : Hooks) (r : HookRegistration) :
    Hooks :=
  (s.replay (ops r.handler)).removeOnce r

/-- A script makes its registry calls and returns {lit}`undefined`. -/
theorem exec_script (awaiting : Bool)
    (cd : Option (Visit → Args → TriggerM Visit Args (Except Value Value))) :
    ∀ (ops : List Hooks.Op) (w : World Visit Args),
      (exec awaiting cd (Prog.script ops)).run w =
        .ok (.ok .undefined)
          { w with hooks := w.hooks.replay ops, trace := w.trace ++ ops.map .request }
  | [], w => by simp [Prog.script, exec]
  | op :: ops, w => by
    simp only [Prog.script, List.foldr_cons, exec, run_bind, World.perform_run]
    rw [← Prog.script, exec_script awaiting cd ops]
    simp [Hooks.replay_cons]

theorem sequential_tracked (impl : HandlerId → Visit → Args → Option Fn → Prog Visit Args)
    (v : Visit) (a : Args) : ∀ segs, Tracked (sequential impl v a segs)
  | [] => Tracked.pure ()
  | .request op :: segs => (Tracked.perform op).bind fun _ => sequential_tracked impl v a segs
  | .call hook d :: segs =>
    (Tracked.call impl v hook a d).bind fun _ => sequential_tracked impl v a segs

/-- One registration of {lit}`run`, with a scripted handler: its call, its
registry calls, and the removal of a once registration. -/
theorem runOne_scripted (ops : HandlerId → List Hooks.Op) (v : Visit) (a : Args)
    (r : HookRegistration) (w : World Visit Args) :
    ∃ w1 : World Visit Args,
      (runAsPromise (scripted ops) v a r >>= fun res => removeOnce r >>= fun _ => pure res).run w =
        .ok .undefined w1 ∧ w1.hooks = Hooks.afterScript ops w.hooks r ∧
      observed Event.invoked? w
        (.ok Value.undefined w1 : EStateM.Result Value (World Visit Args) Value) = [r.handler] := by
  simp only [runAsPromise, scripted, run_bind, World.record_run, exec_script, settle_ok, run_pure]
  unfold removeOnce Hooks.afterScript Hooks.removeOnce
  cases r.once <;> simp [observed, appended, Event.invoked?]

/-- {lit}`run` with scripted handlers returns, calls them in order, and leaves
the registry of each handler's registry calls followed by its once removal. -/
theorem run_scripted (ops : HandlerId → List Hooks.Op) (v : Visit) (a : Args) :
    ∀ (rs : List HookRegistration) (w : World Visit Args), ∃ w',
      (run (scripted ops) v a rs).run w = .ok (rs.map fun _ => .undefined) w' ∧
      w'.hooks = rs.foldl (Hooks.afterScript ops) w.hooks ∧
      observed Event.invoked? w ((run (scripted ops) v a rs).run w) = rs.map (·.handler)
  | [], w => ⟨w, rfl, rfl, by simp [observed, appended, run]⟩
  | r :: rs, w => by
    obtain ⟨w1, h1, hh1, ho1⟩ := runOne_scripted ops v a r w
    obtain ⟨w', hrun, hhooks, hobs⟩ := run_scripted ops v a rs w1
    have hgroup : run (scripted ops) v a (r :: rs) =
        (runAsPromise (scripted ops) v a r >>= fun res => removeOnce r >>= fun _ => pure res) >>=
          fun res => run (scripted ops) v a rs >>= fun results => pure (res :: results) := by
      simp only [run, bind_assoc, pure_bind]
    have hx : Tracked (runAsPromise (scripted ops) v a r >>= fun res => removeOnce r >>= fun _ =>
        pure res) :=
      (Tracked.runAsPromise _ v a r).bind fun res => (Tracked.removeOnce r).bind fun _ =>
        Tracked.pure res
    have hrest : (run (scripted ops) v a rs >>= fun results => pure (.undefined :: results)).run w1 =
        .ok ((r :: rs).map fun _ => .undefined) w' := by
      rw [run_bind, hrun]; rfl
    refine ⟨w', by rw [hgroup, run_bind, h1]; exact hrest, by rw [List.foldl_cons, ← hh1, hhooks], ?_⟩
    rw [hgroup, observed_bind hx ((Tracked.run _ v a rs).bind fun _ => Tracked.pure _) h1, hrest, h1,
      ho1]
    rw [hrun] at hobs
    exact congrArg (r.handler :: ·) hobs

/-- {lit}`call` with scripted handlers returns, calls the registrations
{lit}`getHandlers` gave it, and leaves their registry calls and once removals. -/
theorem call_scripted (ops : HandlerId → List Hooks.Op) (v : Visit) (hook : HookName) (a : Args)
    (d : Option HandlerId) (w : World Visit Args) :
    ∃ b w', (call (scripted ops) v hook a d).run w = .ok b w' ∧
      w'.hooks = (w.hooks.getHandlers hook d).1.direct.foldl (Hooks.afterScript ops)
        (w.hooks.getHandlers hook d).2 ∧
      observed Event.invoked? w (.ok b w' : EStateM.Result Value (World Visit Args) Value) =
        (w.hooks.getHandlers hook d).1.direct.map (·.handler) := by
  obtain ⟨w1, h1, hh1, ho1⟩ := run_scripted ops v a (w.hooks.getHandlers hook d).1.before
    { w with hooks := (w.hooks.getHandlers hook d).2 }
  obtain ⟨w2, h2, hh2, ho2⟩ := run_scripted ops v a (w.hooks.getHandlers hook d).1.handler w1
  obtain ⟨w3, h3, hh3, ho3⟩ := run_scripted ops v a (w.hooks.getHandlers hook d).1.after w2
  have hrun : (call (scripted ops) v hook a d).run w = .ok
      (((w.hooks.getHandlers hook d).1.handler.map fun _ => Value.undefined).headD .undefined)
      { w3 with trace := w3.trace ++ [.dispatch ("swup:" ++ hook) hook a v] } := by
    simp only [call, run_bind, World.getHandlers_run, h1, h2, h3]
    rfl
  refine ⟨_, _, hrun, by simp [hh3, hh2, hh1, Handlers.direct, List.foldl_append], ?_⟩
  obtain ⟨n1, ht1, -⟩ := Tracked.run (scripted ops) v a (w.hooks.getHandlers hook d).1.before
    { w with hooks := (w.hooks.getHandlers hook d).2 }
  obtain ⟨n2, ht2, -⟩ := Tracked.run (scripted ops) v a (w.hooks.getHandlers hook d).1.handler w1
  obtain ⟨n3, ht3, -⟩ := Tracked.run (scripted ops) v a (w.hooks.getHandlers hook d).1.after w2
  rw [h1, final_ok] at ht1
  rw [h2, final_ok] at ht2
  rw [h3, final_ok] at ht3
  simp only [observed, appended, h1, h2, h3, final_ok, ht1, ht2, ht3, List.drop_left] at ho1 ho2 ho3
  simp [observed, appended, ht3, ht2, ht1, ho1, ho2, ho3, Handlers.direct, Event.invoked?]

end Sequential

/-! ## Serial schedules of the concurrent system -/

/-- Registration depends only on the registry. -/
theorem Hooks.registered_of_registry_eq {s t : Hooks} (h : t.registry = s.registry) {k : HookName}
    {x : HandlerId} (hreg : t.Registered k x) : s.Registered k x := by
  obtain ⟨l, hl, hm⟩ := hreg
  exact ⟨l, h ▸ hl, hm⟩

/-- Only registering {lit}`h` for {lit}`k` makes it registered there, also over
several registry calls. -/
theorem Hooks.registered_of_replay {k : HookName} {h : HandlerId} :
    ∀ {s : Hooks} (ops : List Hooks.Op), (∀ o, Hooks.Op.on k h o ∉ ops) →
      (s.replay ops).Registered k h → s.Registered k h
  | _, [], _, hreg => hreg
  | _, op :: ops, hops, hreg =>
    Hooks.registered_of_apply op (fun o hop => hops o (hop ▸ List.mem_cons_self _ _))
      (Hooks.registered_of_replay ops (fun o ho => hops o (List.mem_cons_of_mem _ ho)) hreg)

namespace System

theorem run_append (s : System) (acts more : List Action) :
    s.run (acts ++ more) = (s.run acts).run more :=
  List.foldl_append _ _ _ _

/-- Registry calls, one step each. -/
theorem run_requests (s : System) (ops : List Hooks.Op) :
    s.run (ops.map .request) = { s with hooks := s.hooks.replay ops } := by
  induction ops generalizing s with
  | nil => rfl
  | cons op ops ih => exact ih _

/-- Trigger {lit}`t` calls each registration of {lit}`rs`, the handler makes its
registry calls while the trigger awaits it, and its promise resolves. -/
def scriptSteps (ops : HandlerId → List Hooks.Op) (t : Nat) (rs : List HookRegistration) :
    List Action :=
  (rs.map fun r => .invoke t :: ((ops r.handler).map .request ++ [.resolve t])).flatten

/-- A trigger alone with scripted handlers: each call, the handler's registry
calls and the resolution call the next registration, apply the calls, and remove
the registration when it has {lit}`once` set. -/
theorem run_scriptedSolo (ops : HandlerId → List Hooks.Op) (t : Nat) (hook : HookName)
    (rs c : List HookRegistration) :
    ∀ (rest : List HookRegistration) (s : System) (i : Nat),
      s.tasks[t]? = some ⟨hook, rs, c, i, .ready⟩ → rs.drop i = rest →
      (s.run (scriptSteps ops t rest)).hooks = rest.foldl (Hooks.afterScript ops) s.hooks ∧
        (s.run (scriptSteps ops t rest)).invoked = s.invoked ++ rest.map (⟨t, hook, ·, true⟩)
  | [], s, i, _, _ => by simp [scriptSteps]
  | r :: rest, s, i, ht, hdrop => by
    have hr : rs[i]? = some r := by
      simpa [List.head?_drop] using congrArg List.head? hdrop
    have hlt : t < s.tasks.length := (List.getElem?_eq_some_iff.mp ht).1
    have ih := run_scriptedSolo ops t hook rs c rest
      { s with hooks := Hooks.afterScript ops s.hooks r,
               tasks := s.tasks.set t ⟨hook, rs, c, i + 1, .ready⟩,
               invoked := s.invoked ++ [⟨t, hook, r, true⟩] } (i + 1)
      (by simp [hlt]) (by rw [← List.tail_drop, hdrop]; rfl)
    have hsteps : scriptSteps ops t (r :: rest) =
        .invoke t :: ((ops r.handler).map .request ++ .resolve t :: scriptSteps ops t rest) := by
      simp [scriptSteps]
    rw [hsteps, run_cons, run_append, run_requests, run_cons]
    simp only [step, ht, hr, List.getElem?_set_self (by simpa using hlt), List.set_set]
    simpa [Hooks.afterScript] using ih

/-- A trigger that starts and runs alone with scripted handlers. -/
def triggerSteps (ops : HandlerId → List Hooks.Op) (s : System) (hook : HookName)
    (d : Option HandlerId) : List Action :=
  .call hook d :: scriptSteps ops s.tasks.length (s.hooks.getHandlers hook d).1.direct

theorem run_triggerSteps (ops : HandlerId → List Hooks.Op) (s : System) (hook : HookName)
    (d : Option HandlerId) :
    (s.run (triggerSteps ops s hook d)).hooks =
        (s.hooks.getHandlers hook d).1.direct.foldl (Hooks.afterScript ops)
          (s.hooks.getHandlers hook d).2 ∧
      (s.run (triggerSteps ops s hook d)).invoked =
        s.invoked ++ (s.hooks.getHandlers hook d).1.direct.map (⟨s.tasks.length, hook, ·, true⟩) :=
  run_scriptedSolo ops s.tasks.length hook _ (s.hooks.chain hook d) _ (s.step (.call hook d)) 0
    (by simp [step])
    (List.drop_zero _)

/-- A trigger that starts in a system with no trigger in flight and runs alone,
each handler resolving before the next is called. -/
def soloSteps (hook : HookName) (d : Option HandlerId) (n : Nat) : List Action :=
  .call hook d :: (List.replicate n [.invoke 0, .resolve 0]).flatten

/-- A trigger that runs alone, every handler resolving, calls the handlers of
the sequential {lit}`call` whose handlers return at once, in the same order, and
leaves the same registry and console. -/
theorem solo_call {Visit Args : Type} (w : World Visit Args) (v : Visit) (hook : HookName)
    (a : Args) (d : Option HandlerId) :
    let s := (⟨w.hooks, [], []⟩ : System).run
      (soloSteps hook d (w.hooks.getHandlers hook d).1.direct.length)
    s.hooks = (final ((call returnsUndefined v hook a d).run w)).hooks ∧
      s.invoked.map (·.registration.handler) =
        observed Event.invoked? w ((call returnsUndefined v hook a d).run w) := by
  have hsteps : soloSteps hook d (w.hooks.getHandlers hook d).1.direct.length =
      triggerSteps (fun _ => []) ⟨w.hooks, [], []⟩ hook d := by
    simp [soloSteps, triggerSteps, scriptSteps, List.map_const']
  obtain ⟨b, w', hrun, hh, ho⟩ := @call_scripted Visit Args (fun _ => []) v hook a d w
  obtain ⟨hsh, hsi⟩ := run_triggerSteps (fun _ => []) ⟨w.hooks, [], []⟩ hook d
  refine ⟨?_, ?_⟩
  · rw [hsteps, hsh, show returnsUndefined = scripted (fun _ => []) from rfl, hrun, final_ok, hh]
  · rw [hsteps, hsi, show returnsUndefined = scripted (fun _ => []) from rfl, hrun, ho]
    simp [Function.comp_def]

/-- The steps of a serial schedule from system {lit}`s`: a registry call is one
step, and a trigger starts and runs alone over the registrations
{lit}`getHandlers` gives it. -/
def serial (ops : HandlerId → List Hooks.Op) (s : System) : List Segment → List Action
  | [] => []
  | .request op :: segs => .request op :: serial ops (s.step (.request op)) segs
  | .call hook d :: segs =>
    triggerSteps ops s hook d ++ serial ops (s.run (triggerSteps ops s hook d)) segs

/-- From a system whose registry is the world's, a serial schedule and the
sequential program call the same handlers and leave the same registry. -/
theorem serial_sequential {Visit Args : Type} (ops : HandlerId → List Hooks.Op) (v : Visit)
    (a : Args) :
    ∀ (segs : List Segment) (s : System) (w : World Visit Args), s.hooks = w.hooks →
      ∃ w', (sequential (scripted ops) v a segs).run w = .ok () w' ∧
        (s.run (serial ops s segs)).hooks = w'.hooks ∧
        (s.run (serial ops s segs)).invoked.map (·.registration.handler) =
          s.invoked.map (·.registration.handler) ++
            observed Event.invoked? w (.ok () w' : EStateM.Result Value (World Visit Args) Unit)
  | [], s, w, hs => ⟨w, rfl, hs, by simp [serial, observed, appended]⟩
  | .request op :: segs, s, w, hs => by
    obtain ⟨w', hrun, hh, hi⟩ := serial_sequential ops v a segs (s.step (.request op))
      { w with hooks := w.hooks.apply op, trace := w.trace ++ [.request op] } (by simp [step, hs])
    have hseq : (sequential (scripted ops) v a (.request op :: segs)).run w = .ok () w' := by
      simp only [sequential, run_bind, World.perform_run]
      exact hrun
    have hobs : observed Event.invoked? w
        ((sequential (scripted ops) v a (.request op :: segs)).run w) = _ :=
      @observed_bind Visit Args _ _ _ Event.invoked? _ (fun _ => sequential (scripted ops) v a segs)
        _ _ _ (Tracked.perform op) (sequential_tracked _ v a segs) (World.perform_run op w)
    rw [hseq, World.perform_run, hrun] at hobs
    refine ⟨w', hseq, hh, ?_⟩
    simp only [serial, run_cons, hi, hobs]
    simp [step, observed, appended, Event.invoked?]
  | .call hook d :: segs, s, w, hs => by
    obtain ⟨b, w1, h1, hh1, ho1⟩ := call_scripted ops v hook a d w
    obtain ⟨hsh, hsi⟩ := run_triggerSteps ops s hook d
    obtain ⟨w', hrun, hh, hi⟩ := serial_sequential ops v a segs (s.run (triggerSteps ops s hook d))
      w1 (by rw [hsh, hh1, hs])
    have hseq : (sequential (scripted ops) v a (.call hook d :: segs)).run w = .ok () w' := by
      simp only [sequential, run_bind, h1]
      exact hrun
    have hobs : observed Event.invoked? w
        ((sequential (scripted ops) v a (.call hook d :: segs)).run w) = _ :=
      @observed_bind Visit Args _ _ _ Event.invoked? _ (fun _ => sequential (scripted ops) v a segs)
        _ _ _ (Tracked.call _ v hook a d) (sequential_tracked _ v a segs) h1
    rw [hseq, h1, hrun, ho1] at hobs
    refine ⟨w', hseq, by rw [serial, run_append]; exact hh, ?_⟩
    simp only [serial, run_append, hi, hsi, hobs, List.map_append, List.map_map, List.append_assoc, hs]
    rfl

/-- A serial schedule of the concurrent system, from a fresh start on a world's
registry, is the sequential program of the same registry calls and triggers: the
program returns, and the system has called the same handlers in the same order
and left the same registry and console. -/
theorem serial_refines_sequential {Visit Args : Type} (ops : HandlerId → List Hooks.Op)
    (w : World Visit Args) (v : Visit) (a : Args) (segs : List Segment) :
    let s0 : System := ⟨w.hooks, [], []⟩
    ∃ w', (sequential (scripted ops) v a segs).run w = .ok () w' ∧
      (s0.run (serial ops s0 segs)).hooks = w'.hooks ∧
      (s0.run (serial ops s0 segs)).invoked.map (·.registration.handler) =
        observed Event.invoked? w (.ok () w' : EStateM.Result Value (World Visit Args) Unit) := by
  obtain ⟨w', hrun, hh, hi⟩ := serial_sequential ops v a segs ⟨w.hooks, [], []⟩ w rfl
  exact ⟨w', hrun, hh, by simpa using hi⟩

/-! ## Once registrations in a serial schedule -/

section OnceCalls

variable {ops : HandlerId → List Hooks.Op} {k : HookName} {h : HandlerId}

/-- The calls a system has made of once registrations of handler {lit}`h`, by
triggers of hook {lit}`k`. -/
def onceCalls (s : System) (k : HookName) (h : HandlerId) : List Invocation :=
  s.invoked.filter fun e => e.hook == k && e.registration.once && e.registration.handler == h

/-- Scripted registrations whose handlers never register {lit}`h` for
{lit}`k` leave {lit}`h` registered there only if it was. -/
theorem registered_of_afterScripts (hops : ∀ h' o, Hooks.Op.on k h o ∉ ops h') :
    ∀ (rs : List HookRegistration) {s : Hooks},
      (rs.foldl (Hooks.afterScript ops) s).Registered k h → s.Registered k h
  | [], _, hreg => hreg
  | r :: rs, _, hreg =>
    Hooks.registered_of_replay _ (hops r.handler)
      (Hooks.registered_of_removeOnce (registered_of_afterScripts hops rs hreg))

/-- Once the once registration of {lit}`h` for {lit}`k` has run among scripted
registrations that never register {lit}`h` for {lit}`k`, {lit}`h` has no
registration there. -/
theorem not_registered_afterScripts (hops : ∀ h' o, Hooks.Op.on k h o ∉ ops h')
    {rs : List HookRegistration} {r : HookRegistration} (hr : r ∈ rs) (ho : r.once = true)
    (hk : r.hook = k) (hh : r.handler = h) (s : Hooks) :
    ¬ (rs.foldl (Hooks.afterScript ops) s).Registered k h := by
  obtain ⟨pre, post, rfl⟩ := List.append_of_mem hr
  intro hreg
  rw [List.foldl_append, List.foldl_cons] at hreg
  have hgone := Hooks.not_registered_off ((pre.foldl (Hooks.afterScript ops) s).replay (ops r.handler))
    r.hook r.handler
  simp only [Hooks.afterScript, Hooks.removeOnce, ho, if_true, hk, hh] at hgone hreg
  exact hgone (registered_of_afterScripts hops post hreg)

/-- The calls of once registrations of {lit}`h` for {lit}`k` among a trigger's
calls of a list whose once registrations have distinct handlers: at most one,
and none unless the list holds such a registration. -/
theorem onceCalls_length_le (t : Nat) (hook : HookName) (rs : List HookRegistration)
    (hnd : ((rs.filter (·.once)).map (·.handler)).Nodup) :
    ((rs.map (⟨t, hook, ·, true⟩)).filter fun e : Invocation =>
        e.hook == k && e.registration.once && e.registration.handler == h).length ≤
      if ∃ r ∈ rs, r.once = true ∧ r.handler = h ∧ hook = k then 1 else 0 := by
  rw [List.filter_map, List.length_map]
  simp only [Function.comp_def]
  split_ifs with hex
  · have hsub : List.Sublist
        ((rs.filter fun r => hook == k && r.once && r.handler == h).map (·.handler))
        ((rs.filter (·.once)).map (·.handler)) :=
      (List.monotone_filter_right _ fun {r} hr => by simp_all).map _
    have hall : ∀ x ∈ (rs.filter fun r => hook == k && r.once && r.handler == h).map (·.handler),
        x = h := by
      intro x hx
      simp only [List.mem_map, List.mem_filter, Bool.and_eq_true, beq_iff_eq] at hx
      obtain ⟨r, ⟨-, -, hh⟩, rfl⟩ := hx
      exact hh
    have hnd' := hnd.sublist hsub
    rw [List.eq_replicate_iff.mpr ⟨rfl, hall⟩, List.nodup_replicate, List.length_map] at hnd'
    exact hnd'
  · rw [Nat.le_zero, List.length_eq_zero, List.filter_eq_nil_iff]
    intro r hr
    simp only [Bool.and_eq_true, beq_iff_eq, not_and]
    exact fun ⟨hk, ho⟩ hh => hex ⟨r, hr, ho, hh, hk⟩

/-- A trigger run alone with scripts that never register {lit}`h` for {lit}`k`
adds a call of a once registration of {lit}`h` for {lit}`k` only when it finds
{lit}`h` registered there, and then leaves it unregistered. -/
theorem onceCalls_triggerSteps (hops : ∀ h' o, Hooks.Op.on k h o ∉ ops h') (s : System)
    (hook : HookName) (d : Option HandlerId) :
    (onceCalls (s.run (triggerSteps ops s hook d)) k h).length +
        (if (s.run (triggerSteps ops s hook d)).hooks.Registered k h then 1 else 0) ≤
      (onceCalls s k h).length + if s.hooks.Registered k h then 1 else 0 := by
  obtain ⟨hhooks, hinv⟩ := run_triggerSteps ops s hook d
  obtain ⟨hfound, hnd⟩ := Hooks.getHandlers_direct_once s.hooks hook d
  have hcalls := onceCalls_length_le (k := k) (h := h) s.tasks.length hook _ hnd
  simp only [onceCalls, hinv, List.filter_append, List.length_append, hhooks] at hcalls ⊢
  split_ifs at hcalls with hex
  · obtain ⟨r, hr, ho, hh, hk⟩ := hex
    obtain ⟨l, hl, hrl⟩ := hfound r hr ho
    have hgone := not_registered_afterScripts hops hr ho ((s.hooks.wellFormed _ l hl r hrl).1.trans hk) hh
      (s.hooks.getHandlers hook d).2
    have hreg : s.hooks.Registered k h := ⟨l, hk ▸ hl, Ledger.mem_handlers.mpr ⟨r, hrl, hh⟩⟩
    simp only [hgone, hreg, if_false, if_true]
    omega
  · have hback : (List.foldl (Hooks.afterScript ops) (s.hooks.getHandlers hook d).2
        (s.hooks.getHandlers hook d).1.direct).Registered k h → s.hooks.Registered k h :=
      fun hreg => Hooks.registered_of_registry_eq (Hooks.getHandlers_registry _ _ _)
        (registered_of_afterScripts hops _ hreg)
    rw [Nat.le_zero.mp hcalls, Nat.add_zero]
    by_cases hafter : (List.foldl (Hooks.afterScript ops) (s.hooks.getHandlers hook d).2
        (s.hooks.getHandlers hook d).1.direct).Registered k h
    · simp only [hafter, hback hafter, if_true, le_refl]
    · simp only [hafter, if_false]
      omega

/-- The steps of a serial schedule never raise the number of calls of once
registrations of {lit}`h` for {lit}`k`, counted with one more while {lit}`h`
is registered for {lit}`k`, when no registry call registers {lit}`h` for
{lit}`k`. -/
theorem onceCalls_serial (hops : ∀ h' o, Hooks.Op.on k h o ∉ ops h') :
    ∀ (segs : List Segment) (s : System), (∀ o, Segment.request (.on k h o) ∉ segs) →
      (onceCalls (s.run (serial ops s segs)) k h).length +
          (if (s.run (serial ops s segs)).hooks.Registered k h then 1 else 0) ≤
        (onceCalls s k h).length + if s.hooks.Registered k h then 1 else 0
  | [], s, _ => le_of_eq (by rw [serial, run_nil])
  | .request op :: segs, s, hsegs => by
    have hop : ∀ o, op ≠ .on k h o := fun o hop => hsegs o (hop ▸ List.mem_cons_self _ _)
    have ih := onceCalls_serial hops segs (s.step (.request op))
      fun o ho => hsegs o (List.mem_cons_of_mem _ ho)
    have hback : (s.step (.request op)).hooks.Registered k h → s.hooks.Registered k h :=
      Hooks.registered_of_apply op hop
    rw [serial, run_cons]
    refine ih.trans ?_
    simp only [onceCalls, step] at hback ⊢
    split_ifs <;> simp_all
  | .call hook d :: segs, s, hsegs => by
    rw [serial, run_append]
    exact (onceCalls_serial hops segs _ fun o ho => hsegs o (List.mem_cons_of_mem _ ho)).trans
      (onceCalls_triggerSteps hops s hook d)

/-- Steps only append to the handler calls made so far. -/
theorem invoked_prefix_run (s : System) (acts : List Action) : s.invoked <+: (s.run acts).invoked := by
  induction acts generalizing s with
  | nil => exact List.prefix_refl _
  | cons act acts ih =>
    refine List.IsPrefix.trans ?_ (ih (s.step act))
    rcases step_cases s act with hstep | ⟨_, _, hstep⟩ | ⟨_, _, _, _, _, _, -, -, hstep⟩ |
        ⟨_, _, _, _, -, -, -, -, -, -, hstep⟩ | ⟨_, _, _, -, -, hstep⟩ | ⟨_, -, hstep⟩ <;>
      simp only [hstep, List.prefix_refl, List.prefix_append]

/-- A trigger of {lit}`k` runs directly every registration of {lit}`k` made
without {lit}`replace`. -/
theorem mem_direct_of_not_replace {hooks : Hooks} {k : HookName} {l : Ledger}
    {r : HookRegistration} (hl : hooks.registry k = some l) (hr : r ∈ l.values)
    (hrep : r.replace = false) (d : Option HandlerId) : r ∈ (hooks.getHandlers k d).1.direct := by
  rw [Hooks.getHandlers_of_some hl]
  have hmem := (sortHandlers_before_after_perm l.values k d).symm.subset
    (List.mem_filter.mpr ⟨hr, by simp [hrep]⟩)
  simp only [List.mem_append] at hmem
  simp only [Handlers.direct, List.mem_append]
  tauto

end OnceCalls

/-- In a serial schedule whose handlers are scripts, with no registry call
registering {lit}`h` for {lit}`k` again, the triggers of {lit}`k` call a once
registration of {lit}`h` at most once in all, and not at all when {lit}`h` has
no registration for {lit}`k` at the start: without overlapping triggers and
with handlers that return, a once registration runs at most once.  A once
replacement is not among these calls: it runs as the main handler, whose
registration has no {lit}`once` flag. -/
theorem serial_once_at_most_once (ops : HandlerId → List Hooks.Op) (hooks : Hooks) (k : HookName)
    (h : HandlerId) (segs : List Segment) (hops : ∀ h' o, Hooks.Op.on k h o ∉ ops h')
    (hsegs : ∀ o, Segment.request (.on k h o) ∉ segs) :
    let s0 : System := ⟨hooks, [], []⟩
    (onceCalls (s0.run (serial ops s0 segs)) k h).length ≤ if hooks.Registered k h then 1 else 0 := by
  intro s0
  have hle := onceCalls_serial hops segs s0 hsegs
  rw [show (onceCalls s0 k h).length = 0 from rfl, Nat.zero_add] at hle
  exact le_trans (Nat.le_add_right _ _) hle

/-- Three triggers of {lit}`visit:start`, one after another. -/
def threeVisitStarts : List Segment :=
  [.call "visit:start" none, .call "visit:start" none, .call "visit:start" none]

/-- A fresh registry with handler 1 registered for {lit}`visit:start` with
{lit}`once`. -/
def onceStart : Hooks :=
  Hooks.init.«on» "visit:start" 1 { once := true }

/-- Its registration. -/
def onceRegistration : HookRegistration :=
  .ofOptions { once := true } 1 "visit:start" 1

theorem serial_once_at_most_once_threeVisitStarts :
    (∀ h' o, Hooks.Op.on "visit:start" 1 o ∉ (fun _ => [] : HandlerId → List Hooks.Op) h') ∧
      (∀ o, Segment.request (.on "visit:start" 1 o) ∉ threeVisitStarts) ∧
      let s0 : System := ⟨onceStart, [], []⟩
      (onceCalls (s0.run (serial (fun _ => []) s0 threeVisitStarts)) "visit:start" 1).length ≤
        if onceStart.Registered "visit:start" 1 then 1 else 0 :=
  have hsegs : ∀ o, Segment.request (.on "visit:start" 1 o) ∉ threeVisitStarts := by
    simp [threeVisitStarts]
  ⟨fun _ _ => List.not_mem_nil _, hsegs,
    serial_once_at_most_once _ _ "visit:start" 1 threeVisitStarts (fun _ _ => List.not_mem_nil _)
      hsegs⟩

/-- In a serial schedule whose handlers are scripts and whose first segment is
a trigger of {lit}`k`, a once registration of {lit}`k` made without
{lit}`replace` is called exactly once, however many triggers follow, as long as
no registry call registers its handler for {lit}`k` again. -/
theorem serial_once_exactly_once (ops : HandlerId → List Hooks.Op) (hooks : Hooks)
    {k : HookName} {l : Ledger} {r : HookRegistration}
    (hl : hooks.registry k = some l) (hr : r ∈ l.values) (ho : r.once = true)
    (hrep : r.replace = false) (d : Option HandlerId) (segs : List Segment)
    (hops : ∀ h' o, Hooks.Op.on k r.handler o ∉ ops h')
    (hsegs : ∀ o, Segment.request (.on k r.handler o) ∉ segs) :
    let s0 : System := ⟨hooks, [], []⟩
    (onceCalls (s0.run (serial ops s0 (.call k d :: segs))) k r.handler).length = 1 := by
  intro s0
  have hsegs' : ∀ o, Segment.request (.on k r.handler o) ∉ Segment.call k d :: segs :=
    fun o ho' => hsegs o ((List.mem_cons.mp ho').resolve_left nofun)
  have hle := onceCalls_serial hops _ s0 hsegs'
  have hreg : s0.hooks.Registered k r.handler := ⟨l, hl, Ledger.mem_handlers.mpr ⟨r, hr, rfl⟩⟩
  rw [show (onceCalls s0 k r.handler).length = 0 from rfl, Nat.zero_add, if_pos hreg] at hle
  have hfirst : 0 < (onceCalls (s0.run (triggerSteps ops s0 k d)) k r.handler).length := by
    rw [onceCalls, (run_triggerSteps ops s0 k d).2, List.length_pos]
    refine List.ne_nil_of_mem (List.mem_filter.mpr
      ⟨List.mem_append_right _ (List.mem_map_of_mem _ (mem_direct_of_not_replace hl hr hrep d)), ?_⟩)
    simp [ho]
  have hmono := ((invoked_prefix_run (s0.run (triggerSteps ops s0 k d))
    (serial ops (s0.run (triggerSteps ops s0 k d)) segs)).filter fun e =>
      e.hook == k && e.registration.once && e.registration.handler == r.handler).length_le
  rw [serial, run_append] at hle ⊢
  simp only [onceCalls] at hfirst hmono hle ⊢
  omega

theorem serial_once_exactly_once_onceStart :
    onceStart.registry "visit:start" = some ⟨[onceRegistration], by decide⟩ ∧
      onceRegistration ∈ [onceRegistration] ∧ onceRegistration.once = true ∧
      onceRegistration.replace = false ∧
      (∀ h' o, Hooks.Op.on "visit:start" onceRegistration.handler o ∉
        (fun _ => [] : HandlerId → List Hooks.Op) h') ∧
      (∀ o, Segment.request (.on "visit:start" onceRegistration.handler o) ∉ threeVisitStarts) ∧
      let s0 : System := ⟨onceStart, [], []⟩
      (onceCalls (s0.run (serial (fun _ => []) s0 (.call "visit:start" none :: threeVisitStarts)))
        "visit:start" onceRegistration.handler).length = 1 :=
  have hl : onceStart.registry "visit:start" = some ⟨[onceRegistration], by decide⟩ := rfl
  have hsegs : ∀ o, Segment.request (.on "visit:start" onceRegistration.handler o) ∉
      threeVisitStarts := by
    simp [threeVisitStarts]
  ⟨hl, List.mem_singleton_self _, rfl, rfl, fun _ _ => List.not_mem_nil _, hsegs,
    serial_once_exactly_once _ _ hl (List.mem_singleton_self _) rfl rfl none threeVisitStarts
      (fun _ _ => List.not_mem_nil _) hsegs⟩

end System

end Swup
