import Swup.Hooks.OnceRemoval

/-!
# Swup hooks - Triggers in flight at once

{lit}`call` awaits every handler, so while one trigger waits on a handler's
promise other code runs: another trigger of the same hook, started by a handler
or by a newer visit, registry calls, and the other triggers' own steps.  This
module models that.  A system holds the shared registry and the triggers in
flight, each with the registrations {lit}`getHandlers` gave it when it started,
the replace chain its main handler's default handler reaches, and its place in
the loop of {lit}`run`; any interleaving of the steps of all parties is a run.

Each trigger calls every registration of its list at most once, in order, and a
trigger that starts after a handler's once registration has been removed does
not call it, directly or through the chain, unless the handler is registered
for the hook again.  The removal waits for the handler's promise, though, and a
trigger that starts meanwhile takes the registration into its list: a once
registration runs once for every trigger that starts while it is awaited.  And
nothing removes a replacement that the chain calls, however often it is called.

Main results:

- Theorem {lit}`System.invokedBy_run`: in every run from the initial system,
  the registrations each trigger called directly are, in order, a prefix of
  its registrations.
- Theorem {lit}`System.unregistered_once_not_called`: no trigger that starts
  after a handler was unregistered calls a once registration of it, until the
  handler is registered for the hook again.
- Theorem {lit}`System.once_handler_runs_in_two_triggers`: two triggers of
  {lit}`visit:start` both call a once handler.
- Theorem {lit}`System.resolve_once_unregisters`: the removal of a once
  registration deletes whatever registration its handler has when the promise
  resolves, also one made while the promise was awaited.

Current gaps:

- A handler's own registry calls, nested triggers and calls of its default
  handler are steps of the run at any point after its caller was called, not
  only before its first await.
- The DOM event and the trigger's result are left out.
-/

namespace Swup

/-! ## Triggers in flight -/

/-- Where a trigger stands in its loop over the registrations. -/
inductive Phase where
  /-- About to call the handler at the index, or finished when none is left. -/
  | ready
  /-- Awaiting the promise of the handler of this registration. -/
  | awaiting (r : HookRegistration)
  /-- Stopped: a handler's promise rejected, and so did the trigger. -/
  | rejected
  deriving DecidableEq, Repr

/-- A trigger in flight: its hook, the registrations {lit}`getHandlers` gave it,
the chain its main handler's default handler reaches, and the index of the loop
over the registrations. -/
structure Task where
  hook : HookName
  registrations : List HookRegistration
  chain : List HookRegistration
  index : Nat
  phase : Phase
  deriving DecidableEq, Repr

/-- How many handlers the trigger has called. -/
def Task.called (t : Task) : Nat :=
  match t.phase with
  | .ready => t.index
  | _ => t.index + 1

/-- A handler call made by a trigger, numbered by start: by the loop of
{lit}`run` ({lit}`direct`), or through the replace chain. -/
structure Invocation where
  task : Nat
  hook : HookName
  registration : HookRegistration
  direct : Bool
  deriving DecidableEq, Repr

/-- The shared registry, the triggers numbered by start, and the handler calls
made so far. -/
structure System where
  hooks : Hooks
  tasks : List Task
  invoked : List Invocation

/-- A step of one party. -/
inductive Action where
  /-- {lit}`call(hook, args, defaultHandler)` starts and takes its registrations. -/
  | call (hook : HookName) (defaultHandler : Option HandlerId)
  /-- A trigger calls the handler at its index. -/
  | invoke (task : Nat)
  /-- The awaited promise resolves. -/
  | resolve (task : Nat)
  /-- The awaited promise rejects. -/
  | reject (task : Nat)
  /-- A function of the trigger's chain calls its default handler, which calls
  the function at this depth of the chain. -/
  | callDefault (task : Nat) (depth : Nat)
  /-- A registry call by a handler or by any other code. -/
  | request (op : Hooks.Op)
  deriving DecidableEq, Repr

/-! ## The replace chain of a trigger -/

/-- What the main handler's default handler reaches through the replace chain of
{lit}`getHandlers`, outermost first: {lit}`createDefaultHandler(index)` calls
{lit}`replace[index - 1]`, whose default handler calls {lit}`replace[index - 2]`,
and so on down to {lit}`replace[0]`, whose default handler is the trigger's own.
That one is listed as the registration {lit}`{ id: 0, hook, handler }` the
trigger would run without replacements.  Without a default handler or a
replacement there is no chain. -/
def chainRegistrations (registrations : List HookRegistration) (hook : HookName)
    (defaultHandler : Option HandlerId) : List HookRegistration :=
  let replace := jsSort sortRegistrations (registrations.filter (·.replace))
  match defaultHandler with
  | some d => if replace = [] then [] else replace.dropLast.reverse ++ [{ id := 0, hook, handler := d }]
  | none => []

/-- The chain of a trigger of {lit}`hook` that starts now. -/
def Hooks.chain (s : Hooks) (hook : HookName) (defaultHandler : Option HandlerId) :
    List HookRegistration :=
  match s.registry hook with
  | some l => chainRegistrations l.values hook defaultHandler
  | none => []

/-- The chain lists the functions the sequential model's closure
{lit}`createDefaultHandler` of the main handler calls, in the order it calls
them ({lit}`callNested_invocations`): the replacements below the last one, from
the top, then the default handler. -/
theorem chainRegistrations_handlers (rs : List HookRegistration) (hook : HookName) (d : HandlerId)
    (hne : jsSort sortRegistrations (rs.filter (·.replace)) ≠ []) :
    (chainRegistrations rs hook (some d)).map (·.handler) =
      (((jsSort sortRegistrations (rs.filter (·.replace))).map (·.handler)).take
        ((jsSort sortRegistrations (rs.filter (·.replace))).length - 1)).reverse ++ [d] := by
  simp [chainRegistrations, hne, List.dropLast_eq_take, List.map_reverse]

/-- A registration of a chain with {lit}`once` set is one of the ledger's
replacements. -/
theorem Hooks.chain_once {s : Hooks} {hook : HookName} {d : Option HandlerId} {r : HookRegistration}
    (hr : r ∈ s.chain hook d) (ho : r.once = true) :
    ∃ l, s.registry hook = some l ∧ r ∈ l.values := by
  unfold Hooks.chain at hr
  split at hr
  · rename_i l hl
    refine ⟨l, hl, ?_⟩
    cases d with
    | none => simp [chainRegistrations] at hr
    | some d =>
      simp only [chainRegistrations] at hr
      split_ifs at hr
      · simp at hr
      · rcases List.mem_append.mp hr with hr | hr
        · exact List.mem_of_mem_filter ((jsSort_sortedGroup _).perm.subset
            (List.dropLast_subset _ (List.mem_reverse.mp hr)))
        · simp [List.mem_singleton.mp hr] at ho
  · simp at hr

/-- {lit}`if (once) this.off(hook, handler)`, after the handler's promise has
resolved. -/
def Hooks.removeOnce (s : Hooks) (r : HookRegistration) : Hooks :=
  if r.once then s.off r.hook (some r.handler) else s

/-- Handler {lit}`h` has a registration for hook {lit}`k`. -/
def Hooks.Registered (s : Hooks) (k : HookName) (h : HandlerId) : Prop :=
  ∃ l, s.registry k = some l ∧ h ∈ l.handlers

/-- Only registering {lit}`h` for {lit}`k` makes it registered there. -/
theorem Hooks.registered_of_apply {s : Hooks} (op : Hooks.Op) {k : HookName} {h : HandlerId}
    (hop : ∀ o, op ≠ .on k h o) (hreg : (s.apply op).Registered k h) : s.Registered k h := by
  obtain ⟨l, hl, hk⟩ := hreg
  rcases Hooks.apply_handlers_subset hl hk with hold | ⟨o, rfl⟩
  · exact hold
  · exact absurd rfl (hop o)

theorem Hooks.registered_of_removeOnce {s : Hooks} {r : HookRegistration} {k : HookName}
    {h : HandlerId} (hreg : (s.removeOnce r).Registered k h) : s.Registered k h := by
  unfold Hooks.removeOnce at hreg
  split at hreg
  · exact Hooks.registered_of_apply (.off r.hook (some r.handler)) (fun _ => nofun) hreg
  · exact hreg

/-- After {lit}`off(hook, handler)`, the handler has no registration for the hook. -/
theorem Hooks.not_registered_off (s : Hooks) (k : HookName) (h : HandlerId) :
    ¬ (s.off k (some h)).Registered k h := by
  rintro ⟨l, hl, hm⟩
  rw [Hooks.off_registry_some] at hl
  split at hl
  · simp_all
  · simp only [Function.update_same, Option.some.injEq] at hl
    subst hl
    simp at hm

instance (s : Hooks) (k : HookName) (h : HandlerId) : Decidable (s.Registered k h) :=
  match hl : s.registry k with
  | some l => decidable_of_iff (h ∈ l.handlers)
      ⟨fun hm => ⟨l, hl, hm⟩, fun ⟨_, hl', hm⟩ => by rw [hl] at hl'; cases hl'; exact hm⟩
  | none => isFalse fun ⟨_, hl', _⟩ => by rw [hl] at hl'; cases hl'

namespace System

/-- Whether the function at depth {lit}`j` of trigger {lit}`t`'s chain can be
called now: its caller holds the closure only once it has been called itself,
that is the main handler, the one registration of the trigger with a default
handler, for depth {lit}`0`, and the function at depth {lit}`j - 1` otherwise. -/
def chainReady (s : System) (t : Nat) (task : Task) : Nat → Bool
  | 0 => (task.registrations.take task.called).any (·.defaultHandler.isSome)
  | j + 1 =>
    match task.chain[j]? with
    | some r => s.invoked.any fun e => e.task == t && !e.direct && e.registration == r
    | none => false

/-- One step.  A step its party cannot take leaves the system unchanged. -/
def step (s : System) : Action → System
  | .call hook d =>
    { s with hooks := (s.hooks.getHandlers hook d).2,
             tasks := s.tasks ++
               [⟨hook, (s.hooks.getHandlers hook d).1.direct, s.hooks.chain hook d, 0, .ready⟩] }
  | .invoke t =>
    match s.tasks[t]? with
    | some ⟨hook, rs, c, i, .ready⟩ =>
      match rs[i]? with
      | some r =>
        { s with tasks := s.tasks.set t ⟨hook, rs, c, i, .awaiting r⟩,
                 invoked := s.invoked ++ [⟨t, hook, r, true⟩] }
      | none => s
    | _ => s
  | .resolve t =>
    match s.tasks[t]? with
    | some ⟨hook, rs, c, i, .awaiting r⟩ =>
      { s with hooks := s.hooks.removeOnce r, tasks := s.tasks.set t ⟨hook, rs, c, i + 1, .ready⟩ }
    | _ => s
  | .reject t =>
    match s.tasks[t]? with
    | some ⟨hook, rs, c, i, .awaiting _⟩ =>
      { s with tasks := s.tasks.set t ⟨hook, rs, c, i, .rejected⟩ }
    | _ => s
  | .callDefault t j =>
    match s.tasks[t]? with
    | some task =>
      match task.chain[j]? with
      | some r =>
        if s.chainReady t task j then { s with invoked := s.invoked ++ [⟨t, task.hook, r, false⟩] }
        else s
      | none => s
    | none => s
  | .request op => { s with hooks := s.hooks.apply op }

/-- Take the steps in order. -/
def run (s : System) (acts : List Action) : System :=
  acts.foldl step s

@[simp]
theorem run_nil (s : System) : s.run [] = s :=
  rfl

@[simp]
theorem run_cons (s : System) (act : Action) (acts : List Action) :
    s.run (act :: acts) = (s.step act).run acts :=
  rfl

/-- What one step can do: nothing, start a trigger, call the handler at a
trigger's index, settle an awaited promise (which keeps the trigger's hook,
registrations, chain and number of calls, and removes at most a once
registration), call a function of a trigger's chain, or call the registry. -/
theorem step_cases (s : System) (act : Action) :
    s.step act = s ∨
    (∃ hook d, s.step act =
      { s with hooks := (s.hooks.getHandlers hook d).2,
               tasks := s.tasks ++
                 [⟨hook, (s.hooks.getHandlers hook d).1.direct, s.hooks.chain hook d, 0, .ready⟩] }) ∨
    (∃ t hook rs c i r, s.tasks[t]? = some ⟨hook, rs, c, i, .ready⟩ ∧ rs[i]? = some r ∧
      s.step act = { s with tasks := s.tasks.set t ⟨hook, rs, c, i, .awaiting r⟩,
                            invoked := s.invoked ++ [⟨t, hook, r, true⟩] }) ∨
    (∃ t task x hooks', s.tasks[t]? = some task ∧ x.hook = task.hook ∧
      x.registrations = task.registrations ∧ x.chain = task.chain ∧ x.called = task.called ∧
      (hooks' = s.hooks ∨ ∃ r, hooks' = s.hooks.removeOnce r) ∧
      s.step act = { s with hooks := hooks', tasks := s.tasks.set t x }) ∨
    (∃ t task r, s.tasks[t]? = some task ∧ r ∈ task.chain ∧
      s.step act = { s with invoked := s.invoked ++ [⟨t, task.hook, r, false⟩] }) ∨
    (∃ op, act = .request op ∧ s.step act = { s with hooks := s.hooks.apply op }) := by
  cases act with
  | call hook d => exact .inr (.inl ⟨hook, d, rfl⟩)
  | invoke t =>
    rcases ht : s.tasks[t]? with _ | ⟨hook, rs, c, i, _ | r | _⟩
    case some.mk.ready =>
      rcases hr : rs[i]? with _ | r
      · exact .inl (by simp [step, ht, hr])
      · exact .inr (.inr (.inl ⟨t, hook, rs, c, i, r, ht, hr, by simp [step, ht, hr]⟩))
    all_goals exact .inl (by simp [step, ht])
  | resolve t =>
    rcases ht : s.tasks[t]? with _ | ⟨hook, rs, c, i, _ | r | _⟩
    case some.mk.awaiting =>
      exact .inr (.inr (.inr (.inl ⟨t, _, ⟨hook, rs, c, i + 1, .ready⟩, _, ht, rfl, rfl, rfl, rfl,
        .inr ⟨r, rfl⟩, by simp [step, ht]⟩)))
    all_goals exact .inl (by simp [step, ht])
  | reject t =>
    rcases ht : s.tasks[t]? with _ | ⟨hook, rs, c, i, _ | r | _⟩
    case some.mk.awaiting =>
      exact .inr (.inr (.inr (.inl ⟨t, _, ⟨hook, rs, c, i, .rejected⟩, _, ht, rfl, rfl, rfl, rfl,
        .inl rfl, by simp [step, ht]⟩)))
    all_goals exact .inl (by simp [step, ht])
  | callDefault t j =>
    rcases ht : s.tasks[t]? with _ | task
    · exact .inl (by simp [step, ht])
    rcases hr : task.chain[j]? with _ | r
    · exact .inl (by simp [step, ht, hr])
    by_cases hready : s.chainReady t task j
    · exact .inr (.inr (.inr (.inr (.inl ⟨t, task, r, ht, List.getElem?_mem hr,
        by simp [step, ht, hr, hready]⟩))))
    · exact .inl (by simp [step, ht, hr, hready])
  | request op => exact .inr (.inr (.inr (.inr (.inr ⟨op, rfl, rfl⟩))))

/-- A fresh instance with no trigger in flight. -/
def init : System :=
  ⟨Hooks.init, [], []⟩

/-- The registrations trigger {lit}`t` has called directly, in order. -/
def invokedBy (s : System) (t : Nat) : List HookRegistration :=
  (s.invoked.filter fun e => e.task == t && e.direct).map (·.registration)

/-! ## Each trigger calls a prefix of its registrations -/

/-- What trigger {lit}`t` satisfies in a reachable system: it has called
directly, in order, the first {lit}`called` of its registrations, whose once
registrations have distinct handlers; a number no trigger has has made no call. -/
def TaskInv (s : System) (t : Nat) : Prop :=
  match s.tasks[t]? with
  | some task => s.invokedBy t = task.registrations.take task.called ∧
      ((task.registrations.filter (·.once)).map (·.handler)).Nodup
  | none => ∀ e ∈ s.invoked, e.task ≠ t

theorem taskInv_init (t : Nat) : TaskInv init t :=
  fun _ => nofun

theorem taskInv_step {s : System} (hs : ∀ t, TaskInv s t) (act : Action) (t' : Nat) :
    TaskInv (s.step act) t' := by
  have h' := hs t'
  rcases step_cases s act with hstep | ⟨hook, d, hstep⟩ | ⟨t, hook, rs, c, i, r, ht, hr, hstep⟩ |
      ⟨t, task, x, hooks', ht, -, hreg, -, hcalled, -, hstep⟩ | ⟨t, task, r, ht, -, hstep⟩ |
      ⟨op, -, hstep⟩ <;> rw [hstep]
  · exact h'
  case inr.inl =>
    simp only [TaskInv, invokedBy] at h' ⊢
    rw [List.getElem?_append]
    split_ifs with hlt
    · exact h'
    · rw [List.getElem?_eq_none (Nat.le_of_not_lt hlt)] at h'
      cases hj : t' - s.tasks.length with
      | zero =>
        obtain rfl : t' = s.tasks.length := by omega
        have hnone : s.invoked.filter (fun e => e.task == s.tasks.length && e.direct) = [] :=
          List.filter_eq_nil_iff.mpr fun e he => by simp [h' e he]
        simpa [Task.called, hnone] using (Hooks.getHandlers_direct_once s.hooks hook d).2
      | succ j => simpa using h'
  case inr.inr.inl =>
    have hlt : t < s.tasks.length := (List.getElem?_eq_some_iff.mp ht).1
    simp only [TaskInv, invokedBy, List.filter_append, List.map_append, List.getElem?_set] at h' ⊢
    by_cases htt : t = t'
    · subst htt
      have ht0 := hs t
      simp only [TaskInv, ht, invokedBy, Task.called] at ht0
      simp [hlt, ht0.1, ht0.2, Task.called, List.take_succ, hr]
    · simp only [htt, if_false]
      cases hget : s.tasks[t']? <;> rw [hget] at h'
      · exact List.forall_mem_append.mpr ⟨h', List.forall_mem_singleton.mpr htt⟩
      · simpa [htt] using h'
  case inr.inr.inr.inl =>
    simp only [TaskInv, invokedBy, List.getElem?_set] at h' ⊢
    by_cases htt : t = t'
    · subst htt
      simpa [(List.getElem?_eq_some_iff.mp ht).1, ht, hreg, hcalled] using h'
    · simpa [htt] using h'
  case inr.inr.inr.inr.inl =>
    simp only [TaskInv, invokedBy, List.filter_append, List.map_append] at h' ⊢
    split at h'
    · simpa using h'
    · rename_i hnone
      refine List.forall_mem_append.mpr ⟨h', List.forall_mem_singleton.mpr ?_⟩
      rintro rfl
      simp [ht] at hnone
  · exact h'

theorem taskInv_run {s : System} (hs : ∀ t, TaskInv s t) (acts : List Action) :
    ∀ t, TaskInv (s.run acts) t := by
  induction acts generalizing s with
  | nil => exact hs
  | cons act acts ih => exact ih (taskInv_step hs act)

/-- In every run from a fresh instance, the registrations each trigger called
directly are, in order, a prefix of the registrations it took when it started. -/
theorem invokedBy_run (acts : List Action) (t : Nat) :
    (init.run acts).invokedBy t <+: ((init.run acts).tasks[t]?.map (·.registrations)).getD [] := by
  have h := taskInv_run taskInv_init acts t
  unfold TaskInv at h
  split at h
  · rename_i task htask
    simp only [htask, Option.map_some', Option.getD_some, h.1]
    exact List.take_prefix _ _
  · rename_i htask
    simp only [htask, Option.map_none', Option.getD_none, List.prefix_nil, invokedBy,
      List.map_eq_nil_iff, List.filter_eq_nil_iff, Bool.and_eq_true, beq_iff_eq, not_and]
    exact fun e he ht => absurd ht (h e he)


/-! ## No trigger after the removal -/

/-- Setting a trigger to one of the same hook, registrations and chain keeps
every trigger's hook, registrations and chain. -/
theorem getElem?_set_same {tasks : List Task} {t t' : Nat} {task x y : Task}
    (ht : tasks[t]? = some task) (hh : x.hook = task.hook) (hr : x.registrations = task.registrations)
    (hc : x.chain = task.chain) (hy : (tasks.set t x)[t']? = some y) :
    ∃ z, tasks[t']? = some z ∧ y.hook = z.hook ∧ y.registrations = z.registrations ∧
      y.chain = z.chain := by
  rw [List.getElem?_set] at hy
  split_ifs at hy with h1 h2
  · subst h1
    cases hy
    exact ⟨task, ht, hh, hr, hc⟩
  · exact ⟨y, hy, rfl, rfl, rfl⟩

/-- From trigger {lit}`n` on, no trigger of hook {lit}`k` has called a once
registration of handler {lit}`h` or holds one in its list or its chain, and
{lit}`h` has no registration for {lit}`k`. -/
structure Gone (k : HookName) (h : HandlerId) (n : Nat) (s : System) : Prop where
  unregistered : ¬ s.hooks.Registered k h
  tasks : ∀ t task, n ≤ t → s.tasks[t]? = some task → task.hook = k →
    ∀ r ∈ task.registrations ++ task.chain, r.once → r.handler ≠ h
  invoked : ∀ e ∈ s.invoked, n ≤ e.task → e.hook = k → e.registration.once →
    e.registration.handler ≠ h

/-- A step that does not register {lit}`h` for {lit}`k` keeps it gone. -/
theorem gone_step {k : HookName} {h : HandlerId} {n : Nat} {s : System} (hg : Gone k h n s)
    {act : Action} (hact : ∀ o, act ≠ .request (.on k h o)) : Gone k h n (s.step act) := by
  have hset : ∀ {t : Nat} {task x : Task}, s.tasks[t]? = some task → x.hook = task.hook →
      x.registrations = task.registrations → x.chain = task.chain →
      ∀ t' y, n ≤ t' → (s.tasks.set t x)[t']? = some y → y.hook = k →
        ∀ r ∈ y.registrations ++ y.chain, r.once → r.handler ≠ h := by
    intro t task x ht hh hr hc t' y hn hy hk r hmem
    obtain ⟨z, hz, hzh, hzr, hzc⟩ := getElem?_set_same ht hh hr hc hy
    exact hg.tasks t' z hn hz (hzh ▸ hk) r (hzr ▸ hzc ▸ hmem)
  rcases step_cases s act with hstep | ⟨hook, d, hstep⟩ | ⟨t, hook, rs, c, i, r, ht, hr, hstep⟩ |
      ⟨t, task, x, hooks', ht, hh, hreg, hc, -, hhooks, hstep⟩ | ⟨t, task, r, ht, hr, hstep⟩ |
      ⟨op, rfl, hstep⟩ <;> rw [hstep]
  · exact hg
  case inr.inl =>
    refine ⟨by simpa [Hooks.Registered] using hg.unregistered,
      fun t task hn ht hk r hr ho => ?_, hg.invoked⟩
    simp only [List.getElem?_append] at ht
    split_ifs at ht with hlt
    · exact hg.tasks t task hn ht hk r hr ho
    · obtain rfl := List.mem_singleton.mp (List.getElem?_mem ht)
      obtain ⟨l, hl, hrl⟩ : ∃ l, s.hooks.registry hook = some l ∧ r ∈ l.values := by
        rcases List.mem_append.mp hr with hr | hr
        · exact (Hooks.getHandlers_direct_once s.hooks hook d).1 r hr ho
        · exact Hooks.chain_once hr ho
      rintro rfl
      exact hg.unregistered ⟨l, hk ▸ hl, Ledger.mem_handlers.mpr ⟨r, hrl, rfl⟩⟩
  case inr.inr.inl =>
    refine ⟨hg.unregistered, hset ht rfl rfl rfl, List.forall_mem_append.mpr ⟨hg.invoked,
      List.forall_mem_singleton.mpr fun hn hk ho =>
        hg.tasks t _ hn ht hk r (List.mem_append_left _ (List.getElem?_mem hr)) ho⟩⟩
  case inr.inr.inr.inl =>
    refine ⟨fun hr => hg.unregistered ?_, hset ht hh hreg hc, hg.invoked⟩
    rcases hhooks with rfl | ⟨r, rfl⟩
    exacts [hr, Hooks.registered_of_removeOnce hr]
  case inr.inr.inr.inr.inl =>
    exact ⟨hg.unregistered, hg.tasks, List.forall_mem_append.mpr ⟨hg.invoked,
      List.forall_mem_singleton.mpr fun hn hk ho =>
        hg.tasks t task hn ht hk r (List.mem_append_right _ hr) ho⟩⟩
  · exact ⟨fun hreg => hg.unregistered (Hooks.registered_of_apply op
      (fun o hop => hact o (by rw [hop])) hreg), hg.tasks, hg.invoked⟩

theorem gone_run {k : HookName} {h : HandlerId} {n : Nat} {s : System} (hg : Gone k h n s)
    {acts : List Action} (hacts : ∀ o, Action.request (.on k h o) ∉ acts) :
    Gone k h n (s.run acts) := by
  induction acts generalizing s with
  | nil => exact hg
  | cons act acts ih =>
    refine ih (gone_step hg fun o hop => hacts o (by simp [hop])) fun o ho => hacts o ?_
    exact List.mem_cons_of_mem _ ho


/-! ## Once registrations and overlapping triggers -/

/-- In every run from a fresh instance: from a point where handler {lit}`h` has
no registration for hook {lit}`k`, no trigger of {lit}`k` that starts later
calls a once registration of {lit}`h`, directly or through the replace chain,
as long as nobody registers {lit}`h` for {lit}`k` again; triggers that started
earlier may still call one. -/
theorem unregistered_once_not_called (acts more : List Action) (k : HookName) (h : HandlerId)
    (hreg : ¬ (init.run acts).hooks.Registered k h) (hmore : ∀ o, Action.request (.on k h o) ∉ more) :
    ∀ e ∈ ((init.run acts).run more).invoked, (init.run acts).tasks.length ≤ e.task →
      e.hook = k → e.registration.once → e.registration.handler ≠ h := by
  have hinv := taskInv_run taskInv_init acts
  refine (gone_run ⟨hreg, fun t task hn htask => ?_, fun e he hn => ?_⟩ hmore).invoked
  · simp [List.getElem?_eq_none hn] at htask
  · have ht := hinv e.task
    unfold TaskInv at ht
    rw [List.getElem?_eq_none hn] at ht
    exact absurd rfl (ht e he)

/-- Registering handler 1 for {lit}`visit:start` with {lit}`once`, then a
trigger that calls it and sees its promise resolve. -/
def onceResolvedRun : List Action :=
  [.request (.on "visit:start" 1 { once := true }), .call "visit:start" none, .invoke 0, .resolve 0]

theorem unregistered_once_not_called_resolved :
    let more := [Action.call "visit:start" none, .invoke 1]
    ¬ (init.run onceResolvedRun).hooks.Registered "visit:start" 1 ∧
      (∀ o, Action.request (.on "visit:start" 1 o) ∉ more) ∧
      ∀ e ∈ ((init.run onceResolvedRun).run more).invoked,
        (init.run onceResolvedRun).tasks.length ≤ e.task → e.hook = "visit:start" →
          e.registration.once → e.registration.handler ≠ 1 :=
  have hreg : ¬ (init.run onceResolvedRun).hooks.Registered "visit:start" 1 := by decide
  have hmore : ∀ o, Action.request (.on "visit:start" 1 o) ∉
      [Action.call "visit:start" none, .invoke 1] := fun o => by simp
  ⟨hreg, hmore, unregistered_once_not_called onceResolvedRun _ "visit:start" 1 hreg hmore⟩

/-- Registering handler 1 for {lit}`visit:start` with {lit}`once`; a trigger
calls it, and while it awaits the handler's promise a second trigger of the
hook starts and calls it too. -/
def onceOverlapRun : List Action :=
  [.request (.on "visit:start" 1 { once := true }), .call "visit:start" none, .invoke 0,
    .call "visit:start" none, .invoke 1]

theorem once_handler_runs_in_two_triggers :
    (init.run onceOverlapRun).invoked.map
        (fun e => (e.task, e.registration.handler, e.registration.once)) =
      [(0, 1, true), (1, 1, true)] := by
  decide

/-- Handler 1 registered for {lit}`visit:start` with {lit}`once` and
{lit}`replace`, handler 2 with {lit}`replace`; a trigger with default handler 9
calls its main handler, 2, which calls its default handler twice, reaching 1
each time. -/
def onceChainRun : List Action :=
  [.request (.on "visit:start" 1 { once := true, replace := true }),
    .request (.on "visit:start" 2 { replace := true }), .call "visit:start" (some 9), .invoke 0,
    .callDefault 0 0, .callDefault 0 0]

set_option maxRecDepth 2000 in
/-- The once replacement runs twice in one trigger, through the chain. -/
example :
    (init.run onceChainRun).invoked.map
        (fun e => (e.task, e.registration.handler, e.registration.once, e.direct)) =
      [(0, 2, false, true), (0, 1, true, false), (0, 1, true, false)] := by
  decide

/-- When the promise a trigger awaits for a once registration resolves, the
handler has no registration left for the hook.  The removal is
{lit}`off(hook, handler)`, keyed by the handler: it deletes whatever registration
the handler has at that point, also one made after the trigger called it, by the
handler itself or by other code, and without {lit}`once`. -/
theorem resolve_once_unregisters {s : System} {t : Nat} {hook : HookName}
    {rs c : List HookRegistration} {i : Nat} {r : HookRegistration}
    (ht : s.tasks[t]? = some ⟨hook, rs, c, i, .awaiting r⟩) (ho : r.once = true) :
    ¬ (s.step (.resolve t)).hooks.Registered r.hook r.handler := by
  simp only [step, ht, Hooks.removeOnce, ho, if_true]
  exact Hooks.not_registered_off _ _ _

end System

end Swup
