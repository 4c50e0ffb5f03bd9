import Swup.Hooks.Concurrent

/-!
# Swup hooks - What every registry keeps

Registrations reach a ledger only through {lit}`on`, which builds them as
{lit}`{ ...options, id, hook, handler }` with {lit}`id = ledger.size + 1`.  So
each registration in the ledger of a hook names that hook, carries no default
handler and has a positive id.  {lit}`Swup.Hooks.Registry` makes this a field of
every registry, proved by each operation of the registry's own; what is left to
show here is that no registry call and no trigger adds or removes a hook.

Two consequences.  A trigger given no default handler has no main handler, so
it calls only the handlers of registrations without {lit}`replace`: a
replacement is skipped, not run.  And the unregister function {lit}`on` returns,
{lit}`off(hook, handler)`, deletes the registration it made; when the handler
was not registered before, the registry is back to what it was.  A call on a
hook or a handler that is not there changes no ledger and only prints.

Main results:

- Theorem {lit}`wellFormed_invariant`: well-formedness holds of a fresh
  registry and is kept by registry calls, by {lit}`call` and {lit}`callSync`,
  and along every run of overlapping triggers, none of which adds or removes a
  hook.
- Theorem {lit}`replacements_skipped_without_default`: without a default
  handler, a trigger calls a prefix of the before and after groups' handlers,
  and no handler registered with {lit}`replace`.
- Theorem {lit}`on_off_roundtrip`: {lit}`off` after {lit}`on`.
- Theorem {lit}`registry_call_messages`: what each registry call prints, and
  that one on a hook or handler that is not there changes no ledger.

Current gaps:

- {lit}`create(hook)` is public in the source but is not one of the registry
  calls of {lit}`Hooks.Op`; only the constructor calls it here.
-/

namespace Swup

/-! ## Ledger membership -/

namespace Ledger

/-- Deleting a handler that is not a key keeps the ledger. -/
theorem delete_of_not_mem {l : Ledger} {h : HandlerId} (hh : h ∉ l.handlers) :
    l.delete h = (false, l) := by
  obtain ⟨vs, nd⟩ := l
  simp only [delete, Prod.mk.injEq, mk.injEq, decide_eq_false_iff_not]
  exact ⟨hh, List.filter_eq_self.mpr fun x hx => by
    simpa using fun he => hh (mem_handlers.mpr ⟨x, hx, he⟩)⟩

/-- Deleting the handler just set removes it, whether it was new or replaced an
earlier registration: what is left is the ledger without that handler. -/
theorem delete_set (l : Ledger) (r : HookRegistration) :
    (l.set r).delete r.handler = (true, (l.delete r.handler).2) := by
  have hkeep : ∀ vs : List HookRegistration,
      (vs.map fun x => if x.handler = r.handler then r else x).filter
        (fun x => decide (x.handler ≠ r.handler)) = vs.filter fun x => decide (x.handler ≠ r.handler) := by
    intro vs
    induction vs with
    | nil => rfl
    | cons x xs ih => by_cases hx : x.handler = r.handler <;> simpa [hx] using ih
  simp only [delete, Prod.mk.injEq, decide_eq_true_eq, mem_handlers_set, or_true, true_and]
  unfold set
  split
  · simp only [mk.injEq]
    exact hkeep l.values
  · simp

end Ledger

namespace Hooks

theorem setLedger_setLedger (s : Hooks) (hook : HookName) {l l' : Ledger} (hl : l.WellFormed hook)
    (hl' : l'.WellFormed hook) :
    (s.setLedger hook l hl).setLedger hook l' hl' = s.setLedger hook l' hl' := by
  ext1 <;> simp [setLedger]

theorem setLedger_of_registry {s : Hooks} {hook : HookName} {l : Ledger}
    (hl : s.registry hook = some l) (hwf : l.WellFormed hook) : s.setLedger hook l hwf = s := by
  ext1 <;> simp [setLedger, ← hl]

/-- {lit}`off` of a registered handler deletes it without a warning. -/
theorem off_of_mem {s : Hooks} {hook : HookName} {l : Ledger} (hl : s.registry hook = some l)
    {h : HandlerId} (hh : h ∈ l.handlers) :
    s.off hook (some h) = s.setLedger hook (l.delete h).2 ((s.wellFormed hook l hl).delete h) := by
  rw [off_of_registry hl, if_pos (by simpa [Ledger.delete] using hh)]

/-- What updating the ledger of one hook, if it exists, leaves at a hook: the
ledger that was there, or the updated one. -/
theorem isSome_update {reg : HookName → Option Ledger} {hook' : HookName} {f : Ledger → Ledger}
    (k : HookName) :
    ((match reg hook' with
      | none => reg
      | some l => Function.update reg hook' (some (f l))) k).isSome = (reg k).isSome := by
  cases hreg : reg hook' with
  | none => rfl
  | some l =>
    simp only [Function.update_apply]
    split <;> simp_all

/-! ## Well-formed registries -/

/-- What the ledgers of every registry hold: every registration in the ledger of
{lit}`k` names {lit}`k`, carries no default handler, and has a positive id.  It
is the field {lit}`Hooks.wellFormed`, which every operation proves of the
registry it builds. -/
def WellFormed (s : Hooks) : Prop :=
  ∀ k l, s.registry k = some l → ∀ r ∈ l.values, r.hook = k ∧ r.defaultHandler = none ∧ 0 < r.id

/-- No registry call adds or removes a hook. -/
theorem exists_apply (s : Hooks) (op : Op) (k : HookName) : (s.apply op).exists k = s.exists k := by
  cases op with
  | «on» hook h o => simp only [«exists», apply, on_registry]; exact isSome_update k
  | off hook h =>
    cases h <;> simp only [«exists», apply, off_registry_some, off_registry_none] <;>
      exact isSome_update k
  | clear => simp [«exists», apply, clear]

theorem exists_replay (s : Hooks) (ops : List Op) (k : HookName) :
    (s.replay ops).exists k = s.exists k := by
  induction ops generalizing s with
  | nil => rfl
  | cons op ops ih => exact (ih _).trans (exists_apply s op k)

/-- The unregister function {lit}`on` returns undoes it.  For a hook that exists,
{lit}`off(hook, handler)` after {lit}`on(hook, handler, options)`, with any
options and so also after {lit}`before`, {lit}`replace` or {lit}`once`, leaves the
ledger without that handler and prints nothing; when the handler was not
registered for the hook before, the registry and its console are as they were. -/
theorem on_off_roundtrip {s : Hooks} {hook : HookName} {l : Ledger} (hl : s.registry hook = some l)
    (h : HandlerId) (o : HookOptions) :
    (s.«on» hook h o).off hook (some h) =
        s.setLedger hook (l.delete h).2 ((s.wellFormed hook l hl).delete h) ∧
      (h ∉ l.handlers → (s.«on» hook h o).off hook (some h) = s) := by
  have hset : (s.«on» hook h o).registry hook = some (l.set (.ofOptions o (l.size + 1) hook h)) := by
    simp [on_of_registry hl]
  have hmem : h ∈ (l.set (.ofOptions o (l.size + 1) hook h)).handlers :=
    Ledger.mem_handlers_set.mpr (.inr rfl)
  have hround : (s.«on» hook h o).off hook (some h) =
      s.setLedger hook (l.delete h).2 ((s.wellFormed hook l hl).delete h) := by
    rw [off_of_mem hset hmem]
    ext1
    · simp only [setLedger, on_registry, hl, Function.update_idem]
      exact congrArg (fun p => Function.update s.registry hook (some p.2))
        (Ledger.delete_set l (.ofOptions o (l.size + 1) hook h))
    · simp [setLedger, on_of_registry hl]
  refine ⟨hround, fun hh => ?_⟩
  rw [hround]
  ext1 <;> simp [setLedger, Ledger.delete_of_not_mem hh, ← hl]

theorem on_off_roundtrip_visitStart :
    (init.«on» "visit:start" 5 {}).off "visit:start" (some 5) = init :=
  (on_off_roundtrip (rfl : init.registry "visit:start" = some Ledger.empty) 5 {}).2
    (by simp)

/-! ## What registry calls print -/

/-- {lit}`off` of a handler that is not registered only warns. -/
theorem off_of_not_mem {s : Hooks} {hook : HookName} {l : Ledger} (hl : s.registry hook = some l)
    {h : HandlerId} (hh : h ∉ l.handlers) :
    s.off hook (some h) = s.log .warn ("Handler for hook " ++ quoted hook ++ " not found.") := by
  rw [off_of_registry hl, if_neg (by simpa [Ledger.delete] using hh)]
  ext1 <;> simp [setLedger, log, Ledger.delete_of_not_mem hh, ← hl]

/-- What each registry call prints, and that a failed one changes no ledger.  On
a hook that does not exist, {lit}`on` (and so {lit}`before`, {lit}`replace` and
{lit}`once`) prints the error {lit}`Unknown hook 'hook'` and the warning
{lit}`Hook 'hook' not found.`, and {lit}`off` prints the error alone.  On a
hook that exists, {lit}`off` of a handler not registered there warns
{lit}`Handler for hook 'hook' not found.`; every other call prints nothing. -/
theorem registry_call_messages (s : Hooks) (hook : HookName) :
    (s.registry hook = none →
      (∀ h o, s.«on» hook h o = (s.log .error ("Unknown hook " ++ quoted hook)).log .warn
        ("Hook " ++ quoted hook ++ " not found.")) ∧
      ∀ h, s.off hook h = s.log .error ("Unknown hook " ++ quoted hook)) ∧
    (∀ l, s.registry hook = some l →
      (∀ h o, (s.«on» hook h o).console = s.console) ∧
      (∀ h ∈ l.handlers, (s.off hook (some h)).console = s.console) ∧
      (∀ h ∉ l.handlers, s.off hook (some h) =
        s.log .warn ("Handler for hook " ++ quoted hook ++ " not found.")) ∧
      (s.off hook none).console = s.console) ∧
    s.clear.console = s.console :=
  ⟨fun hl => ⟨on_of_none hl, off_of_none hl⟩, fun l hl =>
    ⟨fun h o => by rw [on_of_registry hl]; rfl, fun h hh => by rw [off_of_mem hl hh]; rfl,
      fun h hh => off_of_not_mem hl hh, by rw [off_none_of_registry hl]; rfl⟩, rfl⟩

end Hooks

/-- A tracked run keeps the hooks that exist. -/
theorem Tracked.exists_eq {Visit Args α : Type} {x : TriggerM Visit Args α} (hx : Tracked x)
    (w : World Visit Args) (k : HookName) : (final (x.run w)).hooks.exists k = w.hooks.exists k := by
  rw [← Hooks.exists_replay w.hooks ((appended w (x.run w)).filterMap Event.call?) k]
  simp only [Hooks.«exists», hx.registry_eq w]

section Semantics

variable {Visit Args : Type} (impl : HandlerId → Visit → Args → Option Fn → Prog Visit Args)

/-- Well-formedness is an invariant of the hook system.  Every registry carries
it as its field {lit}`wellFormed`: the constructor's {lit}`create` and the
registry calls prove it of the registry they build, so a fresh registry is
well-formed, and so is what every registry call, every {lit}`call` or
{lit}`callSync` (whatever its handlers do and whether it returns or throws)
and every run of overlapping triggers and registry calls leaves.  None of them
adds or removes a hook. -/
theorem wellFormed_invariant :
    Hooks.init.WellFormed ∧
    (∀ (s : Hooks) (op : Hooks.Op), s.WellFormed →
      (s.apply op).WellFormed ∧ ∀ k, (s.apply op).exists k = s.exists k) ∧
    (∀ (v : Visit) (hook : HookName) (a : Args) (d : Option HandlerId) (w : World Visit Args),
      w.hooks.WellFormed →
        ((final ((call impl v hook a d).run w)).hooks.WellFormed ∧
          ∀ k, (final ((call impl v hook a d).run w)).hooks.exists k = w.hooks.exists k) ∧
        ((final ((callSync impl v hook a d).run w)).hooks.WellFormed ∧
          ∀ k, (final ((callSync impl v hook a d).run w)).hooks.exists k = w.hooks.exists k)) ∧
    (∀ acts : List Action, (System.init.run acts).hooks.WellFormed) :=
  ⟨Hooks.init.wellFormed, fun s op _ => ⟨(s.apply op).wellFormed, s.exists_apply op⟩,
    fun v hook a d w _ =>
      ⟨⟨(final ((call impl v hook a d).run w)).hooks.wellFormed,
          (Tracked.call impl v hook a d).exists_eq w⟩,
        ⟨(final ((callSync impl v hook a d).run w)).hooks.wellFormed,
          (Tracked.callSync impl v hook a d).exists_eq w⟩⟩,
    fun acts => (System.init.run acts).hooks.wellFormed⟩

end Semantics

/-! ## Without a default handler, replacements are skipped -/

section Semantics

variable {Visit Args : Type} (impl : HandlerId → Visit → Args → Option Fn → Prog Visit Args)

/-- Without a default handler, a found ledger gives a trigger only registrations
of the ledger without {lit}`replace`. -/
theorem sortHandlers_direct_none {rs : List HookRegistration} {hook : HookName}
    {r : HookRegistration} (hr : r ∈ (sortHandlers rs hook none).direct) :
    r ∈ rs ∧ r.replace = false := by
  simp only [Handlers.direct, sortHandlers, List.append_nil, List.mem_append] at hr
  rcases hr with hr | hr <;>
    obtain ⟨hmem, hgroup⟩ := List.mem_filter.mp ((jsSort_sortedGroup _).perm.subset hr)
  · exact ⟨hmem, (by simpa [isBefore] using hgroup : _ ∧ _).2⟩
  · exact ⟨hmem, (by simpa [isAfter] using hgroup : _ ∧ _).2⟩

/-- What a trigger without a default handler runs directly: registrations of the
ledger made without {lit}`replace`, none of them with a default handler, in the
before and after groups. -/
theorem getHandlers_direct_none (s : Hooks) (hook : HookName) :
    (∀ r ∈ (s.getHandlers hook none).1.direct, ∃ l, s.registry hook = some l ∧ r ∈ l.values ∧
      r.replace = false ∧ r.defaultHandler = none) ∧
    (s.getHandlers hook none).1.handler = [] := by
  cases hl : s.registry hook with
  | none => simp [Hooks.getHandlers, Hooks.get, hl, Handlers.direct]
  | some l =>
    rw [Hooks.getHandlers_of_some hl]
    refine ⟨fun r hr => ?_, by simp [sortHandlers]⟩
    obtain ⟨hmem, hrep⟩ := sortHandlers_direct_none hr
    exact ⟨l, rfl, hmem, hrep, (s.wellFormed hook l hl r hmem).2.1⟩

/-- A trigger given no default handler has no main handler: the handlers
{lit}`call` and {lit}`callSync` call are, in order, a prefix of those of the
before group and the after group, all of them when the trigger returns.  No
registration made with {lit}`replace` has its handler among these, so none is
called. -/
theorem replacements_skipped_without_default (v : Visit) (hook : HookName) (a : Args)
    (w : World Visit Args) :
    let groups := (w.hooks.getHandlers hook none).1
    let calls := (groups.before ++ groups.after).map (·.handler)
    (observed Event.invoked? w ((call impl v hook a none).run w) <+: calls ∧
      ∀ b w', (call impl v hook a none).run w = .ok b w' →
        observed Event.invoked? w ((call impl v hook a none).run w) = calls) ∧
    (observed Event.invoked? w ((callSync impl v hook a none).run w) <+: calls ∧
      ∀ b w', (callSync impl v hook a none).run w = .ok b w' →
        observed Event.invoked? w ((callSync impl v hook a none).run w) = calls) ∧
    ∀ l, w.hooks.registry hook = some l → ∀ r ∈ l.values, r.replace = true → r.handler ∉ calls := by
  intro groups calls
  obtain ⟨hdirect, hmain⟩ := getHandlers_direct_none w.hooks hook
  have hgroups : ∀ r ∈ groups.before ++ groups.after, r ∈ groups.direct := fun r hr => by
    rwa [Handlers.direct, hmain, List.append_nil]
  have hnone : EmitsUpTo Event.invoked? (run impl v a groups.handler) ([] : List HandlerId) ∧
      EmitsUpTo Event.invoked? (runSync impl v a groups.handler) ([] : List HandlerId) := by
    rw [hmain]
    exact ⟨(Emits.pure _).toAll.upTo, (Emits.pure _).toAll.upTo⟩
  have hloops := triggerLoops_invokes impl v hook a groups
    (fun r hr => (hdirect r (hgroups r hr)).choose_spec.2.2.2) hnone
  rw [List.append_nil, ← List.map_append] at hloops
  let w1 : World Visit Args := { w with hooks := (w.hooks.getHandlers hook none).2 }
  refine ⟨⟨hloops.1.isPrefix w1, hloops.1.complete w1⟩, ⟨hloops.2.isPrefix w1, hloops.2.complete w1⟩,
    fun l hl r hr hrep hmem => ?_⟩
  obtain ⟨r', hr', hh⟩ := List.mem_map.mp hmem
  obtain ⟨l', hl', hmem', hrep', -⟩ := hdirect r' (hgroups r' hr')
  rw [Option.some.inj (hl.symm.trans hl')] at hr
  rw [List.inj_on_of_nodup_map l'.nodup hmem' hr hh, hrep] at hrep'
  cases hrep'

end Semantics

/-- A fresh registry after {lit}`on('visit:start', 1)` and
{lit}`replace('visit:start', 2)`. -/
def replacedStart : Hooks :=
  Hooks.init.replay [.on "visit:start" 1 {}, .on "visit:start" 2 { replace := true }]

example : let w : World Unit Unit := ⟨replacedStart, [], []⟩
    observed Event.invoked? w ((call returnsUndefined () "visit:start" () none).run w) = [1] := by
  decide

end Swup
