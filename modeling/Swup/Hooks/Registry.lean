import Mathlib.Data.List.Nodup

/-!
# Swup hooks - The hook registry

This module models the registration half of the {lit}`Hooks` class of
{lit}`src/modules/Hooks.ts`: hook options, registration records, the ledger of
one hook (a JavaScript {lit}`Map` from handler to registration, iterated in
insertion order), the registry of all ledgers, and the console messages the
class prints.  The unique-key property of the {lit}`Map` is a field of
{lit}`Ledger`, and that every registration of a ledger is one {lit}`on` built
for its hook is a field of {lit}`Hooks`, so every later registry is well formed
by construction: each operation proves it of the registry it builds.

Main results:

- Definitions {lit}`Hooks.on`, {lit}`Hooks.off` and {lit}`Hooks.clear`: the
  registration operations, with the id computed as {lit}`ledger.size + 1`.
- Theorem {lit}`Hooks.apply_handlers_subset`: no registry call adds a key to a
  ledger other than the handler it registers.

Current gaps:

- The unregister closure returned by {lit}`on` is not modelled as a value; it is
  {lit}`off hook handler`, which handler programs issue directly.
-/

namespace Swup

/-! ## Names, handlers and options -/

/-- Hook names.  The core hooks are created by the constructor; {lit}`create`
adds any other string. -/
abbrev HookName := String

/-- A handler function, identified the way a JavaScript function value is: by
its identity. -/
abbrev HandlerId := Nat

/-- A function value passed to a handler as its {lit}`defaultHandler`: a plain
handler function, or the closure that {lit}`createDefaultHandler` builds for one
index of the replace chain (it captures the sorted replace handlers and the
trigger's own default handler). -/
inductive Fn where
  | handler (h : HandlerId)
  | nested (replace : List HandlerId) (defaultHandler : HandlerId) (index : Nat)
  deriving DecidableEq, Repr

/-- {lit}`HookOptions`.  An absent flag is {lit}`undefined`, which the code only
tests for truthiness, so it is {lean}`false` here; an absent priority is kept as
{lean}`none` because the comparator reads it through {lit}`?? 0`. -/
structure HookOptions where
  once : Bool := false
  before : Bool := false
  priority : Option Int := none
  replace : Bool := false
  deriving DecidableEq, Repr

/-- {lit}`HookRegistration`: the options spread into a record with the id, the
hook, the handler and, for the main handler of a trigger, a default handler. -/
structure HookRegistration where
  id : Nat
  hook : HookName
  handler : HandlerId
  defaultHandler : Option Fn := none
  once : Bool := false
  before : Bool := false
  priority : Option Int := none
  replace : Bool := false
  deriving DecidableEq, Repr

/-- The record {lit}`{ ...options, id, hook, handler }` built by {lit}`on`. -/
def HookRegistration.ofOptions (options : HookOptions) (id : Nat) (hook : HookName)
    (handler : HandlerId) : HookRegistration where
  id := id
  hook := hook
  handler := handler
  once := options.once
  before := options.before
  priority := options.priority
  replace := options.replace

/-- What a registration in the ledger of {lit}`hook` looks like, since
{lit}`on` is the only way in: it names {lit}`hook`, carries no default handler,
and has a positive id. -/
def HookRegistration.WellFormed (hook : HookName) (r : HookRegistration) : Prop :=
  r.hook = hook ∧ r.defaultHandler = none ∧ 0 < r.id

/-- The record {lit}`on` builds, with the id {lit}`ledger.size + 1`. -/
theorem HookRegistration.ofOptions_wellFormed (options : HookOptions) (n : Nat) (hook : HookName)
    (handler : HandlerId) : (HookRegistration.ofOptions options (n + 1) hook handler).WellFormed hook :=
  ⟨rfl, rfl, Nat.succ_pos n⟩

/-! ## Ledgers -/

/-- The ledger of one hook: the JavaScript {lit}`Map` from handler to
registration.  Entries are listed in insertion order and the key of an entry is
the handler of its registration, so keys are unique. -/
structure Ledger where
  values : List HookRegistration
  nodup : (values.map (·.handler)).Nodup

namespace Ledger

/-- The handlers registered in a ledger, in map order. -/
def handlers (l : Ledger) : List HandlerId :=
  l.values.map (·.handler)

/-- {lit}`ledger.size`. -/
def size (l : Ledger) : Nat :=
  l.values.length

/-- {lit}`new Map()`. -/
def empty : Ledger :=
  ⟨[], List.nodup_nil⟩

/-- Replacing a registration by one of the same handler keeps the key list. -/
private theorem map_handler_replace (vs : List HookRegistration) (r : HookRegistration) :
    (vs.map fun x => if x.handler = r.handler then r else x).map (·.handler) =
      vs.map (·.handler) := by
  induction vs with
  | nil => rfl
  | cons x xs ih =>
    by_cases hx : x.handler = r.handler <;> simp [hx, ih]

/-- {lit}`ledger.set(handler, registration)`: an existing key keeps its position
and takes the new value, a new key goes last. -/
def set (l : Ledger) (r : HookRegistration) : Ledger :=
  if h : r.handler ∈ l.handlers then
    ⟨l.values.map fun x => if x.handler = r.handler then r else x, by
      rw [map_handler_replace]; exact l.nodup⟩
  else
    ⟨l.values ++ [r], by
      rw [List.map_append]
      exact l.nodup.append (List.nodup_singleton _) (List.disjoint_singleton.mpr h)⟩

/-- {lit}`ledger.delete(handler)`, with the Boolean it returns. -/
def delete (l : Ledger) (h : HandlerId) : Bool × Ledger :=
  (decide (h ∈ l.handlers),
    ⟨l.values.filter (·.handler ≠ h),
      l.nodup.sublist ((List.filter_sublist _).map _)⟩)

@[simp]
theorem empty_values : empty.values = [] :=
  rfl

@[simp]
theorem handlers_empty : empty.handlers = [] :=
  rfl

theorem mem_handlers {l : Ledger} {h : HandlerId} :
    h ∈ l.handlers ↔ ∃ r ∈ l.values, r.handler = h := by
  simp [handlers]

/-- After {lit}`set`, the keys are the old keys plus the new handler, in order. -/
theorem handlers_set (l : Ledger) (r : HookRegistration) :
    (l.set r).handlers =
      if r.handler ∈ l.handlers then l.handlers else l.handlers ++ [r.handler] := by
  by_cases h : r.handler ∈ l.handlers
  · rw [set, dif_pos h, if_pos h]
    exact map_handler_replace _ _
  · rw [set, dif_neg h, if_neg h]
    simp [handlers]

theorem mem_handlers_set {l : Ledger} {r : HookRegistration} {h : HandlerId} :
    h ∈ (l.set r).handlers ↔ h ∈ l.handlers ∨ h = r.handler := by
  rw [handlers_set]
  split <;> simp_all [or_iff_left_of_imp]

@[simp]
theorem handlers_delete (l : Ledger) (h : HandlerId) :
    (l.delete h).2.handlers = l.handlers.filter (· ≠ h) := by
  simp [delete, handlers, List.filter_map, Function.comp_def]

theorem mem_handlers_delete {l : Ledger} {h k : HandlerId} :
    k ∈ (l.delete h).2.handlers ↔ k ∈ l.handlers ∧ k ≠ h := by
  simp

/-- A fresh handler is appended with the given registration. -/
theorem set_values_of_not_mem {l : Ledger} {r : HookRegistration}
    (h : r.handler ∉ l.handlers) : (l.set r).values = l.values ++ [r] := by
  simp [set, h]

theorem mem_values_set {l : Ledger} {r x : HookRegistration} (hx : x ∈ (l.set r).values) :
    x ∈ l.values ∨ x = r := by
  unfold set at hx
  split at hx
  · obtain ⟨y, hy, rfl⟩ := List.mem_map.mp hx
    split
    · exact .inr rfl
    · exact .inl hy
  · simpa using hx

theorem mem_values_delete {l : Ledger} {h : HandlerId} {x : HookRegistration}
    (hx : x ∈ (l.delete h).2.values) : x ∈ l.values :=
  List.mem_of_mem_filter hx

/-- Every registration of the ledger is one {lit}`on` built for {lit}`hook`. -/
def WellFormed (hook : HookName) (l : Ledger) : Prop :=
  ∀ r ∈ l.values, r.WellFormed hook

theorem wellFormed_empty (hook : HookName) : empty.WellFormed hook :=
  fun _ hr => absurd hr (List.not_mem_nil _)

theorem WellFormed.set {hook : HookName} {l : Ledger} (hl : l.WellFormed hook)
    {r : HookRegistration} (hr : r.WellFormed hook) : (l.set r).WellFormed hook :=
  fun _ hx => (mem_values_set hx).elim (hl _) fun h => h ▸ hr

theorem WellFormed.delete {hook : HookName} {l : Ledger} (hl : l.WellFormed hook) (h : HandlerId) :
    (l.delete h).2.WellFormed hook :=
  fun _ hx => hl _ (mem_values_delete hx)

end Ledger

/-! ## The registry and its operations -/

/-- Severity of a console message. -/
inductive Level where
  | error
  | warn
  deriving DecidableEq, Repr

/-- A message printed with {lit}`console.error` or {lit}`console.warn`. -/
structure Message where
  level : Level
  text : String
  deriving DecidableEq, Repr

/-- A hook name between single quotes, as the messages print it. -/
def quoted (s : String) : String :=
  "\x27" ++ s ++ "\x27"

/-- The state of a {lit}`Hooks` instance: the registry of ledgers and, in order,
the console messages it has printed.  Every ledger holds only registrations
{lit}`on` built for its hook; the operations below keep this, so it is a field,
as the unique keys are a field of {lit}`Ledger`. -/
@[ext]
structure Hooks where
  registry : HookName → Option Ledger
  console : List Message
  wellFormed : ∀ k l, registry k = some l → l.WellFormed k

/-- The core hooks, in the order of the {lit}`hooks` array. -/
def hookNames : List HookName :=
  ["animation:out:start", "animation:out:await", "animation:out:end",
    "animation:in:start", "animation:in:await", "animation:in:end", "animation:skip",
    "cache:clear", "cache:set", "content:replace", "content:scroll", "enable", "disable",
    "fetch:request", "fetch:error", "history:popstate", "link:click", "link:self",
    "link:anchor", "link:newtab", "page:load", "page:view", "scroll:top",
    "scroll:anchor", "visit:start", "visit:end"]

namespace Hooks

/-- Print a message. -/
def log (s : Hooks) (level : Level) (text : String) : Hooks :=
  { s with console := s.console ++ [⟨level, text⟩] }

theorem wellFormed_update (s : Hooks) {hook : HookName} {l : Ledger} (hl : l.WellFormed hook) :
    ∀ k l', Function.update s.registry hook (some l) k = some l' → l'.WellFormed k := by
  intro k l' hk
  rw [Function.update_apply] at hk
  split_ifs at hk with h
  · cases hk
    exact h ▸ hl
  · exact s.wellFormed k l' hk

/-- Replace the ledger of a hook. -/
def setLedger (s : Hooks) (hook : HookName) (l : Ledger) (hl : l.WellFormed hook) : Hooks :=
  { s with registry := Function.update s.registry hook (some l), wellFormed := s.wellFormed_update hl }

/-- {lit}`create(hook)`: add an empty ledger unless the hook exists. -/
def create (s : Hooks) (hook : HookName) : Hooks :=
  if (s.registry hook).isSome then s else s.setLedger hook Ledger.empty (Ledger.wellFormed_empty hook)

/-- A registry with no hooks. -/
def empty : Hooks :=
  ⟨fun _ => none, [], fun _ _ h => Option.noConfusion h⟩

/-- The constructor: {lit}`init()` creates the ledger of every core hook. -/
def init : Hooks :=
  hookNames.foldl create empty

/-- {lit}`exists(hook)`. -/
def «exists» (s : Hooks) (hook : HookName) : Bool :=
  (s.registry hook).isSome

/-- {lit}`get(hook)`: the ledger, or an error message for an unknown hook. -/
def get (s : Hooks) (hook : HookName) : Option Ledger × Hooks :=
  match s.registry hook with
  | some l => (some l, s)
  | none => (none, s.log .error ("Unknown hook " ++ quoted hook))

/-- The ledger {lit}`get` finds is one of the registry's. -/
theorem wellFormed_of_get {s s' : Hooks} {hook : HookName} {l : Ledger}
    (h : s.get hook = (some l, s')) : l.WellFormed hook := by
  unfold get at h
  split at h
  · cases h
    exact s.wellFormed hook l ‹_›
  · cases h

theorem wellFormed_clear (s : Hooks) :
    ∀ k l, (s.registry k).map (fun _ => Ledger.empty) = some l → l.WellFormed k := by
  intro k l hk
  obtain ⟨_, -, rfl⟩ := Option.map_eq_some'.mp hk
  exact Ledger.wellFormed_empty k

/-- {lit}`clear()`: empty every ledger. -/
def clear (s : Hooks) : Hooks :=
  { s with registry := fun hook => (s.registry hook).map fun _ => Ledger.empty,
           wellFormed := s.wellFormed_clear }

/-- {lit}`on(hook, handler, options)`: the new registration gets the id
{lit}`ledger.size + 1` and is stored under its handler. -/
def «on» (s : Hooks) (hook : HookName) (handler : HandlerId) (options : HookOptions := {}) :
    Hooks :=
  match hget : s.get hook with
  | (none, s') => s'.log .warn ("Hook " ++ quoted hook ++ " not found.")
  | (some l, s') =>
    s'.setLedger hook (l.set (.ofOptions options (l.size + 1) hook handler))
      ((wellFormed_of_get hget).set (HookRegistration.ofOptions_wellFormed _ _ _ _))

/-- {lit}`before(hook, handler, options)`. -/
def before (s : Hooks) (hook : HookName) (handler : HandlerId) (options : HookOptions := {}) :
    Hooks :=
  s.«on» hook handler { options with before := true }

/-- {lit}`replace(hook, handler, options)`. -/
def replace (s : Hooks) (hook : HookName) (handler : HandlerId) (options : HookOptions := {}) :
    Hooks :=
  s.«on» hook handler { options with replace := true }

/-- {lit}`once(hook, handler, options)`. -/
def once (s : Hooks) (hook : HookName) (handler : HandlerId) (options : HookOptions := {}) :
    Hooks :=
  s.«on» hook handler { options with once := true }

/-- {lit}`off(hook, handler?)`: delete one handler, warning when it is not
registered, or clear the ledger when no handler is given. -/
def off (s : Hooks) (hook : HookName) (handler : Option HandlerId) : Hooks :=
  match hget : s.get hook with
  | (some l, s') =>
    match handler with
    | some h =>
      let deleted := l.delete h
      let s'' := s'.setLedger hook deleted.2 ((wellFormed_of_get hget).delete h)
      if deleted.1 then s'' else s''.log .warn ("Handler for hook " ++ quoted hook ++ " not found.")
    | none => s'.setLedger hook Ledger.empty (Ledger.wellFormed_empty hook)
  | (none, s') => s'

/-! ## Small lemmas -/

@[simp]
theorem log_registry (s : Hooks) (level : Level) (text : String) :
    (s.log level text).registry = s.registry :=
  rfl

@[simp]
theorem setLedger_registry (s : Hooks) (hook : HookName) (l : Ledger) (hl : l.WellFormed hook) :
    (s.setLedger hook l hl).registry = Function.update s.registry hook (some l) :=
  rfl

@[simp]
theorem get_fst (s : Hooks) (hook : HookName) : (s.get hook).1 = s.registry hook := by
  unfold get; split <;> simp_all

@[simp]
theorem get_registry (s : Hooks) (hook : HookName) :
    (s.get hook).2.registry = s.registry := by
  unfold get; split <;> rfl

theorem get_of_some {s : Hooks} {hook : HookName} {l : Ledger} (hl : s.registry hook = some l) :
    s.get hook = (some l, s) := by
  simp [get, hl]

theorem get_of_none {s : Hooks} {hook : HookName} (hl : s.registry hook = none) :
    s.get hook = (none, s.log .error ("Unknown hook " ++ quoted hook)) := by
  simp [get, hl]

/-- {lit}`on` for a hook that exists sets the new registration in its ledger. -/
theorem on_of_registry {s : Hooks} {hook : HookName} {l : Ledger} (hl : s.registry hook = some l)
    (h : HandlerId) (o : HookOptions) :
    s.«on» hook h o = s.setLedger hook (l.set (.ofOptions o (l.size + 1) hook h))
      ((s.wellFormed hook l hl).set (HookRegistration.ofOptions_wellFormed _ _ _ _)) := by
  unfold «on»
  split <;> rename_i hget <;> rw [get_of_some hl] at hget <;> cases hget
  rfl

/-- {lit}`on` for a hook that does not exist prints an error and a warning. -/
theorem on_of_none {s : Hooks} {hook : HookName} (hl : s.registry hook = none) (h : HandlerId)
    (o : HookOptions) :
    s.«on» hook h o = (s.log .error ("Unknown hook " ++ quoted hook)).log .warn
      ("Hook " ++ quoted hook ++ " not found.") := by
  unfold «on»
  split <;> rename_i hget <;> rw [get_of_none hl] at hget <;> cases hget
  rfl

/-- {lit}`off(hook, handler)` for a hook that exists deletes the key, and warns
when there was none. -/
theorem off_of_registry {s : Hooks} {hook : HookName} {l : Ledger} (hl : s.registry hook = some l)
    (h : HandlerId) :
    s.off hook (some h) =
      if (l.delete h).1 then s.setLedger hook (l.delete h).2 ((s.wellFormed hook l hl).delete h)
      else (s.setLedger hook (l.delete h).2 ((s.wellFormed hook l hl).delete h)).log .warn
        ("Handler for hook " ++ quoted hook ++ " not found.") := by
  unfold off
  split <;> rename_i hget <;> rw [get_of_some hl] at hget <;> cases hget
  rfl

/-- {lit}`off(hook)` for a hook that exists empties its ledger. -/
theorem off_none_of_registry {s : Hooks} {hook : HookName} {l : Ledger}
    (hl : s.registry hook = some l) :
    s.off hook none = s.setLedger hook Ledger.empty (Ledger.wellFormed_empty hook) := by
  unfold off
  split <;> rename_i hget <;> rw [get_of_some hl] at hget <;> cases hget
  rfl

/-- {lit}`off` for a hook that does not exist prints an error. -/
theorem off_of_none {s : Hooks} {hook : HookName} (hl : s.registry hook = none)
    (h : Option HandlerId) : s.off hook h = s.log .error ("Unknown hook " ++ quoted hook) := by
  unfold off
  split <;> rename_i hget <;> rw [get_of_none hl] at hget <;> cases hget
  rfl

/-- {lit}`on` changes at most the ledger of its hook, by {lit}`set`. -/
theorem on_registry (s : Hooks) (hook : HookName) (handler : HandlerId)
    (options : HookOptions) :
    (s.«on» hook handler options).registry =
      match s.registry hook with
      | none => s.registry
      | some l =>
        Function.update s.registry hook
          (some (l.set (.ofOptions options (l.size + 1) hook handler))) := by
  cases h : s.registry hook with
  | none => rw [on_of_none h]; rfl
  | some l => rw [on_of_registry h]; rfl

/-- {lit}`off` with a handler deletes that key and nothing else. -/
theorem off_registry_some (s : Hooks) (hook : HookName) (h : HandlerId) :
    (s.off hook (some h)).registry =
      match s.registry hook with
      | none => s.registry
      | some l => Function.update s.registry hook (some (l.delete h).2) := by
  cases hl : s.registry hook with
  | none => rw [off_of_none hl]; rfl
  | some l => rw [off_of_registry hl]; split <;> rfl

/-- {lit}`off` without a handler empties the ledger. -/
theorem off_registry_none (s : Hooks) (hook : HookName) :
    (s.off hook none).registry =
      match s.registry hook with
      | none => s.registry
      | some _ => Function.update s.registry hook (some Ledger.empty) := by
  cases hl : s.registry hook with
  | none => rw [off_of_none hl]; rfl
  | some l => rw [off_none_of_registry hl]; rfl

/-! ## Registry calls -/

/-- A call made on the registry by a handler or by any other code. -/
inductive Op where
  | «on» (hook : HookName) (handler : HandlerId) (options : HookOptions)
  | off (hook : HookName) (handler : Option HandlerId)
  | clear
  deriving DecidableEq, Repr

/-- Perform one registry call. -/
def apply (s : Hooks) : Op → Hooks
  | .on hook h o => s.«on» hook h o
  | .off hook h => s.off hook h
  | .clear => s.clear

/-- Perform registry calls in order. -/
def replay (s : Hooks) (ops : List Op) : Hooks :=
  ops.foldl apply s

@[simp]
theorem replay_nil (s : Hooks) : s.replay [] = s :=
  rfl

theorem replay_append (s : Hooks) (a b : List Op) :
    s.replay (a ++ b) = (s.replay a).replay b :=
  List.foldl_append _ _ _ _

theorem replay_cons (s : Hooks) (op : Op) (ops : List Op) :
    s.replay (op :: ops) = (s.apply op).replay ops :=
  rfl

/-- What a registry call does to the registry depends only on the registry. -/
theorem apply_registry_congr {s t : Hooks} (h : s.registry = t.registry) (op : Op) :
    (s.apply op).registry = (t.apply op).registry := by
  cases op with
  | «on» hook handler o => simp only [apply, on_registry, h]
  | off hook handler =>
    cases handler <;> simp only [apply, off_registry_some, off_registry_none, h]
  | clear => simp only [apply, clear, h]

theorem replay_registry_congr {s t : Hooks} (h : s.registry = t.registry) (ops : List Op) :
    (s.replay ops).registry = (t.replay ops).registry := by
  induction ops generalizing s t with
  | nil => exact h
  | cons op ops ih => exact ih (apply_registry_congr h op)

/-- Updating the ledger of one hook, if it exists, puts a key in it only where it
was or where the update adds it. -/
theorem mem_handlers_update {reg : HookName → Option Ledger} {hook' hook : HookName}
    {f : Ledger → Ledger} {l' : Ledger} {k : HandlerId} (P : Prop)
    (hf : ∀ l, k ∈ (f l).handlers → k ∈ l.handlers ∨ P)
    (hl' : (match reg hook' with
      | none => reg
      | some l => Function.update reg hook' (some (f l))) hook = some l')
    (hk : k ∈ l'.handlers) : (∃ l, reg hook = some l ∧ k ∈ l.handlers) ∨ (hook = hook' ∧ P) := by
  cases hr : reg hook' with
  | none => simp only [hr] at hl'; exact .inl ⟨l', hl', hk⟩
  | some l =>
    simp only [hr, Function.update_apply] at hl'
    split at hl'
    · subst hook
      cases hl'
      exact (hf l hk).imp (fun h => ⟨l, hr, h⟩) fun h => ⟨rfl, h⟩
    · exact .inl ⟨l', hl', hk⟩

/-- A key appears in a ledger only where it was, or by being registered there. -/
theorem apply_handlers_subset {s : Hooks} {op : Op} {hook : HookName} {l' : Ledger}
    {k : HandlerId} (hl' : (s.apply op).registry hook = some l') (hk : k ∈ l'.handlers) :
    (∃ l, s.registry hook = some l ∧ k ∈ l.handlers) ∨ ∃ o, op = .on hook k o := by
  cases op with
  | «on» hook' h o =>
    rw [apply, on_registry] at hl'
    refine (mem_handlers_update (k = h) (fun l hk => Ledger.mem_handlers_set.mp hk) hl' hk).imp_right ?_
    rintro ⟨rfl, rfl⟩
    exact ⟨o, rfl⟩
  | off hook' h =>
    cases h with
    | some h =>
      rw [apply, off_registry_some] at hl'
      exact (mem_handlers_update False
        (fun l hk => .inl (Ledger.mem_handlers_delete.mp hk).1) hl' hk).imp_right (·.2.elim)
    | none =>
      rw [apply, off_registry_none] at hl'
      exact (mem_handlers_update False (fun l hk => by simp at hk) hl' hk).imp_right (·.2.elim)
  | clear =>
    simp only [apply, clear, Option.map_eq_some'] at hl'
    obtain ⟨l, hl, rfl⟩ := hl'
    simp at hk

end Hooks

end Swup
