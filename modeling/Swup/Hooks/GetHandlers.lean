import Swup.Hooks.Registry
import Mathlib.Data.List.Sort

/-!
# Swup hooks - Sorting registrations and the replace chain

This module models {lit}`sortRegistrations` and {lit}`getHandlers` of
{lit}`src/modules/Hooks.ts`.  A trigger splits the ledger into the
{lit}`before`, {lit}`replace` and {lit}`after` groups, sorts each with
{lit}`Array.prototype.sort`, which is stable, and builds the main handler: the
trigger's default handler, or the last replacement with a synthesized default
handler that calls down the replace chain.

Main results:

- Structure {lit}`SortedGroup` and theorem {lit}`jsSort_sortedGroup`: a sorted
  group is a permutation of its filtered registrations, sorted by priority and
  then id, and registrations that compare equal keep their map order.
- Theorem {lit}`groups_perm`: the before, replace and after groups together hold
  every registration of the ledger exactly once.
- Theorem {lit}`sortHandlers_handler_replaced`: with a default handler and a
  nonempty replace group, the main handler is the last replacement, whose
  default handler is {lit}`createDefaultHandler` at the last index.

Current gaps:

- {lit}`Array.prototype.sort` is modelled as a stable insertion sort; for the
  consistent comparator used here every stable sort gives the same list.
-/

namespace Swup

/-! ## The comparator and the stable sort -/

/-- {lit}`sortRegistrations(a, b)`: the priority difference, or else the id
difference, or else {lit}`0`; an absent priority counts as {lit}`0`. -/
def sortRegistrations (a b : HookRegistration) : Int :=
  let priority := a.priority.getD 0 - b.priority.getD 0
  let id := (a.id : Int) - b.id
  if priority ≠ 0 then priority else if id ≠ 0 then id else 0

/-- {lit}`Array.prototype.sort(compare)`: a stable sort that keeps {lit}`a` before
{lit}`b` when {lit}`compare(a, b) ≤ 0`. -/
def jsSort {α : Type} (compare : α → α → Int) (xs : List α) : List α :=
  xs.insertionSort fun a b => compare a b ≤ 0

/-- The order a sorted group follows: {lit}`a` may run before {lit}`b`. -/
def RunsBefore (a b : HookRegistration) : Prop :=
  sortRegistrations a b ≤ 0

instance : DecidableRel RunsBefore := fun a b =>
  inferInstanceAs (Decidable (sortRegistrations a b ≤ 0))

/-- The comparator orders by priority, then by id. -/
theorem runsBefore_iff (a b : HookRegistration) :
    RunsBefore a b ↔
      a.priority.getD 0 < b.priority.getD 0 ∨
        (a.priority.getD 0 = b.priority.getD 0 ∧ a.id ≤ b.id) := by
  simp only [RunsBefore, sortRegistrations]
  split_ifs <;> omega

theorem runsBefore_total (a b : HookRegistration) : RunsBefore a b ∨ RunsBefore b a := by
  simp only [runsBefore_iff]
  omega

theorem runsBefore_trans {a b c : HookRegistration} :
    RunsBefore a b → RunsBefore b c → RunsBefore a c := by
  simp only [runsBefore_iff]
  omega

instance : IsTotal HookRegistration RunsBefore :=
  ⟨runsBefore_total⟩

instance : IsTrans HookRegistration RunsBefore :=
  ⟨fun _ _ _ => runsBefore_trans⟩

/-- Registrations compare equal exactly when priority and id agree. -/
theorem sortRegistrations_eq_zero {a b : HookRegistration} :
    sortRegistrations a b = 0 ↔ a.priority.getD 0 = b.priority.getD 0 ∧ a.id = b.id := by
  simp only [sortRegistrations]
  split_ifs <;> omega

/-- What {lit}`source.sort(sortRegistrations)` is: a permutation of
{lit}`source`, sorted by priority and then id, in which registrations that
compare equal keep their order in {lit}`source`. -/
structure SortedGroup (source group : List HookRegistration) : Prop where
  perm : group.Perm source
  sorted : group.Sorted RunsBefore
  stable : ∀ {a b}, sortRegistrations a b = 0 → [a, b].Sublist source → [a, b].Sublist group

theorem jsSort_sortedGroup (xs : List HookRegistration) :
    SortedGroup xs (jsSort sortRegistrations xs) where
  perm := List.perm_insertionSort _ _
  sorted := List.sorted_insertionSort _ _
  stable := fun hab h => List.pair_sublist_insertionSort (le_of_eq hab) h

/-! ## getHandlers -/

/-- The object {lit}`getHandlers` returns. -/
structure Handlers where
  found : Bool
  before : List HookRegistration
  handler : List HookRegistration
  after : List HookRegistration
  replaced : Bool
  deriving DecidableEq, Repr

/-- The registrations a trigger runs directly: the before group, the main
handler and the after group, in that order. -/
def Handlers.direct (hs : Handlers) : List HookRegistration :=
  hs.before ++ hs.handler ++ hs.after

/-- {lit}`createDefaultHandler(index)` of {lit}`getHandlers`: the closure for
{lit}`index` when {lit}`replace[index - 1]` exists, and otherwise the trigger's
default handler itself. -/
def createDefaultHandler (replace : List HandlerId) (defaultHandler : HandlerId) :
    Nat → Fn
  | 0 => .handler defaultHandler
  | i + 1 => if i < replace.length then .nested replace defaultHandler (i + 1)
      else .handler defaultHandler

/-- Registrations of the {lit}`before` group. -/
def isBefore (r : HookRegistration) : Bool :=
  r.before && !r.replace

/-- Registrations of the {lit}`after` group. -/
def isAfter (r : HookRegistration) : Bool :=
  !r.before && !r.replace

/-- The part of {lit}`getHandlers` that follows a found ledger: filter into the
three groups, sort each, and define the main handler registration. -/
def sortHandlers (registrations : List HookRegistration) (hook : HookName)
    (defaultHandler : Option HandlerId) : Handlers :=
  let before := jsSort sortRegistrations (registrations.filter isBefore)
  let replace := jsSort sortRegistrations (registrations.filter (·.replace))
  let after := jsSort sortRegistrations (registrations.filter isAfter)
  let handler := match defaultHandler, replace.getLast? with
    | none, _ => []
    | some d, none => [{ id := 0, hook := hook, handler := d }]
    | some d, some last =>
      [{ id := 0, hook := hook, handler := last.handler,
         defaultHandler :=
           some (createDefaultHandler (replace.map (·.handler)) d (replace.length - 1)) }]
  ⟨true, before, handler, after, decide (0 < replace.length)⟩

/-- The three filters split any list of registrations. -/
theorem groups_perm (rs : List HookRegistration) :
    (rs.filter isBefore ++ rs.filter (·.replace) ++ rs.filter isAfter).Perm rs := by
  induction rs with
  | nil => rfl
  | cons r rs ih =>
    rw [List.append_assoc] at ih ⊢
    cases hb : r.before <;> cases hr : r.replace <;>
      simp only [List.filter_cons, isBefore, isAfter, hb, hr, Bool.not_true, Bool.not_false,
        Bool.and_false, Bool.and_true, if_true, Bool.false_eq_true, if_false, List.cons_append]
    · exact (List.perm_middle.append_left _).trans (List.perm_middle.trans (ih.cons r))
    · exact List.perm_middle.trans (ih.cons r)
    · exact ih.cons r
    · exact List.perm_middle.trans (ih.cons r)

/-- Every non-replacing registration of the ledger is in exactly one of the two
groups a trigger runs directly. -/
theorem sortHandlers_before_after_perm (rs : List HookRegistration) (hook : HookName)
    (d : Option HandlerId) :
    ((sortHandlers rs hook d).before ++ (sortHandlers rs hook d).after).Perm
      (rs.filter fun r => !r.replace) := by
  have hsplit := List.filter_append_perm (·.before) (rs.filter fun r => !r.replace)
  simp only [List.filter_filter] at hsplit
  refine ((jsSort_sortedGroup _).perm.append (jsSort_sortedGroup _).perm).trans ?_
  convert hsplit using 3

/-- The before and after groups hold registrations of the ledger. -/
theorem mem_of_mem_sortHandlers_before_after {rs : List HookRegistration} {hook : HookName}
    {d : Option HandlerId} {r : HookRegistration}
    (hr : r ∈ (sortHandlers rs hook d).before ++ (sortHandlers rs hook d).after) : r ∈ rs :=
  List.mem_of_mem_filter ((sortHandlers_before_after_perm rs hook d).subset hr)

@[simp]
theorem createDefaultHandler_zero (hs : List HandlerId) (d : HandlerId) :
    createDefaultHandler hs d 0 = .handler d :=
  rfl

theorem createDefaultHandler_succ {hs : List HandlerId} {d : HandlerId} {i : Nat}
    (hi : i < hs.length) : createDefaultHandler hs d (i + 1) = .nested hs d (i + 1) := by
  simp [createDefaultHandler, hi]

/-- With a default handler and a nonempty replace group, the main handler is
the last replacement, with the synthesized default handler of the last index. -/
theorem sortHandlers_handler_replaced {rs : List HookRegistration} {hook : HookName}
    {d : HandlerId} {last : HookRegistration}
    (h : (jsSort sortRegistrations (rs.filter (·.replace))).getLast? = some last) :
    (sortHandlers rs hook (some d)).handler =
      [{ id := 0, hook := hook, handler := last.handler,
         defaultHandler := some (createDefaultHandler
           ((jsSort sortRegistrations (rs.filter (·.replace))).map (·.handler)) d
           ((jsSort sortRegistrations (rs.filter (·.replace))).length - 1)) }] := by
  simp only [sortHandlers, h]

/-- The main handler registration is built without {lit}`once`, whatever flags
the replacement it stands for was registered with. -/
theorem sortHandlers_handler_not_once (rs : List HookRegistration) (hook : HookName)
    (d : Option HandlerId) : ∀ r ∈ (sortHandlers rs hook d).handler, r.once = false := by
  simp only [sortHandlers]
  split <;> simp

namespace Hooks

/-- {lit}`getHandlers(hook, defaultHandler)`. -/
def getHandlers (s : Hooks) (hook : HookName) (defaultHandler : Option HandlerId) :
    Handlers × Hooks :=
  match s.get hook with
  | (none, s') => (⟨false, [], [], [], false⟩, s')
  | (some ledger, s') => (sortHandlers ledger.values hook defaultHandler, s')

@[simp]
theorem getHandlers_registry (s : Hooks) (hook : HookName) (d : Option HandlerId) :
    (s.getHandlers hook d).2.registry = s.registry := by
  unfold getHandlers; split <;> rename_i h <;> rw [← get_registry s hook, h]

theorem getHandlers_of_some {s : Hooks} {hook : HookName} {l : Ledger}
    (h : s.registry hook = some l) (d : Option HandlerId) :
    (s.getHandlers hook d).1 = sortHandlers l.values hook d := by
  simp [getHandlers, get, h]

/-- A registration with {lit}`once` set that a trigger runs directly is one of
the ledger's. -/
theorem sortHandlers_direct_once {rs : List HookRegistration} {hook : HookName}
    {d : Option HandlerId} {r : HookRegistration} (hr : r ∈ (sortHandlers rs hook d).direct)
    (ho : r.once = true) : r ∈ rs := by
  simp only [Handlers.direct, List.mem_append] at hr
  rcases hr with (hr | hr) | hr
  · exact List.mem_of_mem_filter ((jsSort_sortedGroup _).perm.subset hr)
  · simp [sortHandlers_handler_not_once rs hook d r hr] at ho
  · exact List.mem_of_mem_filter ((jsSort_sortedGroup _).perm.subset hr)

/-- The registrations with {lit}`once` set that a trigger runs directly have
distinct handlers. -/
theorem sortHandlers_direct_once_nodup (rs : List HookRegistration) (hook : HookName)
    (d : Option HandlerId) (hnd : (rs.map (·.handler)).Nodup) :
    (((sortHandlers rs hook d).direct.filter (·.once)).map (·.handler)).Nodup := by
  have hmain : (sortHandlers rs hook d).handler.filter (·.once) = [] :=
    List.filter_eq_nil_iff.mpr fun r hr => by simp [sortHandlers_handler_not_once rs hook d r hr]
  have hperm := ((sortHandlers_before_after_perm rs hook d).filter (·.once)).map (·.handler)
  rw [List.filter_append] at hperm
  simp only [Handlers.direct, List.filter_append, hmain, List.append_nil]
  exact hperm.nodup_iff.mpr (hnd.sublist (((List.filter_sublist _).trans
    (List.filter_sublist _)).map _))

theorem getHandlers_handler_not_once (s : Hooks) (hook : HookName) (d : Option HandlerId) :
    ∀ r ∈ (s.getHandlers hook d).1.handler, r.once = false := by
  unfold getHandlers
  split
  · simp
  · exact sortHandlers_handler_not_once _ hook d

/-- What a trigger runs directly with {lit}`once` set was in the ledger when it
started, one registration per handler. -/
theorem getHandlers_direct_once (s : Hooks) (hook : HookName) (d : Option HandlerId) :
    (∀ r ∈ (s.getHandlers hook d).1.direct, r.once = true →
      ∃ l, s.registry hook = some l ∧ r ∈ l.values) ∧
    ((((s.getHandlers hook d).1.direct).filter (·.once)).map (·.handler)).Nodup := by
  cases hl : s.registry hook with
  | none => simp [getHandlers, get, hl, Handlers.direct]
  | some l =>
    rw [getHandlers_of_some hl]
    exact ⟨fun r hr ho => ⟨l, rfl, sortHandlers_direct_once hr ho⟩,
      sortHandlers_direct_once_nodup _ hook d l.nodup⟩

end Hooks

end Swup
