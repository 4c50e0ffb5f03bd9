import Swup.Hooks.OnceRemoval

/-!
# Swup hooks - The order a trigger runs registrations in

{lit}`call` runs the before group, then the main handler, then the after group,
each sorted by {lit}`sortRegistrations`: ascending priority, then ascending id.
{lit}`on` gives a registration the id {lit}`ledger.size + 1`.  While nothing has
been removed from the ledger that is the registration's position, but after a
removal a new registration can get the id of an older one, or a smaller one, and
then runs before registrations made earlier.

Main results:

- Theorem {lit}`call_runs_sorted_groups`: a trigger that returns ran the before
  group, the main handler and the after group, in that order; each group is a
  sorted permutation of its registrations, and every registration without
  {lit}`replace` is in exactly one of the two groups.
- Theorem {lit}`later_registration_runs_first`: after {lit}`on` of three
  handlers, {lit}`off` of the first two and {lit}`on` of a fourth, the fourth has
  the id {lit}`2` and runs before the third.
-/

namespace Swup

/-- The registration a step ran, if it ran one. -/
def Step.ran? : Step → Option HookRegistration
  | .ran r _ => some r
  | .removed _ _ => none

@[simp]
theorem ran?_afterRun (r : HookRegistration) (out : Except Value Value) :
    (afterRun r out).filterMap Step.ran? = [r] := by
  unfold afterRun
  split <;> rfl

theorem ran?_flatMap_afterRun (runs : List (HookRegistration × Except Value Value)) :
    (runs.flatMap fun p => afterRun p.1 p.2).filterMap Step.ran? = runs.map Prod.fst := by
  induction runs with
  | nil => rfl
  | cons p runs ih => simp [ih]

section Semantics

variable {Visit Args : Type} (impl : HandlerId → Visit → Args → Option Fn → Prog Visit Args)

/-- A trigger that returns ran the before group, the main handler and the after
group of the ledger it found, in that order.  The two groups are sorted by
priority and then id, keep the ledger's order between registrations that compare
equal, and together hold every registration without {lit}`replace` once. -/
theorem call_runs_sorted_groups (v : Visit) (hook : HookName) (a : Args) (d : Option HandlerId)
    (w : World Visit Args) {l : Ledger} (hl : w.hooks.registry hook = some l) {b : Value}
    {w' : World Visit Args} (hok : (call impl v hook a d).run w = .ok b w') :
    let hs := sortHandlers l.values hook d
    (observed Event.step? w ((call impl v hook a d).run w)).filterMap Step.ran? =
        hs.before ++ hs.handler ++ hs.after ∧
      SortedGroup (l.values.filter isBefore) hs.before ∧
      SortedGroup (l.values.filter isAfter) hs.after ∧
      (hs.before ++ hs.after).Perm (l.values.filter fun r => !r.replace) := by
  obtain ⟨runs, hobs, -, hall⟩ := (trigger_steps impl v hook a d w).1
  refine ⟨?_, jsSort_sortedGroup _, jsSort_sortedGroup _, sortHandlers_before_after_perm _ _ _⟩
  rw [hobs, ran?_flatMap_afterRun, hall b w' hok, Hooks.getHandlers_of_some hl]
  rfl

end Semantics

/-! ## A reused id -/

/-- {lit}`on` of handlers 1, 2 and 3, {lit}`off` of 1 and 2, then {lit}`on` of 4,
all for {lit}`visit:start`. -/
def reusedIdOps : List Hooks.Op :=
  [.on "visit:start" 1 {}, .on "visit:start" 2 {}, .on "visit:start" 3 {},
    .off "visit:start" (some 1), .off "visit:start" (some 2), .on "visit:start" 4 {}]

/-- The registry {lit}`reusedIdOps` leaves. -/
def reusedIdHooks : Hooks :=
  Hooks.init.replay reusedIdOps

theorem call_runs_sorted_groups_reusedId :
    let w : World Unit Unit := ⟨reusedIdHooks, [], []⟩
    let l := (reusedIdHooks.registry "visit:start").get (by decide)
    let hs := sortHandlers l.values "visit:start" (some 9)
    (observed Event.step? w ((call returnsUndefined () "visit:start" () (some 9)).run w)).filterMap
        Step.ran? = hs.before ++ hs.handler ++ hs.after ∧
      SortedGroup (l.values.filter isBefore) hs.before ∧
      SortedGroup (l.values.filter isAfter) hs.after ∧
      (hs.before ++ hs.after).Perm (l.values.filter fun r => !r.replace) :=
  call_runs_sorted_groups returnsUndefined () "visit:start" () (some 9) _
    (Option.some_get _).symm rfl

/-- After {lit}`reusedIdOps`, handler 4 has the id {lit}`2` and handler 3 the id
{lit}`3`, so a trigger runs 4 before 3 although 3 was registered first. -/
theorem later_registration_runs_first :
    let w : World Unit Unit := ⟨reusedIdHooks, [], []⟩
    (reusedIdHooks.registry "visit:start").map (fun l => l.values.map fun r => (r.handler, r.id)) =
        some [(3, 3), (4, 2)] ∧
      observed Event.invoked? w ((call returnsUndefined () "visit:start" () (some 9)).run w) =
        [9, 4, 3] := by
  decide

end Swup
