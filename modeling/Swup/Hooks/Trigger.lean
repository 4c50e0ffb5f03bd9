import Swup.Hooks.GetHandlers

/-!
# Swup hooks - Running a trigger

This module models {lit}`call`, {lit}`callSync`, {lit}`run`, {lit}`runSync` and
the closures of {lit}`getHandlers` in {lit}`src/modules/Hooks.ts`.  A handler
function is arbitrary code; what it can do to the hook system is a tree of
requests ({lit}`Prog`): return or throw a value, call the registry, call its
default handler and continue with the outcome, or return the pending promise of
an async function.  A trigger runs in {lit}`EStateM`, so a handler's exception
ends the trigger without losing the registry it leaves, and a trace records
what a spy would see: every call of a handler function, every registration the
trigger runs directly with its outcome, every registry call, and the DOM event.

Main results:

- Definitions {lit}`run`, {lit}`runSync`, {lit}`call` and {lit}`callSync`: the
  two triggers and their loops over the registrations.
- Definition {lit}`callNested`: the closures {lit}`createDefaultHandler` builds
  for the replace chain.

Current gaps:

- Handlers call the registry and their default handler; a handler that starts a
  nested trigger is covered by the concurrent model of
  {lit}`Swup.Hooks.Concurrent`.
- An awaited promise that settles to another promise is not adopted again.
- A program cannot await the promise its default handler returned: it continues
  at once with that promise as a value, and the tail of an async handler
  further down the replace chain is deferred, not run.  Replace chains are
  modelled in their synchronous parts.
-/

namespace Swup

/-! ## Values, handler programs and the trace -/

/-- JavaScript values as handlers return and throw them: {lit}`undefined`, plain
data, an error object, or a thenable, named by the promise it is. -/
inductive Value where
  | undefined
  | data (n : Int)
  | error (message : String)
  | thenable (promise : Nat)
  deriving DecidableEq, Repr

/-- Modelled from the spec: {lit}`isPromise` of {lit}`utils`, which is missing
from the sources; the spec and its tests take it to recognise thenables. -/
def isPromise : Value → Bool
  | .thenable _ => true
  | _ => false

/-- The {lit}`TypeError` thrown by calling an absent default handler. -/
def notAFunction : Value :=
  .error "defaultHandler is not a function"

/-- What one invocation of a handler function does, as a tree of requests.  It
returns or throws a value, calls the registry, calls its default handler and
continues with the outcome, or returns the pending promise of an async function,
which settles by running the tail. -/
inductive Prog (Visit Args : Type) where
  | ret (v : Value)
  | throw (e : Value)
  | request (op : Hooks.Op) (next : Prog Visit Args)
  | callDefault (visit : Visit) (args : Args) (next : Except Value Value → Prog Visit Args)
  | async (promise : Nat) (tail : Prog Visit Args)

/-- What a spy observes while a trigger runs. -/
inductive Event (Visit Args : Type) where
  /-- A handler function is called with its three arguments. -/
  | invoke (handler : HandlerId) (visit : Visit) (args : Args) (defaultHandler : Option Fn)
  /-- A registration the trigger runs directly has returned or thrown. -/
  | returned (registration : HookRegistration) (result : Except Value Value)
  /-- A handler calls the registry. -/
  | request (op : Hooks.Op)
  /-- The trigger removes a once registration with {lit}`off(hook, handler)`. -/
  | unregister (hook : HookName) (handler : HandlerId)
  /-- {lit}`dispatchDomEvent`: a custom event on the document. -/
  | dispatch (type : String) (hook : HookName) (args : Args) (visit : Visit)

namespace Event

variable {Visit Args : Type}

/-- The registry call an event records. -/
def call? : Event Visit Args → Option Hooks.Op
  | .request op => some op
  | .unregister hook h => some (.off hook (some h))
  | _ => none

/-- The handler function an event calls. -/
def invoked? : Event Visit Args → Option HandlerId
  | .invoke h _ _ _ => some h
  | _ => none

/-- The registration an event runs directly, with its outcome. -/
def returned? : Event Visit Args → Option (HookRegistration × Except Value Value)
  | .returned r out => some (r, out)
  | _ => none

end Event

/-- Everything a trigger reads and changes: the hook registry with its console,
the spy trace, and the async tails a synchronous call left pending. -/
structure World (Visit Args : Type) where
  hooks : Hooks
  trace : List (Event Visit Args)
  deferred : List (Prog Visit Args)

/-- Triggers run in a state monad whose exceptions keep the state. -/
abbrev TriggerM (Visit Args : Type) :=
  EStateM Value (World Visit Args)

/-- The world a run ends in, whether it returns or throws. -/
def final {ε σ α : Type} : EStateM.Result ε σ α → σ
  | .ok _ s => s
  | .error _ s => s

namespace World

variable {Visit Args : Type}

/-- Append an event to the trace. -/
def record (e : Event Visit Args) : TriggerM Visit Args Unit :=
  modify fun w => { w with trace := w.trace ++ [e] }

/-- A handler's registry call. -/
def perform (op : Hooks.Op) : TriggerM Visit Args Unit :=
  modify fun w => { w with hooks := w.hooks.apply op, trace := w.trace ++ [.request op] }

/-- The trigger's own {lit}`off(hook, handler)` for a once registration. -/
def unregister (hook : HookName) (h : HandlerId) : TriggerM Visit Args Unit :=
  modify fun w =>
    { w with hooks := w.hooks.off hook (some h), trace := w.trace ++ [.unregister hook h] }

/-- Leave an async tail pending. -/
def defer (p : Prog Visit Args) : TriggerM Visit Args Unit :=
  modify fun w => { w with deferred := w.deferred ++ [p] }

/-- {lit}`console.warn`. -/
def warn (text : String) : TriggerM Visit Args Unit :=
  modify fun w => { w with hooks := w.hooks.log .warn text }

/-- {lit}`this.getHandlers(hook, defaultHandler)`. -/
def getHandlers (hook : HookName) (d : Option HandlerId) : TriggerM Visit Args Handlers :=
  modifyGet fun w => ((w.hooks.getHandlers hook d).1, { w with hooks := (w.hooks.getHandlers hook d).2 })

@[simp]
theorem record_run (e : Event Visit Args) (w : World Visit Args) :
    (record e).run w = .ok () { w with trace := w.trace ++ [e] } :=
  rfl

@[simp]
theorem perform_run (op : Hooks.Op) (w : World Visit Args) :
    (perform op).run w =
      .ok () { w with hooks := w.hooks.apply op, trace := w.trace ++ [.request op] } :=
  rfl

@[simp]
theorem unregister_run (hook : HookName) (h : HandlerId) (w : World Visit Args) :
    (unregister hook h).run w =
      .ok () { w with hooks := w.hooks.off hook (some h), trace := w.trace ++ [.unregister hook h] } :=
  rfl

@[simp]
theorem defer_run (p : Prog Visit Args) (w : World Visit Args) :
    (defer p).run w = .ok () { w with deferred := w.deferred ++ [p] } :=
  rfl

@[simp]
theorem warn_run (text : String) (w : World Visit Args) :
    (warn text).run w = .ok () { w with hooks := w.hooks.log .warn text } :=
  rfl

@[simp]
theorem getHandlers_run (hook : HookName) (d : Option HandlerId) (w : World Visit Args) :
    (getHandlers hook d).run w =
      .ok (w.hooks.getHandlers hook d).1 { w with hooks := (w.hooks.getHandlers hook d).2 } :=
  rfl

end World

@[simp]
theorem final_ok {ε σ α : Type} (a : α) (s : σ) : final (EStateM.Result.ok a s : EStateM.Result ε σ α) = s :=
  rfl

@[simp]
theorem final_error {ε σ α : Type} (e : ε) (s : σ) :
    final (EStateM.Result.error e s : EStateM.Result ε σ α) = s :=
  rfl

theorem run_bind {ε σ α β : Type} (x : EStateM ε σ α) (f : α → EStateM ε σ β) (s : σ) :
    (x >>= f).run s = match x.run s with
      | .ok a s' => (f a).run s'
      | .error e s' => .error e s' :=
  rfl

@[simp]
theorem run_pure {ε σ α : Type} (a : α) (s : σ) : (pure a : EStateM ε σ α).run s = .ok a s :=
  rfl

@[simp]
theorem run_throw {ε σ α : Type} (e : ε) (s : σ) :
    (throw e : EStateM ε σ α).run s = .error e s :=
  rfl

/-- A bind that returned: its first part returned, and the rest returned from there. -/
theorem run_bind_eq_ok {ε σ α β : Type} {x : EStateM ε σ α} {f : α → EStateM ε σ β} {s s' : σ}
    {b : β} (h : (x >>= f).run s = .ok b s') : ∃ a s1, x.run s = .ok a s1 ∧ (f a).run s1 = .ok b s' := by
  rw [run_bind] at h
  split at h
  · exact ⟨_, _, ‹_›, h⟩
  · cases h

/-! ## Handler programs and the replace chain -/

section Semantics

variable {Visit Args : Type} (impl : HandlerId → Visit → Args → Option Fn → Prog Visit Args)

/-- Call the default handler a handler received: {lit}`defaultHandler(visit,
args)`, which throws a {lit}`TypeError` when the argument is {lit}`undefined`. -/
def callDefaultOf
    (callDefault : Option (Visit → Args → TriggerM Visit Args (Except Value Value)))
    (visit : Visit) (args : Args) : TriggerM Visit Args (Except Value Value) :=
  match callDefault with
  | none => pure (.error notAFunction)
  | some f => f visit args

/-- Run a handler program.  A registry call acts on the registry; a call of the
default handler goes to {lit}`callDefault`; at an async return, a program that is
being awaited goes on with the tail, and otherwise returns the pending promise
and leaves the tail deferred. -/
def exec (awaiting : Bool)
    (callDefault : Option (Visit → Args → TriggerM Visit Args (Except Value Value))) :
    Prog Visit Args → TriggerM Visit Args (Except Value Value)
  | .ret v => pure (.ok v)
  | .throw e => pure (.error e)
  | .request op next => do
    World.perform op
    exec awaiting callDefault next
  | .callDefault visit args next => do
    let r ← callDefaultOf callDefault visit args
    exec awaiting callDefault (next r)
  | .async promise tail =>
    if awaiting then exec awaiting callDefault tail
    else do
      World.defer tail
      pure (.ok (.thenable promise))

/-- Call a handler function with two arguments, as a default handler is called:
it receives no default handler of its own. -/
def callHandler (h : HandlerId) (visit : Visit) (args : Args) :
    TriggerM Visit Args (Except Value Value) := do
  World.record (.invoke h visit args none)
  exec false none (impl h visit args none)

/-- Call the closure {lit}`createDefaultHandler` builds for index {lit}`i + 1`:
{lit}`(visit, args) => next.handler(visit, args, createDefaultHandler(i))` with
{lit}`next = replace[i]`.  Index {lit}`0` stands for the default handler itself. -/
def callNested (replace : List HandlerId) (d : HandlerId) :
    Nat → Visit → Args → TriggerM Visit Args (Except Value Value)
  | 0 => callHandler impl d
  | i + 1 => fun visit args =>
    match replace[i]? with
    | none => callHandler impl d visit args
    | some next => do
      World.record (.invoke next visit args (some (createDefaultHandler replace d i)))
      exec false (some (callNested replace d i))
        (impl next visit args (some (createDefaultHandler replace d i)))

/-- Call a function value with two arguments. -/
def callFn : Fn → Visit → Args → TriggerM Visit Args (Except Value Value)
  | .handler h => callHandler impl h
  | .nested replace d i => callNested impl replace d i

/-! ## run, runSync, call and callSync -/

/-- Return a handler's value, or throw what it threw. -/
def settle : Except Value Value → TriggerM Visit Args Value
  | .ok v => pure v
  | .error e => throw e

@[simp]
theorem settle_ok (v : Value) : (settle (.ok v) : TriggerM Visit Args Value) = pure v :=
  rfl

@[simp]
theorem settle_error (e : Value) : (settle (.error e) : TriggerM Visit Args Value) = throw e :=
  rfl

/-- Modelled from the spec: {lit}`runAsPromise(handler, [visit, args,
defaultHandler])` of {lit}`utils`, which is missing from the sources.  It calls
the handler once and awaits it: an async handler's tail runs to its end, and a
throw rejects. -/
def runAsPromise (visit : Visit) (args : Args) (r : HookRegistration) :
    TriggerM Visit Args Value := do
  World.record (.invoke r.handler visit args r.defaultHandler)
  let result ← exec true (r.defaultHandler.map (callFn impl))
    (impl r.handler visit args r.defaultHandler)
  World.record (.returned r result)
  settle result

/-- {lit}`if (once) this.off(hook, handler)`. -/
def removeOnce (r : HookRegistration) : TriggerM Visit Args Unit :=
  if r.once then World.unregister r.hook r.handler else pure ()

/-- {lit}`run(registrations, args)`: await every handler in order, collect the
results, and remove a once registration after its handler has settled. -/
def run (visit : Visit) (args : Args) : List HookRegistration → TriggerM Visit Args (List Value)
  | [] => pure []
  | r :: rest => do
    let result ← runAsPromise impl visit args r
    removeOnce r
    let results ← run visit args rest
    pure (result :: results)

/-- The warning {lit}`runSync` prints for a handler that returned a promise. -/
def promiseWarning (hook : HookName) : String :=
  "Promise returned from handler for synchronous hook " ++ quoted hook ++ "." ++
    "Swup will not wait for it to resolve."

/-- {lit}`if (isPromise(result)) console.warn(...)`. -/
def warnIfPromise (hook : HookName) (result : Value) : TriggerM Visit Args Unit :=
  if isPromise result then World.warn (promiseWarning hook) else pure ()

theorem warnIfPromise_run (hook : HookName) (result : Value) (w : World Visit Args) :
    (warnIfPromise hook result).run w =
      .ok () (if isPromise result then { w with hooks := w.hooks.log .warn (promiseWarning hook) }
        else w) := by
  unfold warnIfPromise
  split <;> rfl

/-- How {lit}`runSync` calls one handler: {lit}`handler(visit, args,
defaultHandler)` without awaiting, with a warning for a returned promise. -/
def invokeSync (visit : Visit) (args : Args) (r : HookRegistration) :
    TriggerM Visit Args Value := do
  World.record (.invoke r.handler visit args r.defaultHandler)
  let out ← exec false (r.defaultHandler.map (callFn impl))
    (impl r.handler visit args r.defaultHandler)
  World.record (.returned r out)
  let result ← settle out
  warnIfPromise r.hook result
  pure result

/-- {lit}`runSync(registrations, args)`: call every handler in order without
awaiting, and remove a once registration after its handler has returned. -/
def runSync (visit : Visit) (args : Args) :
    List HookRegistration → TriggerM Visit Args (List Value)
  | [] => pure []
  | r :: rest => do
    let result ← invokeSync impl visit args r
    removeOnce r
    let results ← runSync visit args rest
    pure (result :: results)

/-- {lit}`dispatchDomEvent(hook, args)`. -/
def dispatchDomEvent (visit : Visit) (hook : HookName) (args : Args) : TriggerM Visit Args Unit :=
  World.record (.dispatch ("swup:" ++ hook) hook args visit)

/-- {lit}`call(hook, args, defaultHandler)`: the before group, the main handler
and the after group, each awaited; the result is the main handler's. -/
def call (visit : Visit) (hook : HookName) (args : Args) (defaultHandler : Option HandlerId) :
    TriggerM Visit Args Value := do
  let handlers ← World.getHandlers hook defaultHandler
  let _ ← run impl visit args handlers.before
  let results ← run impl visit args handlers.handler
  let _ ← run impl visit args handlers.after
  dispatchDomEvent visit hook args
  pure (results.headD .undefined)

/-- {lit}`callSync(hook, args, defaultHandler)`: the same order, nothing awaited. -/
def callSync (visit : Visit) (hook : HookName) (args : Args) (defaultHandler : Option HandlerId) :
    TriggerM Visit Args Value := do
  let handlers ← World.getHandlers hook defaultHandler
  let _ ← runSync impl visit args handlers.before
  let results ← runSync impl visit args handlers.handler
  let _ ← runSync impl visit args handlers.after
  dispatchDomEvent visit hook args
  pure (results.headD .undefined)

end Semantics

/-- Handlers that return {lit}`undefined` at once. -/
def returnsUndefined {Visit Args : Type} : HandlerId → Visit → Args → Option Fn → Prog Visit Args :=
  fun _ _ _ _ => .ret .undefined

end Swup
