import Mathlib.Data.List.Basic

/-!
# Swup pages - Waiting for the leave animation

{lit}`getAnimationPromises` of {lit}`src/modules/getAnimationPromises.js` returns
a promise for each element the animation selector matches, and {lit}`leavePage`
awaits all of them.  An element whose computed {lit}`transition-duration` is
empty or {lit}`'0s'` gets a resolved promise and an error message; any other
element's promise resolves when a {lit}`transitionend` event whose target is the
element itself reaches the listener on it.  The test is a string comparison, so
a duration that lists several zero durations, such as {lit}`'0s, 0s'`, counts as
a transition, and the page waits for an event that no transition sends.

Main results:

- Theorem {lit}`getAnimationPromises_spec`: one promise per matched element, or
  one resolved promise and an error when none matches; {lit}`leavePage`'s
  {lit}`Promise.all` resolves exactly when every element with a transition has
  seen a {lit}`transitionend` event targeted at itself.
- Theorem {lit}`zero_duration_list_waits`: an element whose duration is
  {lit}`'0s, 0s'` keeps {lit}`leavePage` waiting until such an event arrives.
-/

namespace Swup

/-- An element the animation selector matched, with its computed
{lit}`transition-duration`; {lit}`none` stands for an undefined property. -/
structure AnimatedElement where
  id : Nat
  transitionDuration : Option String
  deriving DecidableEq, Repr

/-- A {lit}`transitionend` event as a listener sees it: the element the listener
is on, and the event's target, a descendant when the event bubbled up. -/
structure TransitionEndEvent where
  currentTarget : Nat
  target : Nat
  deriving DecidableEq, Repr

/-- A promise of {lit}`getAnimationPromises`. -/
inductive AnimationPromise where
  /-- {lit}`Promise.resolve()`. -/
  | resolved
  /-- The promise resolved by the {lit}`transitionend` listener on an element. -/
  | transitionEnd (element : Nat)
  deriving DecidableEq, Repr

/-- Whether the promise has resolved once these events have been delivered: the
listener runs {lit}`if (element == event.target) resolve()` for every event
delivered to its element. -/
def AnimationPromise.isResolved (events : List TransitionEndEvent) : AnimationPromise → Bool
  | .resolved => true
  | .transitionEnd e => events.any fun ev => ev.currentTarget == e && ev.target == e

/-- The default {lit}`animationSelector` option. -/
def defaultAnimationSelector : String :=
  "[class*=\"transition-\"]"

/-- {lit}`!transitionDuration || transitionDuration == '0s'`. -/
def noTransitionDefined : Option String → Bool
  | none => true
  | some d => d.isEmpty || d == "0s"

/-- The error logged when the selector matches no element. -/
def noAnimatedElementsError (animationSelector : String) : String :=
  "No animated elements found by selector " ++ animationSelector

/-- The error logged for a matched element without a transition. -/
def noTransitionError (animationSelector : String) : String :=
  "No CSS transition defined for element of selector " ++ animationSelector

/-- The body of the {lit}`forEach`: the element's promise, and the error it logs. -/
def elementPromise (animationSelector : String) (element : AnimatedElement) :
    AnimationPromise × Option String :=
  if noTransitionDefined element.transitionDuration then
    (.resolved, some (noTransitionError animationSelector))
  else
    (.transitionEnd element.id, none)

/-- {lit}`getAnimationPromises()` for the elements the selector matched: the
promises, and the errors it logs, in order. -/
def getAnimationPromises (animationSelector : String) (animatedElements : List AnimatedElement) :
    List AnimationPromise × List String :=
  if animatedElements.isEmpty then
    ([.resolved], [noAnimatedElementsError animationSelector])
  else
    ((animatedElements.map (elementPromise animationSelector)).map Prod.fst,
      (animatedElements.map (elementPromise animationSelector)).filterMap Prod.snd)

/-- {lit}`await Promise.all(animationPromises)` of {lit}`leavePage` has returned
once these events have been delivered. -/
def allResolved (events : List TransitionEndEvent) (promises : List AnimationPromise) : Bool :=
  promises.all (·.isResolved events)

/-- A promise that has resolved stays resolved as more events arrive. -/
theorem AnimationPromise.isResolved_of_subset {events events' : List TransitionEndEvent}
    {p : AnimationPromise} (h : p.isResolved events = true) (hsub : events ⊆ events') :
    p.isResolved events' = true := by
  cases p with
  | resolved => rfl
  | transitionEnd e =>
    simp only [AnimationPromise.isResolved, List.any_eq_true] at h ⊢
    obtain ⟨ev, hev, hmatch⟩ := h
    exact ⟨ev, hsub hev, hmatch⟩

theorem allResolved_of_subset {events events' : List TransitionEndEvent}
    {promises : List AnimationPromise} (h : allResolved events promises = true)
    (hsub : events ⊆ events') : allResolved events' promises = true := by
  simp only [allResolved, List.all_eq_true] at h ⊢
  exact fun p hp => AnimationPromise.isResolved_of_subset (h p hp) hsub

/-- Modelled from the spec: a computed duration that is empty or lists only zero
durations, separated by commas and spaces. -/
def listsOnlyZeroDurations : Option String → Bool
  | none => true
  | some d => d.toList.isEmpty ||
      (d.toList.splitOn ',').all fun part => part.filter (· ≠ ' ') == ['0', 's']

/-- The promise of one element resolves exactly when it has no transition, or an
event targeted at the element itself has been delivered to it. -/
theorem elementPromise_isResolved (animationSelector : String) (e : AnimatedElement)
    (events : List TransitionEndEvent) :
    (elementPromise animationSelector e).1.isResolved events = true ↔
      noTransitionDefined e.transitionDuration = true ∨
        ∃ ev ∈ events, ev.currentTarget = e.id ∧ ev.target = e.id := by
  unfold elementPromise
  split <;> simp_all [AnimationPromise.isResolved]

/-- The errors of the {lit}`forEach`: one for each element without a transition. -/
theorem filterMap_elementPromise (animationSelector : String) (elements : List AnimatedElement) :
    (elements.map (elementPromise animationSelector)).filterMap Prod.snd =
      (elements.filter (noTransitionDefined ·.transitionDuration)).map
        fun _ => noTransitionError animationSelector := by
  induction elements with
  | nil => rfl
  | cons x xs ih =>
    by_cases h : noTransitionDefined x.transitionDuration <;> simp [elementPromise, h, ih]

/-- The promises of {lit}`getAnimationPromises` have all resolved exactly when
every matched element that the test takes for a transition has seen a
{lit}`transitionend` event targeted at itself. -/
theorem allResolved_getAnimationPromises (animationSelector : String)
    (elements : List AnimatedElement) (events : List TransitionEndEvent) :
    allResolved events (getAnimationPromises animationSelector elements).1 = true ↔
      ∀ e ∈ elements, noTransitionDefined e.transitionDuration = true ∨
        ∃ ev ∈ events, ev.currentTarget = e.id ∧ ev.target = e.id := by
  cases elements with
  | nil =>
    simp only [allResolved, getAnimationPromises, List.isEmpty_nil, if_true,
      AnimationPromise.isResolved, List.all_cons, List.all_nil, Bool.and_self, List.not_mem_nil,
      IsEmpty.forall_iff, implies_true]
  | cons e es =>
    simp only [getAnimationPromises, List.isEmpty_cons, Bool.false_eq_true, if_false, allResolved,
      List.all_eq_true, List.map_map, List.mem_map, Function.comp_apply, forall_exists_index,
      and_imp, forall_apply_eq_imp_iff₂, elementPromise_isResolved]

/-- {lit}`getAnimationPromises` returns one promise per matched element, with an
error for each element without a transition, or a single resolved promise and
an error when nothing matches.  The {lit}`Promise.all` that {lit}`leavePage`
awaits resolves exactly when every matched element that this test takes for a
transition has seen a {lit}`transitionend` event targeted at itself. -/
theorem getAnimationPromises_spec (animationSelector : String) (elements : List AnimatedElement)
    (events : List TransitionEndEvent) :
    (getAnimationPromises animationSelector elements).1.length = max 1 elements.length ∧
    (getAnimationPromises animationSelector elements).2 =
      (if elements = [] then [noAnimatedElementsError animationSelector] else
        (elements.filter (noTransitionDefined ·.transitionDuration)).map
          fun _ => noTransitionError animationSelector) ∧
    (allResolved events (getAnimationPromises animationSelector elements).1 = true ↔
      ∀ e ∈ elements, noTransitionDefined e.transitionDuration = true ∨
        ∃ ev ∈ events, ev.currentTarget = e.id ∧ ev.target = e.id) := by
  refine ⟨?_, ?_, allResolved_getAnimationPromises animationSelector elements events⟩
  · cases elements <;> simp [getAnimationPromises]
  · cases elements with
    | nil => rfl
    | cons e es =>
      simp only [getAnimationPromises, List.isEmpty_cons, Bool.false_eq_true, if_false,
        reduceCtorEq]
      exact filterMap_elementPromise animationSelector _

/-- An element whose computed duration is {lit}`'0s, 0s'` lists only zero
durations, yet with it {lit}`leavePage` waits for as long as no
{lit}`transitionend` event targeted at the element arrives. -/
theorem zero_duration_list_waits :
    listsOnlyZeroDurations (some "0s, 0s") = true ∧
      ∀ events : List TransitionEndEvent, (∀ ev ∈ events, ev.target ≠ 0) →
        allResolved events
          (getAnimationPromises defaultAnimationSelector [⟨0, some "0s, 0s"⟩]).1 = false := by
  refine ⟨by decide, fun events hev => ?_⟩
  have hno : noTransitionDefined (some "0s, 0s") = false := by decide
  simpa [getAnimationPromises, allResolved, elementPromise, hno, AnimationPromise.isResolved]
    using fun ev hmem _ => hev ev hmem

end Swup
