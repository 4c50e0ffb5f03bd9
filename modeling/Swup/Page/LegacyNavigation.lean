import Mathlib.Data.String.Basic
import Swup.Page.Navigation

/-!
# Swup pages - The older handlers of src/index.js

{lit}`src/index.js` carries an older {lit}`Swup` class, whose
{lit}`linkClickHandler` and {lit}`popStateHandler` the class of
{lit}`src/modules/Hooks.ts` rewrote.  This module models the older two as they
are written there and compares each with its successor in
{lit}`Swup.Navigation`, on the same click or history navigation.

The newer click handler adds three guards: links that open a new window,
ignored links, and links to the same resolved path.  It also resets the scroll
target for a link without hash, where the older one leaves the previous target
in place.  The newer history handler adds the guard on the resolved path, which
keeps a history navigation that changes only the hash from loading the page
again, and resets the animation classes.  The older click handler looks the
anchor of a same-page link up with {lit}`document.querySelector(hash)`, which
throws a {lit}`SyntaxError` for a hash that is not a valid selector, such as
{lit}`#1`; the newer one uses {lit}`getAnchorElement`.

Main results:

- Theorem {lit}`linkClickHandler_legacy`: on a click the newer guards let
  through, both handlers trigger the same events, take the click over alike and,
  when the hash is a valid selector, write the same history record; the newer one starts the older one's visits but
  those to the same resolved path, and sets the scroll target with each of them.
- Theorem {lit}`popStateHandler_legacy`: the older handler starts a visit on every
  history navigation it does not skip; the newer one on those of them that
  change the resolved path, and then with the same events, default prevention
  and scroll target.

Current gaps:

- The older click listener is delegated with the {lit}`LINK_SELECTOR` option,
  which the newer class replaced by {lit}`linkSelector` and {lit}`ignoreLink`;
  selectors are not modelled, so both handlers are compared on the click they
  receive.
-/

namespace Swup

namespace Navigation

/-- The event an effect triggers. -/
@[simp]
def NavEffect.triggered? : NavEffect → Option String
  | .triggerEvent name => some name
  | _ => none

/-- A string is empty exactly when it equals {lit}`''`. -/
theorem isEmpty_eq_beq (s : String) : s.isEmpty = (s == "") :=
  Bool.eq_iff_iff.mpr (by simp [String.isEmpty_iff])

namespace Legacy

/-- What {lit}`document.querySelector(selector)` does with a string: it returns
the first element the selector matches, or {lit}`null`, and it throws a
{lit}`SyntaxError` for a string that is not a valid selector, as {lit}`'#1'` is
not. -/
inductive Query where
  | found
  | notFound
  | syntaxError
  deriving DecidableEq, Repr

/-- What the older handlers read of the browser beyond what the newer ones read:
{lit}`window.location.pathname`, what {lit}`document.querySelector(selector)`
does, and {lit}`new Link(undefined)` as its address and hash. -/
structure Env extends NavEnv where
  pathname : Url
  querySelector : String → Query
  undefinedLink : Url × String

/-- An effect of the older handlers. -/
inductive Effect where
  | triggerEvent (name : String)
  | preventDefault
  | warn (text : String)
  /-- {lit}`history.replaceState({ url, random, source: 'swup' }, document.title, url)`. -/
  | replaceState (url : Url)
  /-- {lit}`this.scrollToElement = hash`. -/
  | setScrollToElement (hash : String)
  /-- {lit}`this.loadPage({ url, customTransition }, event)`, with whether
  {lit}`event` is the {lit}`popstate` event. -/
  | loadPage (url : Url) (customTransition : Option String) (historyVisit : Bool)
  /-- The handler throws an exception of this name, which ends it. -/
  | throw (name : String)
  deriving DecidableEq, Repr

namespace Effect

/-- The event an effect triggers. -/
@[simp]
def triggered? : Effect → Option String
  | .triggerEvent name => some name
  | _ => none

/-- The visit an effect starts. -/
@[simp]
def visit? : Effect → Option (Url × Option String × Bool)
  | .loadPage url t h => some (url, t, h)
  | _ => none

/-- The value an effect stores in {lit}`scrollToElement`. -/
@[simp]
def scrollTarget? : Effect → Option String
  | .setScrollToElement hash => some hash
  | _ => none

/-- The history record an effect writes. -/
@[simp]
def historyRecord? : Effect → Option Url
  | .replaceState url => some url
  | _ => none

end Effect

/-- {lit}`linkClickHandler(event)` of {lit}`src/index.js`. -/
def linkClickHandler (env : Env) (event : ClickEvent) : List Effect :=
  if !event.metaKey && !event.ctrlKey && !event.shiftKey && !event.altKey then
    if event.button = 0 then
      [.triggerEvent "clickLink", .preventDefault] ++
        if event.delegateTarget.address == env.currentUrl || event.delegateTarget.address == "" then
          if event.delegateTarget.hash != "" then
            .triggerEvent "samePageWithHash" ::
              match env.querySelector event.delegateTarget.hash with
              | .found => [.replaceState (event.delegateTarget.address ++ event.delegateTarget.hash)]
              | .notFound => [.warn ("Element for offset not found (" ++ event.delegateTarget.hash ++ ")")]
              | .syntaxError => [.throw "SyntaxError"]
          else [.triggerEvent "samePage"]
        else
          (if event.delegateTarget.hash != "" then [.setScrollToElement event.delegateTarget.hash]
            else []) ++
            [.loadPage event.delegateTarget.address event.delegateTarget.transition false]
    else []
  else [.triggerEvent "openPageInNewTab"]

/-- {lit}`event.state ? event.state.url : window.location.pathname`; the url of
a state may be {lit}`undefined`. -/
def popStateUrl (env : Env) (event : PopStateEvent) : Option Url :=
  match event.state with
  | some state => state.url
  | none => some env.pathname

/-- {lit}`new Link(...)` of that URL, as its address and hash. -/
def popStateLink (env : Env) (event : PopStateEvent) : Url × String :=
  match popStateUrl env event with
  | some url => env.link url
  | none => env.undefinedLink

/-- {lit}`popStateHandler(event)` of {lit}`src/index.js`, with the
{lit}`skipPopStateHandling` option. -/
def popStateHandler (skipPopStateHandling : PopStateEvent → Bool) (env : Env)
    (event : PopStateEvent) : List Effect :=
  if skipPopStateHandling event then []
  else
    (if (popStateLink env event).2 != "" then [.setScrollToElement (popStateLink env event).2]
      else [.preventDefault]) ++
      [.triggerEvent "popState", .loadPage (popStateLink env event).1 none true]

/-- The default {lit}`skipPopStateHandling` option of {lit}`src/index.js`. -/
def defaultSkipPopStateHandling (event : PopStateEvent) : Bool :=
  match event.state with
  | some state => !(state.source == some "swup")
  | none => true

/-- The older default {lit}`skipPopStateHandling` skips exactly the history
navigations the newer default skips. -/
theorem defaultSkipPopStateHandling_eq (locationOrigin : String) :
    defaultSkipPopStateHandling = (defaults locationOrigin).skipPopStateHandling := by
  funext event
  cases h : event.state <;> simp [defaultSkipPopStateHandling, defaults, h, bne]

end Legacy

/-! ## The newer handlers against the older -/

section Click

variable (o : NavOptions) (env : Legacy.Env) (e : ClickEvent)

/-- On a click on a link that opens no new window and is not ignored, the click
handler of {lit}`src/modules/Hooks.ts` triggers the events of the older one of
{lit}`src/index.js`, takes the click over exactly when it does, and writes the
same history record when the link's hash is a valid selector and the two
anchor lookups agree on it.  It
starts the older handler's visits except those to the same resolved path.  With
each of its visits it sets the scroll target, to {lit}`null` for a link without
hash; the older handler sets it only for a link with a hash, and leaves the
previous target in place otherwise. -/
theorem linkClickHandler_legacy (hw : triggerWillOpenNewWindow e.delegateTarget = false)
    (hi : o.ignoreLink e.delegateTarget = false)
    (hq : env.querySelector e.delegateTarget.hash =
      if env.anchorExists e.delegateTarget.hash then .found else .notFound) :
    let current := linkClickHandler o env.toNavEnv e
    let older := Legacy.linkClickHandler env e
    current.filterMap NavEffect.triggered? = older.filterMap Legacy.Effect.triggered? ∧
      (NavEffect.preventDefault ∈ current ↔ Legacy.Effect.preventDefault ∈ older) ∧
      current.filterMap NavEffect.historyRecord? = older.filterMap Legacy.Effect.historyRecord? ∧
      current.filterMap NavEffect.visit? = (older.filterMap Legacy.Effect.visit?).filter
        (fun visit => !(isSameResolvedPath o visit.1 env.currentUrl).1) ∧
      current.filterMap NavEffect.scrollTarget? =
        (current.filterMap NavEffect.visit?).map (fun _ => orNull e.delegateTarget.hash) ∧
      older.filterMap Legacy.Effect.scrollTarget? =
        if e.delegateTarget.hash.isEmpty then []
        else (older.filterMap Legacy.Effect.visit?).map (fun _ => e.delegateTarget.hash) := by
  intro current older
  have hmod : (!e.metaKey && !e.ctrlKey && !e.shiftKey && !e.altKey) =
      !(e.metaKey || e.ctrlKey || e.shiftKey || e.altKey) := by
    simp only [Bool.not_or]
  have hsame : (e.delegateTarget.address == env.currentUrl || e.delegateTarget.address == "") =
      (e.delegateTarget.address.isEmpty || e.delegateTarget.address == env.currentUrl) := by
    rw [isEmpty_eq_beq, Bool.or_comm]
  have hhash : (e.delegateTarget.hash != "") = !e.delegateTarget.hash.isEmpty := by
    rw [isEmpty_eq_beq]; rfl
  simp only [current, older, linkClickHandler, Legacy.linkClickHandler, hw, hi, hmod, hsame, hhash,
    hq, Bool.false_eq_true, if_false]
  cases hm : (e.metaKey || e.ctrlKey || e.shiftKey || e.altKey)
  case true => simp [NavEffect.historyRecord?, NavEffect.visit?, NavEffect.scrollTarget?]
  by_cases hb : e.button = 0
  case neg => simp [hb]
  cases hs : (e.delegateTarget.address.isEmpty || e.delegateTarget.address == env.currentUrl)
  · cases hr : (isSameResolvedPath o e.delegateTarget.address env.currentUrl).1 <;>
      cases hh : e.delegateTarget.hash.isEmpty <;>
      simp [-List.filterMap_map, hb, hr, hh, orNull, NavEffect.historyRecord?, NavEffect.visit?,
        NavEffect.scrollTarget?]
  · cases hh : e.delegateTarget.hash.isEmpty
    · cases ha : env.anchorExists e.delegateTarget.hash <;>
        simp [hb, hh, ha, handleLinkToSamePage, NavEffect.historyRecord?, NavEffect.visit?,
          NavEffect.scrollTarget?]
    · simp [hb, hh, handleLinkToSamePage, NavEffect.historyRecord?, NavEffect.visit?,
        NavEffect.scrollTarget?]

end Click

section PopState

variable (o : NavOptions) (env : Legacy.Env) (currentPageUrl : Url) (event : PopStateEvent)

/-- For a history entry whose state carries a URL, as every entry swup writes
does, the older handler of {lit}`src/index.js` starts a visit to the entry's
address whenever its {lit}`skipPopStateHandling` option lets the navigation
through, even when only the hash changed.  The newer handler starts the same
visit exactly when, in addition, the resolved path changed; it then triggers
the same events, prevents the default exactly when the older one does, and sets
the same scroll target. -/
theorem popStateHandler_legacy (u : Url) (hu : event.state.bind HistoryState.url = some u) :
    let current := popStateHandler o env.toNavEnv currentPageUrl event
    let older := Legacy.popStateHandler o.skipPopStateHandling env event
    older.filterMap Legacy.Effect.visit? =
        (if o.skipPopStateHandling event then [] else [((env.link u).1, none, true)]) ∧
      current.filterMap NavEffect.visit? = (older.filterMap Legacy.Effect.visit?).filter
        (fun _ => !(isSameResolvedPath o env.currentUrl currentPageUrl).1) ∧
      (HandlesPopState o env.toNavEnv currentPageUrl event →
        current.filterMap NavEffect.triggered? = older.filterMap Legacy.Effect.triggered? ∧
        (NavEffect.preventDefault ∈ current ↔ Legacy.Effect.preventDefault ∈ older) ∧
        current.filterMap NavEffect.scrollTarget? =
          (older.filterMap Legacy.Effect.scrollTarget?).map some) := by
  intro current older
  obtain ⟨state, hstate, hurl⟩ := Option.bind_eq_some.mp hu
  have hcurrent : Navigation.popStateUrl env.toNavEnv event = u := by
    simp [Navigation.popStateUrl, hu]
  have holder : Legacy.popStateLink env event = env.link u := by
    simp [Legacy.popStateLink, Legacy.popStateUrl, hstate, hurl]
  have hhash : ((env.link u).2 != "") = !(env.link u).2.isEmpty := by
    rw [isEmpty_eq_beq]; rfl
  simp only [current, older, popStateHandler, Legacy.popStateHandler, hcurrent, holder, hhash,
    handlesPopState_iff]
  cases o.skipPopStateHandling event
  case true => simp
  cases (isSameResolvedPath o env.currentUrl currentPageUrl).1 <;>
    cases (env.link u).2.isEmpty <;> cases o.animateHistoryBrowsing <;>
    simp [-List.filterMap_map, NavEffect.visit?, NavEffect.scrollTarget?]

end PopState

end Navigation

end Swup
