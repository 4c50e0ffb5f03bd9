import Swup.Page.Preload

/-!
# Swup pages - Where a visit starts

The {lit}`Swup` class that {lit}`src/modules/Hooks.ts` carries after the hook
registry starts a visit from two listeners.  The delegated click listener calls
{lit}`linkClickHandler` for a click on a link, and the {lit}`popstate` listener
calls {lit}`popStateHandler` on history navigation.  Each runs a chain of early
returns; the last guard of each compares resolved paths through
{lit}`resolvePath`, which checks the {lit}`resolvePath` option and falls back to
the raw path with a warning.

A handler's run is the list of its effects, in order.

Main results:

- Theorem {lit}`linkClickHandler_visit_iff`: a click starts a visit exactly when
  it passes every guard, and then exactly one, to the link's address with its
  custom transition, after setting the scroll target from the hash.
- Theorem {lit}`linkClickHandler_prevents_iff`: a click is either left to the
  browser, with at most an {lit}`openPageInNewTab` event, or taken over with
  {lit}`clickLink` and {lit}`preventDefault` first; the only history record a
  click writes is the hash of a link to the current page whose anchor exists.
- Theorem {lit}`popStateHandler_visit_iff`: a history navigation starts a visit
  exactly when it is not skipped and the resolved path changed; it then either
  prevents the default or sets the scroll target, as the URL has a hash.

Current gaps:

- {lit}`Link`, {lit}`getCurrentUrl`, {lit}`getAnchorElement`,
  {lit}`updateHistoryRecord`, {lit}`cleanupAnimationClasses`,
  {lit}`triggerEvent` and {lit}`loadPage` are missing from the sources: the
  handlers read the link's address and hash, the current URL and whether an
  anchor exists as inputs, and the rest are effects.
-/

namespace Swup

namespace Navigation

/-- The link element a click was delegated to, as the handlers read it. -/
structure LinkElement where
  /-- {lit}`new Link(linkEl).getAddress()`. -/
  address : Url
  /-- {lit}`new Link(linkEl).getHash()`. -/
  hash : String
  /-- {lit}`linkEl.origin`. -/
  origin : String
  /-- Whether the element has a {lit}`download` attribute. -/
  download : Bool
  /-- The {lit}`target` attribute. -/
  target : Option String
  /-- Whether {lit}`linkEl.closest('[data-no-swup]')` finds an element. -/
  insideNoSwup : Bool
  /-- {lit}`linkEl.getAttribute('data-swup-transition')`. -/
  transition : Option String
  deriving DecidableEq, Repr

/-- A click event. -/
structure ClickEvent where
  delegateTarget : LinkElement
  metaKey : Bool
  ctrlKey : Bool
  shiftKey : Bool
  altKey : Bool
  button : Nat
  deriving DecidableEq, Repr

/-- The fields of {lit}`history.state` the handlers read. -/
structure HistoryState where
  url : Option Url
  source : Option String
  deriving DecidableEq, Repr

/-- A {lit}`popstate` event; its {lit}`state` is {lit}`null` for an entry with
no state. -/
structure PopStateEvent where
  state : Option HistoryState
  deriving DecidableEq, Repr

/-- The options the handlers read.  The {lit}`resolvePath` option is
{lit}`none` when it is not a function; the function returns {lit}`none` for a
value that is not a string. -/
structure NavOptions where
  animateHistoryBrowsing : Bool
  ignoreLink : LinkElement → Bool
  resolvePath : Option (Url → Option String)
  skipPopStateHandling : PopStateEvent → Bool

/-- The defaults of these options, in a window whose {lit}`location.origin` is
{lit}`locationOrigin`. -/
def defaults (locationOrigin : String) : NavOptions :=
  { animateHistoryBrowsing := false
    ignoreLink := fun el => el.origin != locationOrigin || el.insideNoSwup
    resolvePath := some fun path => some path
    skipPopStateHandling := fun event => event.state.bind HistoryState.source != some "swup" }

/-- What the handlers read of the browser: {lit}`getCurrentUrl()`,
{lit}`location.href`, whether {lit}`getAnchorElement(hash)` finds an element,
and {lit}`new Link(url)` as its address and hash. -/
structure NavEnv where
  currentUrl : Url
  href : Url
  anchorExists : String → Bool
  link : Url → Url × String

/-- An effect of a handler on the page, the instance or the console. -/
inductive NavEffect where
  | triggerEvent (name : String)
  | preventDefault
  | warn (text : String)
  | updateHistoryRecord (url : Url)
  | setScrollToElement (hash : Option String)
  | removeClass (name : String)
  | cleanupAnimationClasses
  /-- {lit}`loadPage({ url, customTransition }, event)`, with whether
  {lit}`event` is the {lit}`popstate` event. -/
  | loadPage (url : Url) (customTransition : Option String) (historyVisit : Bool)
  deriving DecidableEq, Repr

namespace NavEffect

/-- The visit an effect starts. -/
def visit? : NavEffect → Option (Url × Option String × Bool)
  | .loadPage url t h => some (url, t, h)
  | _ => none

/-- The value an effect stores in {lit}`scrollToElement`. -/
def scrollTarget? : NavEffect → Option (Option String)
  | .setScrollToElement hash => some hash
  | _ => none

/-- The history record an effect writes. -/
def historyRecord? : NavEffect → Option Url
  | .updateHistoryRecord url => some url
  | _ => none

/-- Warnings start no visit, set no scroll target and write no history record. -/
@[simp]
theorem filterMap_warn {α : Type} (f : NavEffect → Option α) (hf : ∀ t, f (.warn t) = none)
    (texts : List String) : (texts.map NavEffect.warn).filterMap f = [] := by
  induction texts with
  | nil => rfl
  | cons t texts ih => simp [hf, ih]

end NavEffect

/-! ## Resolving paths -/

/-- The warning of {lit}`resolvePath` for an option that is not a function. -/
def notAFunctionWarning : String :=
  "[swup] options.resolvePath needs to be a function."

/-- The warning of {lit}`resolvePath` for an option that returns no path. -/
def noPathWarning : String :=
  "[swup] options.resolvePath needs to return a path"

/-- {lit}`resolvePath(path)`: the resolved path, and the warnings it logs. -/
def resolvePath (o : NavOptions) (path : Url) : Url × List String :=
  match o.resolvePath with
  | none => (path, [notAFunctionWarning])
  | some f =>
    match f path with
    | some result => if result.isEmpty then (path, [noPathWarning]) else (result, [])
    | none => (path, [noPathWarning])

/-- {lit}`isSameResolvedPath(path1, path2)`, and the warnings it logs. -/
def isSameResolvedPath (o : NavOptions) (path1 path2 : Url) : Bool × List String :=
  ((resolvePath o path1).1 == (resolvePath o path2).1,
    (resolvePath o path1).2 ++ (resolvePath o path2).2)

/-- With the default option, a path resolves to itself. -/
@[simp]
theorem resolvePath_defaults (locationOrigin : String) (path : Url) :
    (resolvePath (defaults locationOrigin) path).1 = path := by
  simp only [resolvePath, defaults]
  split <;> rfl

/-- With the default option, two paths resolve alike exactly when they are
equal. -/
@[simp]
theorem isSameResolvedPath_defaults (locationOrigin : String) (path1 path2 : Url) :
    (isSameResolvedPath (defaults locationOrigin) path1 path2).1 = (path1 == path2) := by
  simp [isSameResolvedPath]

/-! ## Clicks on links -/

/-- {lit}`triggerWillOpenNewWindow(linkEl)`:
{lit}`linkEl.matches('[download], [target="_blank"]')`.  In an HTML document a
selector matches the value of {lit}`target` ASCII case-insensitively, so
{lit}`_BLANK` matches too; {lit}`String.toLower` changes only the letters
{lit}`A` to {lit}`Z`. -/
def triggerWillOpenNewWindow (linkEl : LinkElement) : Bool :=
  linkEl.download || linkEl.target.map String.toLower == some "_blank"

/-- {lit}`hash || null`. -/
def orNull (hash : String) : Option String :=
  if hash.isEmpty then none else some hash

/-- {lit}`handleLinkToSamePage(url, hash, event)`. -/
def handleLinkToSamePage (env : NavEnv) (url hash : String) : List NavEffect :=
  if hash.isEmpty then [.triggerEvent "samePage"]
  else
    .triggerEvent "samePageWithHash" ::
      if env.anchorExists hash then [.updateHistoryRecord (url ++ hash)]
      else [.warn ("Element for offset not found (#" ++ hash ++ ")")]

/-- {lit}`linkClickHandler(event)`. -/
def linkClickHandler (o : NavOptions) (env : NavEnv) (event : ClickEvent) : List NavEffect :=
  let linkEl := event.delegateTarget
  if triggerWillOpenNewWindow linkEl then []
  else if o.ignoreLink linkEl then []
  else if event.metaKey || event.ctrlKey || event.shiftKey || event.altKey then
    [.triggerEvent "openPageInNewTab"]
  else if event.button != 0 then []
  else
    [.triggerEvent "clickLink", .preventDefault] ++
      if linkEl.address.isEmpty || linkEl.address == env.currentUrl then
        handleLinkToSamePage env linkEl.address linkEl.hash
      else
        (isSameResolvedPath o linkEl.address env.currentUrl).2.map .warn ++
          if (isSameResolvedPath o linkEl.address env.currentUrl).1 then []
          else [.setScrollToElement (orNull linkEl.hash), .loadPage linkEl.address linkEl.transition false]

/-- The guards after which {lit}`linkClickHandler` takes a click over from the
browser: the link opens no new window, is not ignored, and the click is a plain
left click. -/
structure Intercepts (o : NavOptions) (e : ClickEvent) : Prop where
  sameWindow : triggerWillOpenNewWindow e.delegateTarget = false
  notIgnored : o.ignoreLink e.delegateTarget = false
  noModifier : (e.metaKey || e.ctrlKey || e.shiftKey || e.altKey) = false
  leftButton : e.button = 0

/-- The guards after which a click that swup took over starts a visit: the link
is to another page, and to another resolved path. -/
structure StartsVisit (o : NavOptions) (env : NavEnv) (e : ClickEvent) extends
    Intercepts o e : Prop where
  otherPage : (e.delegateTarget.address.isEmpty || e.delegateTarget.address == env.currentUrl) = false
  otherPath : (isSameResolvedPath o e.delegateTarget.address env.currentUrl).1 = false

theorem intercepts_iff (o : NavOptions) (e : ClickEvent) :
    Intercepts o e ↔ triggerWillOpenNewWindow e.delegateTarget = false ∧
      o.ignoreLink e.delegateTarget = false ∧
      (e.metaKey || e.ctrlKey || e.shiftKey || e.altKey) = false ∧ e.button = 0 :=
  ⟨fun h => ⟨h.1, h.2, h.3, h.4⟩, fun ⟨h1, h2, h3, h4⟩ => ⟨h1, h2, h3, h4⟩⟩

theorem startsVisit_iff (o : NavOptions) (env : NavEnv) (e : ClickEvent) :
    StartsVisit o env e ↔ Intercepts o e ∧
      (e.delegateTarget.address.isEmpty || e.delegateTarget.address == env.currentUrl) = false ∧
      (isSameResolvedPath o e.delegateTarget.address env.currentUrl).1 = false :=
  ⟨fun h => ⟨h.1, h.2, h.3⟩, fun ⟨h1, h2, h3⟩ => ⟨h1, h2, h3⟩⟩

instance (o : NavOptions) (e : ClickEvent) : Decidable (Intercepts o e) :=
  decidable_of_iff _ (intercepts_iff o e).symm

instance (o : NavOptions) (env : NavEnv) (e : ClickEvent) : Decidable (StartsVisit o env e) :=
  decidable_of_iff _ (startsVisit_iff o env e).symm

section Click

variable (o : NavOptions) (env : NavEnv) (e : ClickEvent)

/-- A click that swup does not take over gets at most the
{lit}`openPageInNewTab` event. -/
theorem linkClickHandler_of_not_intercepts (h : ¬ Intercepts o e) :
    linkClickHandler o env e = [] ∨ linkClickHandler o env e = [.triggerEvent "openPageInNewTab"] := by
  simp only [linkClickHandler]
  split_ifs with h1 h2 h3 h4 <;> first
    | exact .inl rfl
    | exact .inr rfl
    | exact absurd ⟨by simpa using h1, by simpa using h2, by simpa using h3, by simpa using h4⟩ h

/-- A click that swup takes over. -/
theorem linkClickHandler_of_intercepts (h : Intercepts o e) :
    linkClickHandler o env e =
      [.triggerEvent "clickLink", .preventDefault] ++
        if (e.delegateTarget.address.isEmpty || e.delegateTarget.address == env.currentUrl) then
          handleLinkToSamePage env e.delegateTarget.address e.delegateTarget.hash
        else
          (isSameResolvedPath o e.delegateTarget.address env.currentUrl).2.map .warn ++
            if (isSameResolvedPath o e.delegateTarget.address env.currentUrl).1 then []
            else [.setScrollToElement (orNull e.delegateTarget.hash),
              .loadPage e.delegateTarget.address e.delegateTarget.transition false] := by
  simp [linkClickHandler, h.sameWindow, h.notIgnored, h.noModifier, h.leftButton]

/-- A click starts a visit exactly when it passes every guard of
{lit}`linkClickHandler`, and then exactly one: to the link's address, with its
custom transition, as a link visit.  Only such a click sets
{lit}`scrollToElement`, to the link's hash or {lit}`null`. -/
theorem linkClickHandler_visit_iff :
    (linkClickHandler o env e).filterMap NavEffect.visit? =
        (if StartsVisit o env e then
          [(e.delegateTarget.address, e.delegateTarget.transition, false)] else []) ∧
      (linkClickHandler o env e).filterMap NavEffect.scrollTarget? =
        (if StartsVisit o env e then [orNull e.delegateTarget.hash] else []) := by
  by_cases hi : Intercepts o e
  · rw [linkClickHandler_of_intercepts o env e hi]
    simp only [startsVisit_iff, hi, true_and]
    cases hp : (e.delegateTarget.address.isEmpty || e.delegateTarget.address == env.currentUrl)
    · cases (isSameResolvedPath o e.delegateTarget.address env.currentUrl).1 <;>
        simp [NavEffect.visit?, NavEffect.scrollTarget?]
    · simp only [handleLinkToSamePage, ↓reduceIte, Bool.true_eq_false, false_and]
      split_ifs <;> simp [NavEffect.visit?, NavEffect.scrollTarget?]
  · have hv : ¬ StartsVisit o env e := fun h => hi h.toIntercepts
    rcases linkClickHandler_of_not_intercepts o env e hi with h | h <;>
      simp [h, hv, NavEffect.visit?, NavEffect.scrollTarget?]

/-- A click is either left to the browser, with at most an
{lit}`openPageInNewTab` event, or taken over: {lit}`clickLink` is triggered and
the default prevented before anything else.  The only history record a click
writes is the link's address and hash, for a link to the current page with a
hash whose anchor exists. -/
theorem linkClickHandler_prevents_iff :
    (NavEffect.preventDefault ∈ linkClickHandler o env e ↔ Intercepts o e) ∧
      (Intercepts o e →
        (linkClickHandler o env e).take 2 = [.triggerEvent "clickLink", .preventDefault]) ∧
      (¬ Intercepts o e → linkClickHandler o env e ⊆ [.triggerEvent "openPageInNewTab"]) ∧
      (linkClickHandler o env e).filterMap NavEffect.historyRecord? =
        (if Intercepts o e ∧
            (e.delegateTarget.address.isEmpty || e.delegateTarget.address == env.currentUrl) ∧
            !e.delegateTarget.hash.isEmpty ∧ env.anchorExists e.delegateTarget.hash then
          [e.delegateTarget.address ++ e.delegateTarget.hash] else []) := by
  by_cases hi : Intercepts o e
  · rw [linkClickHandler_of_intercepts o env e hi]
    refine ⟨by simp [hi], fun _ => rfl, fun h => absurd hi h, ?_⟩
    simp only [hi, true_and]
    cases (e.delegateTarget.address.isEmpty || e.delegateTarget.address == env.currentUrl)
    · cases (isSameResolvedPath o e.delegateTarget.address env.currentUrl).1 <;>
        simp [NavEffect.historyRecord?]
    · simp only [handleLinkToSamePage, ↓reduceIte, true_and]
      split_ifs <;> simp_all [NavEffect.historyRecord?]
  · rcases linkClickHandler_of_not_intercepts o env e hi with h | h <;>
      simp [h, hi, NavEffect.historyRecord?]

/-- With the default options, the resolved-path guard adds nothing: a click
that swup takes over starts a visit exactly when the link's address is neither
empty nor the current URL. -/
theorem startsVisit_defaults (locationOrigin : String) :
    StartsVisit (defaults locationOrigin) env e ↔ Intercepts (defaults locationOrigin) e ∧
      e.delegateTarget.address.isEmpty = false ∧ e.delegateTarget.address ≠ env.currentUrl := by
  simp only [startsVisit_iff, isSameResolvedPath_defaults, Bool.or_eq_false_iff, beq_eq_false_iff_ne]
  tauto

end Click

/-! ## History navigation -/

/-- {lit}`event.state?.url ?? location.href`. -/
def popStateUrl (env : NavEnv) (event : PopStateEvent) : Url :=
  (event.state.bind HistoryState.url).getD env.href

/-- {lit}`popStateHandler(event)`, with {lit}`this.currentPageUrl`. -/
def popStateHandler (o : NavOptions) (env : NavEnv) (currentPageUrl : Url)
    (event : PopStateEvent) : List NavEffect :=
  if o.skipPopStateHandling event then []
  else
    (isSameResolvedPath o env.currentUrl currentPageUrl).2.map .warn ++
      if (isSameResolvedPath o env.currentUrl currentPageUrl).1 then []
      else
        let link := env.link (popStateUrl env event)
        (if link.2.isEmpty then [.preventDefault] else [.setScrollToElement (some link.2)]) ++
          [.triggerEvent "popState"] ++
          (if !o.animateHistoryBrowsing then
            [.removeClass "is-animating", .cleanupAnimationClasses] else []) ++
          [.loadPage link.1 none true]

/-- The guards after which {lit}`popStateHandler` starts a visit. -/
structure HandlesPopState (o : NavOptions) (env : NavEnv) (currentPageUrl : Url)
    (event : PopStateEvent) : Prop where
  notSkipped : o.skipPopStateHandling event = false
  pathChanged : (isSameResolvedPath o env.currentUrl currentPageUrl).1 = false

section PopState

variable (o : NavOptions) (env : NavEnv) (currentPageUrl : Url) (event : PopStateEvent)

theorem handlesPopState_iff :
    HandlesPopState o env currentPageUrl event ↔ o.skipPopStateHandling event = false ∧
      (isSameResolvedPath o env.currentUrl currentPageUrl).1 = false :=
  ⟨fun h => ⟨h.1, h.2⟩, fun ⟨h1, h2⟩ => ⟨h1, h2⟩⟩

instance : Decidable (HandlesPopState o env currentPageUrl event) :=
  decidable_of_iff _ (handlesPopState_iff o env currentPageUrl event).symm

/-- A history navigation starts a visit exactly when the
{lit}`skipPopStateHandling` option lets it through and the resolved path of the
current URL differs from that of {lit}`currentPageUrl`.  The visit goes to the
address of the entry's URL, or of {lit}`location.href` when the entry has none,
as a history visit.  Such a navigation prevents the default exactly when that
URL has no hash, and otherwise sets {lit}`scrollToElement` to the hash. -/
theorem popStateHandler_visit_iff :
    (popStateHandler o env currentPageUrl event).filterMap NavEffect.visit? =
        (if HandlesPopState o env currentPageUrl event then
          [((env.link (popStateUrl env event)).1, none, true)] else []) ∧
      (NavEffect.preventDefault ∈ popStateHandler o env currentPageUrl event ↔
        HandlesPopState o env currentPageUrl event ∧ (env.link (popStateUrl env event)).2.isEmpty) ∧
      (popStateHandler o env currentPageUrl event).filterMap NavEffect.scrollTarget? =
        (if HandlesPopState o env currentPageUrl event ∧
            !(env.link (popStateUrl env event)).2.isEmpty then
          [some (env.link (popStateUrl env event)).2] else []) := by
  simp only [popStateHandler, handlesPopState_iff]
  cases o.skipPopStateHandling event
  · cases (isSameResolvedPath o env.currentUrl currentPageUrl).1
    · cases (env.link (popStateUrl env event)).2.isEmpty <;> cases o.animateHistoryBrowsing <;>
        simp [NavEffect.visit?, NavEffect.scrollTarget?]
    · simp [NavEffect.visit?, NavEffect.scrollTarget?]
  · simp

/-- With the default options, a history navigation is handled exactly when its
entry carries the {lit}`swup` source and the current URL is not
{lit}`currentPageUrl`. -/
theorem handlesPopState_defaults (locationOrigin : String) :
    HandlesPopState (defaults locationOrigin) env currentPageUrl event ↔
      event.state.bind HistoryState.source = some "swup" ∧ env.currentUrl ≠ currentPageUrl := by
  rw [handlesPopState_iff, isSameResolvedPath_defaults]
  simp [defaults]

end PopState

end Navigation

end Swup
