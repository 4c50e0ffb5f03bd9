import Swup.Hooks.Registry
import Swup.Hooks.GetHandlers
import Swup.Hooks.Trigger
import Swup.Hooks.Frame
import Swup.Hooks.SyncTrigger
import Swup.Hooks.Spy
import Swup.Hooks.ReplaceChain
import Swup.Hooks.OnceRemoval
import Swup.Hooks.Outcome
import Swup.Hooks.Order
import Swup.Hooks.Concurrent
import Swup.Hooks.WellFormed
import Swup.Hooks.Serial
import Swup.Page.AnimationPromises
import Swup.Page.LeavePage
import Swup.Page.Preload
import Swup.Page.RenderPage
import Swup.Page.Navigation
import Swup.Page.LegacyNavigation
