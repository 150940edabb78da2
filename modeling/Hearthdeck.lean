import Hearthdeck.Foundation.Machine
import Hearthdeck.Foundation.History
import Hearthdeck.Foundation.Table
import Hearthdeck.Foundation.Effect
import Hearthdeck.Foundation.Database
import Hearthdeck.Foundation.Flight
import Hearthdeck.Foundation.Mirror
import Hearthdeck.Foundation.Unwind
import Hearthdeck.Foundation.Repeats
import Hearthdeck.Protocol.Input
import Hearthdeck.Protocol.Bridge
import Hearthdeck.Protocol.Framing
import Hearthdeck.Input.Mapping
import Hearthdeck.Input.MapperLog
import Hearthdeck.Input.Ownership
import Hearthdeck.Input.OnePad
import Hearthdeck.Input.Repeat
import Hearthdeck.Input.Neutral
import Hearthdeck.Input.Guide
import Hearthdeck.Input.SelectStart
import Hearthdeck.Input.Devices
import Hearthdeck.Input.Broker
import Hearthdeck.Input.Wiring
import Hearthdeck.Input.Delivery
import Hearthdeck.Input.Capture
import Hearthdeck.Input.AxisDecoders
import Hearthdeck.Input.Channels
import Hearthdeck.Input.VirtualKeys
import Hearthdeck.Ai.Taxonomy
import Hearthdeck.Ai.Prompt
import Hearthdeck.Daemon.ProviderWorker
import Hearthdeck.Daemon.Coalescing
import Hearthdeck.Daemon.Activity
import Hearthdeck.Daemon.Sessions
import Hearthdeck.Daemon.PlayLog
import Hearthdeck.Daemon.PlayEnds
import Hearthdeck.Daemon.Catalog
import Hearthdeck.Daemon.Collections
import Hearthdeck.Daemon.Rails
import Hearthdeck.Daemon.CollectionOwners
import Hearthdeck.Daemon.Plays
import Hearthdeck.Daemon.Serving
import Hearthdeck.Daemon.Enrichments
import Hearthdeck.Daemon.ContinueWatching
import Hearthdeck.Daemon.Categorizer
import Hearthdeck.Daemon.FormFactors
import Hearthdeck.Daemon.TurningOff
import Hearthdeck.Daemon.PairingCodes
import Hearthdeck.Daemon.FrontDoor
import Hearthdeck.Daemon.Admittance
import Hearthdeck.Daemon.Disconnecting
import Hearthdeck.Daemon.BiosPlacement
import Hearthdeck.Daemon.BiosTargets
import Hearthdeck.Daemon.BiosConfined
import Hearthdeck.Daemon.RetroLaunch
import Hearthdeck.Daemon.Readiness
import Hearthdeck.Daemon.RommArtwork
import Hearthdeck.Daemon.ReleaseDates
import Hearthdeck.Daemon.Arrivals
import Hearthdeck.Daemon.RuleService
import Hearthdeck.Daemon.RecentlyPlayed
import Hearthdeck.Daemon.HomeReleases
import Hearthdeck.Daemon.StremioProvider
import Hearthdeck.Daemon.StremioRow
import Hearthdeck.Bridge.Sessions
import Hearthdeck.Bridge.SingleSession
import Hearthdeck.Bridge.RetroSaves
import Hearthdeck.Bridge.ExecLines
import Hearthdeck.Bridge.DesktopApps
import Hearthdeck.Bridge.LaunchTargets
import Hearthdeck.Bridge.StremioTitles
import Hearthdeck.Bridge.ProfileSeeding
import Hearthdeck.Daemon.CoreInstalls
import Hearthdeck.Daemon.HeroicLaunches
import Hearthdeck.Frontend.Console
import Hearthdeck.Frontend.ConsoleCache
import Hearthdeck.Frontend.ConsolePaging
import Hearthdeck.Frontend.InputOwnership
import Hearthdeck.Frontend.Library
import Hearthdeck.Frontend.App
import Hearthdeck.Frontend.Projection
import Hearthdeck.Frontend.TabSlides
import Hearthdeck.Frontend.TileMenu
import Hearthdeck.Frontend.Frames
import Hearthdeck.Frontend.Refresh
import Hearthdeck.Frontend.Copies
import Hearthdeck.Frontend.RetryChains
import Hearthdeck.Frontend.Details
import Hearthdeck.Frontend.FlagWrites
import Hearthdeck.Frontend.FlagButtons
import Hearthdeck.Frontend.DetailsCursor
import Hearthdeck.Frontend.LiveConfig
import Hearthdeck.Frontend.RommForm
import Hearthdeck.Frontend.AccountLinks
import Hearthdeck.Frontend.Surfaces
import Hearthdeck.Frontend.Back
import Hearthdeck.Frontend.Placement
import Hearthdeck.Frontend.TabPartition
import Hearthdeck.Frontend.VersionTitles
import Hearthdeck.Frontend.IconWorker
import Hearthdeck.Frontend.DashboardReloads
import Hearthdeck.Frontend.GridFocus
import Hearthdeck.Frontend.Followers
import Hearthdeck.Frontend.WindowHints
import Hearthdeck.Bridge.Processes
import Hearthdeck.Bridge.UnitTasks
import Hearthdeck.Bridge.Supervision
import Hearthdeck.QuickMenu.Overlay
import Hearthdeck.QuickMenu.Requests
import Hearthdeck.QuickMenu.Subscription
import Hearthdeck.Foundation.Broadcast
import Hearthdeck.Frontend.ChangeFeed
