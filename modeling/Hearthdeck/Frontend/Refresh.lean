import Hearthdeck.Foundation.Machine
import Hearthdeck.Foundation.Mirror
import Hearthdeck.Frontend.Frames

/-!
# Keeping the shell's data fresh

The catalog and the dashboard's collections are copies of what the daemon
holds.  They are read at start, when the feed says that they changed, and when
a page asks for them; a read that fails is repeated.  The reads of these two
carry numbers, and only the latest counts.  The list of consoles is read too,
but its reads carry only the revision of the console source.

The daemon reads its answer at some instant between the sending of a request
and the delivery of the answer.  Every change of the daemon's data is followed
by an event of the feed, and the events arrive in order.
-/

namespace Hearthdeck
namespace Frontend

open Foundation

variable {Version Rails : Type}

/-- Whether an event makes the collections stale. -/
def FeedEvent.stalesCollections : FeedEvent → Bool
  | .changed .unknown => false
  | _ => true

/-- A read of the console list on its way. -/
structure ConsoleRead where
  source : Nat
  /-- Whether it repeats a read that failed. -/
  retry : Bool
  deriving DecidableEq, Repr

/-- An event of the feed on its way, and how often the daemon's data had
changed when it was sent. -/
structure FeedNotice where
  event : FeedEvent
  catalogAge : Nat
  railsAge : Nat

/-- The shell's data, the reads on their way, and the daemon. -/
structure Refresher (Version Rails : Type) where
  app : App Version
  collections : Rails
  /-- The number of the latest read of the collections. -/
  collectionsRequest : Nat
  /-- Whether a failed read of the collections waits to be tried again. -/
  retryCollections : Bool
  consolePlatforms : List (Int × String)
  /-- Whether a failed read of the consoles waits to be tried again. -/
  retryConsoles : Bool
  /-- Whether a RomM connection is configured. -/
  connected : Bool
  catalogReads : List (Flight Nat (List LibraryItem × Nat))
  collectionReads : List (Flight Nat (Rails × Nat))
  consoleReads : List ConsoleRead
  /-- The daemon's catalog and collections, and how often they changed. -/
  catalog : List LibraryItem
  catalogAge : Nat
  rails : Rails
  railsAge : Nat
  feed : List FeedNotice
  /-- Up to which change the feed has told the shell. -/
  heardCatalog : Nat
  heardRails : Nat
  /-- Which state of the daemon the shell's copies are from. -/
  catalogHeldAge : Nat
  railsHeldAge : Nat

/-- What can happen. -/
inductive RefreshStep (Version Rails : Type)
  /-- Any message of the library that is no answer and no event. -/
  | message (message : Message Version)
  /-- `DashboardTick`. -/
  | dashboardTick
  /-- The collections are read whatever is on its way: `ModelRailsRemoved`, a
  flag that was written, a Stremio account that was linked. -/
  | reloadCollections
  /-- The settings screen learns whether RomM is connected. -/
  | rommLoaded (connected : Bool)
  /-- The daemon's catalog changes, and the feed is sent an event of it. -/
  | changeCatalog (entries : List LibraryItem) (event : FeedEvent)
  /-- The daemon's collections change, and the feed is sent an event of it. -/
  | changeRails (rails : Rails) (event : FeedEvent)
  /-- The feed is sent an event although nothing changed. -/
  | announce (event : FeedEvent)
  /-- `DaemonChanged`: the next event arrives. -/
  | hear
  /-- The daemon reads the answer to a request. -/
  | readCatalog (index : Nat)
  | readRails (index : Nat)
  /-- `CatalogLoaded`. -/
  | catalogAnswered (index : Nat)
  | catalogFailed (index : Nat) (error : String)
  /-- `CollectionsLoaded`. -/
  | railsAnswered (index : Nat)
  | railsFailed (index : Nat) (error : String)
  /-- `ConsolesLoaded`. -/
  | consolesAnswered (index : Nat) (platforms : List (Int × String))
  | consolesFailed (index : Nat) (error : String)

namespace Refresher

/-- Let the library react. -/
def stepApp
    (language : Language)
    (refresher : Refresher Version Rails)
    (message : Message Version) : Refresher Version Rails :=
  { refresher with app := refresher.app.update language message }

/-- The request of the catalog read that was just numbered. -/
def sendCatalog
    (refresher : Refresher Version Rails) : Refresher Version Rails :=
  { refresher with
    catalogReads := refresher.catalogReads ++
      [.sent refresher.app.catalogRequest] }

/-- `load_collections_after`. -/
def loadCollections
    (refresher : Refresher Version Rails) : Refresher Version Rails :=
  { refresher with
    collectionsRequest := refresher.collectionsRequest + 1
    collectionReads := refresher.collectionReads ++
      [.sent (refresher.collectionsRequest + 1)] }

/-- The collections are read unless a read of them is repeated. -/
def refreshCollections
    (refresher : Refresher Version Rails) : Refresher Version Rails :=
  if refresher.retryCollections then refresher else refresher.loadCollections

/-- `load_consoles_after`. -/
def loadConsoles
    (refresher : Refresher Version Rails)
    (retry : Bool) : Refresher Version Rails :=
  { refresher with
    consoleReads := refresher.consoleReads ++
      [⟨refresher.app.console.source, retry⟩] }

/-- The consoles are read if none have arrived and no read of them is
repeated. -/
def loadMissingConsoles
    (refresher : Refresher Version Rails) : Refresher Version Rails :=
  if refresher.consolePlatforms.isEmpty && !refresher.retryConsoles then
    refresher.loadConsoles false
  else
    refresher

/-- `daemon_changed`. -/
def daemonChanged
    (language : Language)
    (refresher : Refresher Version Rails)
    (event : FeedEvent) : Refresher Version Rails :=
  let stepped := refresher.stepApp language (.daemonChanged event)
  let catalog :=
    if event.stalesCatalog && !refresher.app.retryCatalog then
      stepped.sendCatalog
    else
      stepped
  let rails :=
    if event.stalesCollections then catalog.refreshCollections else catalog
  if event = .resumed then
    { rails with retryConsoles := false }.loadConsoles false
  else if event.stalesCatalog then
    rails.loadMissingConsoles
  else
    rails

/-- `refresh_dashboard`. -/
def refreshDashboard
    (refresher : Refresher Version Rails) : Refresher Version Rails :=
  refresher.refreshCollections.loadMissingConsoles

/-- `restore_dashboard`, up to the removal of the model's collections. -/
def restoreDashboard
    (language : Language)
    (refresher : Refresher Version Rails) : Refresher Version Rails :=
  let stepped := refresher.stepApp language .restoreDashboard
  let catalog :=
    if refresher.app.retryCatalog then stepped else stepped.sendCatalog
  if catalog.retryConsoles then catalog else catalog.loadConsoles false

/-- `romm_connection_changed`. -/
def rommConnectionChanged
    (language : Language)
    (refresher : Refresher Version Rails) : Refresher Version Rails :=
  let stepped :=
    { refresher.stepApp language .rommConnectionChanged with
      retryConsoles := false
      consolePlatforms := [] }
  if stepped.connected then stepped.loadConsoles false else stepped

/-- The messages of the library that read something again. -/
def message
    (language : Language)
    (refresher : Refresher Version Rails) :
    Message Version → Refresher Version Rails
  -- Answers and events come only from what is on its way.
  | .catalogLoaded _ _ => refresher
  | .consolesLoaded _ _ => refresher
  | .daemonChanged _ => refresher
  | .openDashboard =>
      (refresher.stepApp language .openDashboard).refreshDashboard
  | .restoreDashboard => refresher.restoreDashboard language
  | .rommConnectionChanged => refresher.rommConnectionChanged language
  | message => refresher.stepApp language message

/-- The `CatalogLoaded` arm on a failure: the read is repeated. -/
def catalogFailed
    (language : Language)
    (refresher : Refresher Version Rails)
    (request : Nat)
    (error : String) : Refresher Version Rails :=
  let stepped :=
    refresher.stepApp language (.catalogLoaded request (.error error))
  if request = refresher.app.catalogRequest then
    stepped.sendCatalog
  else
    stepped

/-- The `CollectionsLoaded` arm. -/
def collectionsLoaded
    (refresher : Refresher Version Rails)
    (request : Nat)
    (result : Except String Rails) : Refresher Version Rails :=
  if request ≠ refresher.collectionsRequest then
    refresher
  else
    match result with
    | .ok collections =>
        { refresher with
          collections := collections
          retryCollections := false }
    | .error _ => { refresher with retryCollections := true }.loadCollections

/-- The `ConsolesLoaded` arm. -/
def consolesLoaded
    (language : Language)
    (refresher : Refresher Version Rails)
    (source : Nat)
    (result : Except String (List (Int × String))) :
    Refresher Version Rails :=
  let stepped := refresher.stepApp language (.consolesLoaded source result)
  if source ≠ refresher.app.console.source then
    stepped
  else
    match result with
    | .ok platforms =>
        { stepped with
          retryConsoles := false
          consolePlatforms := platforms }
    | .error _ => { stepped with retryConsoles := true }.loadConsoles true

/-- The feed is sent an event. -/
def notify
    (refresher : Refresher Version Rails)
    (event : FeedEvent) : Refresher Version Rails :=
  { refresher with
    feed := refresher.feed ++
      [⟨event, refresher.catalogAge, refresher.railsAge⟩] }

/-- `DaemonChanged`: the next event of the feed arrives. -/
def hear
    (language : Language)
    (refresher : Refresher Version Rails) : Refresher Version Rails :=
  match refresher.feed with
  | [] => refresher
  | notice :: feed =>
      { refresher with
        feed := feed
        heardCatalog := if notice.event.stalesCatalog then
            max refresher.heardCatalog notice.catalogAge
          else refresher.heardCatalog
        heardRails := if notice.event.stalesCollections then
            max refresher.heardRails notice.railsAge
          else refresher.heardRails }.daemonChanged language notice.event

/-- A read of the catalog that was taken is answered. -/
def answerCatalog
    (language : Language)
    (refresher : Refresher Version Rails)
    (index : Nat) : Refresher Version Rails :=
  match refresher.catalogReads[index]? with
  | some ⟨request, some (entries, age)⟩ =>
      { refresher with
        catalogReads := refresher.catalogReads.eraseIdx index
        catalogHeldAge := if request = refresher.app.catalogRequest then
            age else refresher.catalogHeldAge }.stepApp language
          (.catalogLoaded request (.ok entries))
  | _ => refresher

/-- A read of the catalog fails. -/
def failCatalog
    (language : Language)
    (refresher : Refresher Version Rails)
    (index : Nat)
    (error : String) : Refresher Version Rails :=
  match refresher.catalogReads[index]? with
  | some read =>
      { refresher with
        catalogReads := refresher.catalogReads.eraseIdx index
        }.catalogFailed language read.request error
  | none => refresher

/-- A read of the collections that was taken is answered. -/
def answerRails
    (refresher : Refresher Version Rails)
    (index : Nat) : Refresher Version Rails :=
  match refresher.collectionReads[index]? with
  | some ⟨request, some (rails, age)⟩ =>
      { refresher with
        collectionReads := refresher.collectionReads.eraseIdx index
        railsHeldAge := if request = refresher.collectionsRequest then
            age else refresher.railsHeldAge
        }.collectionsLoaded request (.ok rails)
  | _ => refresher

/-- A read of the collections fails. -/
def failRails
    (refresher : Refresher Version Rails)
    (index : Nat)
    (error : String) : Refresher Version Rails :=
  match refresher.collectionReads[index]? with
  | some read =>
      { refresher with
        collectionReads := refresher.collectionReads.eraseIdx index
        }.collectionsLoaded read.request (.error error)
  | none => refresher

/-- A read of the consoles is answered or fails. -/
def settleConsoles
    (language : Language)
    (refresher : Refresher Version Rails)
    (index : Nat)
    (result : Except String (List (Int × String))) :
    Refresher Version Rails :=
  match refresher.consoleReads[index]? with
  | some read =>
      { refresher with
        consoleReads := refresher.consoleReads.eraseIdx index
        }.consolesLoaded language read.source result
  | none => refresher

/-- One step.  What is not on its way does not arrive, and what was not read
is not answered. -/
def step
    (language : Language)
    (refresher : Refresher Version Rails) :
    RefreshStep Version Rails → Refresher Version Rails
  | .message message => refresher.message language message
  | .dashboardTick =>
      if refresher.app.page = .dashboard then
        refresher.refreshCollections
      else
        refresher
  | .reloadCollections => refresher.loadCollections
  | .rommLoaded connected => { refresher with connected := connected }
  | .changeCatalog entries event =>
      if event.stalesCatalog then
        { refresher with
          catalog := entries
          catalogAge := refresher.catalogAge + 1 }.notify event
      else
        refresher
  | .changeRails rails event =>
      if event.stalesCollections then
        { refresher with
          rails := rails
          railsAge := refresher.railsAge + 1 }.notify event
      else
        refresher
  | .announce event => refresher.notify event
  | .hear => refresher.hear language
  | .readCatalog index =>
      { refresher with
        catalogReads := refresher.catalogReads.modify index
          (Flight.look fun _ => (refresher.catalog, refresher.catalogAge)) }
  | .readRails index =>
      { refresher with
        collectionReads := refresher.collectionReads.modify index
          (Flight.look fun _ => (refresher.rails, refresher.railsAge)) }
  | .catalogAnswered index => refresher.answerCatalog language index
  | .catalogFailed index error => refresher.failCatalog language index error
  | .railsAnswered index => refresher.answerRails index
  | .railsFailed index error => refresher.failRails index error
  | .consolesAnswered index platforms =>
      refresher.settleConsoles language index (.ok platforms)
  | .consolesFailed index error =>
      refresher.settleConsoles language index (.error error)

/-- The shell at start: nothing is held, and one read of each is on its
way. -/
def start
    (config : AppLibraryConfig)
    (catalog : List LibraryItem)
    (nothing rails : Rails) : Refresher Version Rails where
  app := .init config
  collections := nothing
  collectionsRequest := 1
  retryCollections := false
  consolePlatforms := []
  retryConsoles := false
  connected := false
  catalogReads := [.sent 1]
  collectionReads := [.sent 1]
  consoleReads := [⟨0, false⟩]
  catalog := catalog
  catalogAge := 0
  rails := rails
  railsAge := 0
  feed := []
  heardCatalog := 0
  heardRails := 0
  catalogHeldAge := 0
  railsHeldAge := 0

/-- The shell, its reads and the daemon, from any settings and any data. -/
def machine
    (language : Language)
    (config : AppLibraryConfig)
    (catalog : List LibraryItem)
    (nothing rails : Rails) :
    Machine (Refresher Version Rails) (RefreshStep Version Rails) Unit where
  start := start config catalog nothing rails
  step := fun refresher step => (refresher.step language step, [])

end Refresher
end Frontend
end Hearthdeck
