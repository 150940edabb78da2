import Hearthdeck.Ai.Taxonomy
import Hearthdeck.Daemon.Arrivals
import Hearthdeck.Daemon.CollectionOwners

/-!
# Composing the rails of the dashboard

A stored collection says who owns it and by which rule its members are found.
The service finds them anew for every reading: among the plays, in the catalog,
or in the latest report of the categorizer.  A rule that fails leaves its rail
as stored, and cards without an icon get that of the catalog or of RomM.

The reads of the other components are arguments, as what they answer while the
rails are composed.
-/

namespace Hearthdeck
namespace Daemon

open Foundation Frontend Protocol

/-! ## The latest plays -/

/-- `RecentActivity`. -/
structure RecentActivity where
  entry : ActivityEntry
  lastLaunchedAt : Instant
  launchCount : Nat
  deriving DecidableEq, Repr

/-- `lower(json_extract(snapshot_json, '$.kind')) = 'game'`. -/
def isGameEntry (entry : ActivityEntry) : Bool :=
  entry.kind.any fun kind => Frontend.eqIgnoreAsciiCase kind gameKind

namespace ActivityStore

/-- `recent_activity_from_row`. -/
def recentActivityFromRow (row : LaunchActivity) : RecentActivity where
  entry := row.snapshot
  lastLaunchedAt := row.lastLaunchedAt
  launchCount := row.launchCount

/-- The rows of games, the latest launched first. -/
def gameRows (store : ActivityStore) :
    List (Sigma fun _ : String => LaunchActivity) :=
  (store.launchActivity.filter fun _ row => isGameEntry row.snapshot).orderBy
    fun _ row => OrderDual.toDual row.lastLaunchedAt

/-- `recent_games`: the filter comes before the limit. -/
def recentGames
    (store : ActivityStore)
    (limit : Nat) : List RecentActivity :=
  (store.gameRows.take (max 1 (min limit 50))).map fun row =>
    recentActivityFromRow row.2

end ActivityStore

/-! ## The members of a modeled rail -/

/-- A category of a `ScanReport`. -/
structure ReportCategory where
  slug : String
  recommended : Bool
  appIds : List String

/-- One more application, unless it is there. -/
def addNew (appIds : List String) (appId : String) : List String :=
  if appIds.contains appId then appIds else appIds ++ [appId]

/-- `on_rail`, as the slugs of the categories. -/
def slugsOnRail
    (categories : List Ai.CategoryDef)
    (railId : String) : List String :=
  (categories.filter fun category =>
    category.rail.any fun rail => rail.id == railId).map Ai.CategoryDef.slug

/-- `rail_app_ids`. -/
def railAppIds
    (report : List ReportCategory)
    (categories : List Ai.CategoryDef)
    (railId : String) : List String :=
  let slugs := slugsOnRail categories railId
  report.foldl
    (fun appIds category =>
      if !category.recommended || !slugs.contains category.slug then appIds
      else category.appIds.foldl addNew appIds)
    []

/-! ## The service -/

namespace RuleService

/-- `ENTRY_ID_PREFIX`. -/
def entryIdHead : String := "hearthdeck:"

/-- `ITEM_LIMIT`. -/
def itemLimit : Nat := 20

/-- `OWNER_LAYA`. -/
def ownerLaya : String := "laya"

/-- `CollectionItem`, with what a composed card carries. -/
structure RailItem where
  itemId : String
  name : String
  icon : Option String
  background : Option String := none
  logo : Option String := none
  description : Option String := none
  played : Option RecentActivity := none
  deriving DecidableEq

/-- A stored card. -/
def RailItem.stored (item : CollectionItem) : RailItem where
  itemId := item.itemId
  name := item.name
  icon := item.icon

/-- `RuleError`. -/
inductive RuleError
  | catalog (cause : SqlError)
  | activity (cause : String)
  | categorization (cause : String)
  deriving DecidableEq

/-- What the service reads from. -/
structure Sources where
  /-- `CatalogStore::get`. -/
  get : String → Except SqlError (Option CatalogItem)
  /-- `CatalogStore::list_source`; beside an item, the metadata its provider
  published. -/
  listSource : String → Nat → Except SqlError (List (CatalogItem × Json))
  /-- `ActivityStore::recent_games`. -/
  recentGames : Nat → Except String (List RecentActivity)
  /-- The latest report of the categorizer, where there is one. -/
  latestReport : Option (Except String (Option (List ReportCategory)))
  /-- The cover RomM has of a game. -/
  romCover : Int → Except String (Option String)

/-- `owned_rule_id`. -/
def ownedRuleId (owner rule : String) : Option String :=
  (stripped owner rule).bind (stripped ":")

/-- `catalog_id_from_item`. -/
def catalogIdFromItem (itemId : String) : Option String :=
  (stripped entryIdHead itemId).filter fun id => !id.isEmpty

/-- `rom_id_from_item`. -/
def romIdFromItem (itemId : String) : Option Int :=
  (stripped "romm:" itemId).bind parseI64

/-- `played_collection_item`. -/
def playedCollectionItem (play : RecentActivity) : RailItem where
  itemId := play.entry.id
  name := play.entry.title
  icon := play.entry.icon
  played := some play

section Reading

variable (sources : Sources)

/-- `last_played_items`. -/
def lastPlayedItems : Except RuleError (List RailItem) :=
  match sources.recentGames itemLimit with
  | .ok plays => .ok (plays.map playedCollectionItem)
  | .error cause => .error (.activity cause)

/-- A modeled card; one the catalog does not have stays without a name. -/
def modeledItem (appId : String) : RailItem :=
  match sources.get appId with
  | .ok (some item) =>
      { itemId := entryIdHead ++ appId
        name := item.title
        icon := item.icon }
  | _ =>
      { itemId := entryIdHead ++ appId
        name := ""
        icon := none }

/-- `modeled_items`. -/
def modeledItems
    (collection : Collection) : Except RuleError (List RailItem) :=
  match collection.rule.bind (ownedRuleId ownerLaya) with
  | none => .ok []
  | some railId =>
      match sources.latestReport with
      | none => .ok []
      | some (.error cause) => .error (.categorization cause)
      | some (.ok none) => .ok []
      | some (.ok (some report)) =>
          .ok ((railAppIds report Ai.baselineCategories railId).map
            (modeledItem sources))

/-- `continue_watching_items`. -/
def continueWatchingItems : Except RuleError (List RailItem) :=
  match sources.listSource Stremio.sourceId itemLimit with
  | .error cause => .error (.catalog cause)
  | .ok records =>
      .ok ((records.filter fun record =>
        record.1.kind == "movie" || record.1.kind == "series").map fun record =>
          { itemId := entryIdHead ++ record.1.id
            name := record.1.title
            icon := record.1.icon })

/-- `new_arrival_items`. -/
def newArrivalItems : Except RuleError (List RailItem) :=
  match sources.listSource Arrivals.sourceId itemLimit with
  | .error cause => .error (.catalog cause)
  | .ok records =>
      .ok (records.map fun record =>
        let art := fun key => (record.2.get key).bind Json.asStr
        { itemId := entryIdHead ++ record.1.id
          name := record.1.title
          icon := record.1.icon
          background := art "background"
          logo := art "logo"
          description := art "description" })

/-- `RuleService::resolve`: the owner and the rule say how. -/
def resolve
    (collection : Collection) : Except RuleError (Option (List RailItem)) :=
  if collection.owner = ownerLaya then
    (modeledItems sources collection).map some
  else if collection.owner = CollectionStore.ownerStremio ∧
      collection.rule = some CollectionStore.ruleContinueWatching then
    (continueWatchingItems sources).map some
  else if collection.owner = CollectionStore.ownerStremio ∧
      collection.rule = some CollectionStore.ruleNewArrivals then
    (newArrivalItems sources).map some
  else if collection.owner = CollectionStore.ownerSystem ∧
      collection.rule = some CollectionStore.ruleLastPlayed then
    (lastPlayedItems sources).map some
  else
    .ok none

/-- `stored_item_icon`. -/
def storedItemIcon (itemId : String) : Option String :=
  match romIdFromItem itemId with
  | some romId =>
      match sources.romCover romId with
      | .ok cover => cover
      | .error _ => none
  | none =>
      (catalogIdFromItem itemId).bind fun catalogId =>
        match sources.get catalogId with
        | .ok item => item.bind CatalogItem.icon
        | .error _ => none

/-- `with_item_icons`, of one card. -/
def withIcon (item : RailItem) : RailItem :=
  { item with icon := item.icon.or (storedItemIcon sources item.itemId) }

/-- The cards a collection is shown with: a rule that fails leaves the stored
ones. -/
def itemsOf (collection : Collection) : List RailItem :=
  match resolve sources collection with
  | .ok (some items) => items
  | .ok none => collection.items.map RailItem.stored
  | .error _ => collection.items.map RailItem.stored

/-- `RuleService::compose`: every collection with its cards. -/
def compose
    (collections : List Collection) : List (Collection × List RailItem) :=
  collections.map fun collection =>
    (collection, (itemsOf sources collection).map (withIcon sources))

end Reading

end RuleService
end Daemon
end Hearthdeck
