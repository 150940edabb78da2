import Hearthdeck.Daemon.Catalog
import Hearthdeck.Frontend.Library
import Hearthdeck.Frontend.RommForm

/-!
# What the catalog serves

A row of `library_items`, joined with the best enrichment of its launch id and
with the form a model gave it, is served as one item.  Its kind follows from
the source that published it, and the section it is placed in from its kind,
its categories and the names of emulators in its id and launch id.

Reading JSON is the work of a library; what it reads is an argument here.
-/

namespace Hearthdeck
namespace Daemon

open Foundation Frontend

/-! ## Metadata -/

/-- A JSON value. -/
inductive Json
  | null
  | bool (value : Bool)
  | number (text : String)
  | string (value : String)
  | array (values : List Json)
  | object (fields : List (String × Json))

namespace Json

/-- `Value::get`. -/
def get (json : Json) (key : String) : Option Json :=
  match json with
  | .object fields => fields.lookup key
  | _ => none

/-- `Value::as_str`. -/
def asStr : Json → Option String
  | .string value => some value
  | _ => none

/-- `Value::as_array`. -/
def asArray : Json → Option (List Json)
  | .array values => some values
  | _ => none

end Json

/-- `metadata_string`. -/
def metadataString (metadata : Option Json) (key : String) : Option String :=
  (metadata.bind fun metadata =>
    (metadata.get key).bind fun value =>
      value.asStr.map trimmed).filter fun value => !value.isEmpty

/-- `metadata_string_list`: every text once, at its first place. -/
def metadataStringList
    (metadata : Option Json)
    (key : String) : Option (List String) :=
  metadata.bind fun metadata =>
    (metadata.get key).bind fun value =>
      value.asArray.map fun values =>
        ((values.filterMap fun value => value.asStr.map trimmed).filter
          fun value => !value.isEmpty).foldl
            (fun unique value =>
              if unique.contains value then unique else unique ++ [value]) []

/-- The metadata of an item, as far as its place in the library goes by it. -/
structure Metadata where
  categories : List String
  store : Option String
  source : Option String
  /-- The form a model gave the item. -/
  formFactor : Option String
  deriving DecidableEq, Repr

/-- `merged_metadata`. -/
def mergedMetadata
    (discovery : Json)
    (enrichment : Option Json) : Metadata where
  categories :=
    (((metadataStringList enrichment "categories").or
      (metadataStringList (some discovery) "categories")).filter
        fun categories => !categories.isEmpty).getD ["Other"]
  store := metadataString (some discovery) "store"
  source := metadataString (some discovery) "source"
  formFactor := none

/-! ## Placement -/

def watchServices : List String :=
  ["stremio", "netflix", "primevideo", "prime video", "prime-video",
    "disneyplus", "disney+", "hulu", "hbomax", "hbo max", "max.com",
    "crunchyroll", "paramountplus", "paramount+", "peacock", "tubitv",
    "tubi.tv", "plutotv", "pluto.tv", "appletv", "apple tv", "tv.apple",
    "plex", "jellyfin", "emby", "kodi"]

def emulators : List String :=
  ["retroarch", "dolphin", "pcsx2", "duckstation", "rpcs3", "citra", "yuzu",
    "ryujinx", "mame", "mupen", "xemu", "melon", "ppsspp", "snes9x", "mgba",
    "mednafen", "desmume", "fsuae", "scummvm", "cemu", "ares", "bsnes",
    "limbo", "flycast", "redream", "standalone", "emulator"]

def couchLaunchers : List String :=
  ["heroic", "steam", "lutris", "retroarch", "emulationstation", "es-de",
    "moonlight"]

/-- `str::contains`. -/
def contains (text part : String) : Bool :=
  part.toList <:+: text.toList

/-- `emulator`. -/
def emulator (signal : String) : Bool :=
  emulators.any fun name => contains signal name

/-- `streaming`. -/
def streaming (signal : String) : Bool :=
  watchServices.any fun name => contains signal name

/-- `CatalogClassification`. -/
structure CatalogClassification where
  inSection : Section
  streaming : Bool
  formFactor : Option FormFactor
  deriving DecidableEq, Repr

/-- What the names of an item are searched in. -/
def classifySignal
    (language : Language)
    (id : String)
    (exec : Option String) : String :=
  language.lowercase ("hearthdeck:" ++ id ++ " " ++ exec.getD "")

/-- `classify_catalog`. -/
def classifyCatalog
    (language : Language)
    (id : String)
    (exec : Option String)
    (claimed : Section)
    (modeledForm : Option FormFactor) : CatalogClassification :=
  let signal := classifySignal language id exec
  let streams := claimed = .applications && streaming signal
  let inSection :=
    if claimed = .pcGames && emulator signal then .consoleGames else claimed
  { inSection := inSection
    streaming := streams
    formFactor :=
      if inSection = .applications then
        some (if streams ||
            couchLaunchers.any (fun name => contains signal name) ||
            modeledForm = some .couch then
          .couch
        else
          .desktop)
      else
        none }

/-! ## Items -/

/-- `sources::HEROIC`. -/
def heroicSource : String := "heroic"

/-- `GAME`. -/
def gameKind : String := "game"

/-- `APPLICATION`. -/
def applicationKind : String := "application"

/-- `served_kind`: only what Heroic found is a game. -/
def servedKind (sourceId claimed : String) : String :=
  if Frontend.eqIgnoreAsciiCase claimed gameKind &&
      sourceId != heroicSource then
    applicationKind
  else
    claimed

/-- The best enrichment of a launch id. -/
structure Enrichment where
  providerId : String
  payloadJson : String

/-- What a row is joined with: the enrichments by launch id, and the forms a
model gave by item id. -/
structure Joined where
  enrichment : String → Option Enrichment
  form : String → Option String

/-- `CatalogItem`. -/
structure CatalogItem where
  id : String
  sourceId : String
  title : String
  kind : String
  launchId : Option String
  icon : Option String
  metadata : Metadata
  classification : CatalogClassification
  deriving DecidableEq, Repr

/-- Whether a category names a console. -/
def namesConsole (categories : List String) : Bool :=
  categories.any fun category =>
    (stripped consoleFilterHead category).isSome

/-- The section an item is claimed for by its kind and its categories. -/
def claimedSection (kind : String) (metadata : Metadata) : Section :=
  if !Frontend.eqIgnoreAsciiCase kind gameKind then
    .applications
  else if namesConsole metadata.categories then
    .consoleGames
  else
    .pcGames

/-- The form a model's verdict names. -/
def modeledForm (metadata : Metadata) : Option FormFactor :=
  match metadata.formFactor with
  | some "couch" => some .couch
  | some "desktop" => some .desktop
  | _ => none

section Reading

variable (read : String → Option Json)

/-- What was read of the enrichment of a row. -/
def enrichmentOf (joined : Joined) (row : LibraryItem) : Option Json :=
  (row.launchId.bind joined.enrichment).bind fun enrichment =>
    read enrichment.payloadJson

/-- The metadata a row is served with. -/
def metadataOf
    (joined : Joined)
    (id : String)
    (row : LibraryItem) : Metadata :=
  { mergedMetadata ((read row.metadataJson).getD .null)
      (enrichmentOf read joined row) with
    formFactor := joined.form id }

/-- `catalog_item_from_row`. -/
def catalogItemFromRow
    (language : Language)
    (joined : Joined)
    (id : String)
    (row : LibraryItem) : CatalogItem :=
  let metadata := metadataOf read joined id row
  let kind := servedKind row.sourceId row.kind
  { id := id
    sourceId := row.sourceId
    title := row.title
    kind := kind
    launchId := row.launchId
    icon := row.icon.or
      (metadataString (enrichmentOf read joined row) "icon")
    metadata := metadata
    classification := classifyCatalog language id row.launchId
      (claimedSection kind metadata) (modeledForm metadata) }

/-- `CatalogStore::list`. -/
def list
    (language : Language)
    (joined : Joined)
    (items : LibraryItems) : List CatalogItem :=
  (items.entries.insertionSort fun left right =>
    left.2.title.toList ≤ right.2.title.toList).map fun entry =>
      catalogItemFromRow read language joined entry.1 entry.2

/-- A row is served to the section of the consoles: a game of Heroic with the
category of a console, or with the name of an emulator in its id or launch
id. -/
def Misfiled
    (language : Language)
    (joined : Joined)
    (id : String)
    (row : LibraryItem) : Prop :=
  row.sourceId = heroicSource ∧
    Frontend.eqIgnoreAsciiCase row.kind gameKind = true ∧
    (namesConsole (metadataOf read joined id row).categories = true ∨
      emulator (classifySignal language id row.launchId) = true)

instance
    (language : Language)
    (joined : Joined)
    (id : String)
    (row : LibraryItem) :
    Decidable (Misfiled read language joined id row) :=
  inferInstanceAs (Decidable (_ ∧ _ ∧ (_ ∨ _)))

/-! ## Where an item is placed -/

/-- What is served as a game was claimed to be one by Heroic. -/
theorem servedKind_isGame
    (sourceId claimed : String) :
    Frontend.eqIgnoreAsciiCase (servedKind sourceId claimed) gameKind = true ↔
      sourceId = heroicSource ∧
        Frontend.eqIgnoreAsciiCase claimed gameKind = true := by
  unfold servedKind
  by_cases game : Frontend.eqIgnoreAsciiCase claimed gameKind = true
  · by_cases heroic : sourceId = heroicSource
    · rw [if_neg (by simp [heroic])]
      simp [heroic, game]
    · rw [if_pos (by simp [heroic, game])]
      simp only [heroic, false_and, iff_false]
      decide
  · rw [if_neg (by simp [game])]
    simp [game]

/-- The rows that are served to the section of the consoles. -/
theorem inSection_eq_consoleGames_iff
    (language : Language)
    (joined : Joined)
    (id : String)
    (row : LibraryItem) :
    (catalogItemFromRow read language joined id row).classification.inSection =
        .consoleGames ↔
      Misfiled read language joined id row := by
  have game := servedKind_isGame row.sourceId row.kind
  unfold Misfiled
  unfold catalogItemFromRow classifyCatalog claimedSection
  dsimp only
  rw [← and_assoc, ← game]
  cases Frontend.eqIgnoreAsciiCase (servedKind row.sourceId row.kind)
    gameKind with
  | false => simp
  | true =>
      cases namesConsole (metadataOf read joined id row).categories with
      | true => simp
      | false =>
          cases emulator (classifySignal language id row.launchId) with
          | true => simp
          | false => simp

/-- An application is served with a form. -/
theorem formFactor_of_applications
    (language : Language)
    (joined : Joined)
    (id : String)
    (row : LibraryItem)
    (placed :
      (catalogItemFromRow read language joined id
        row).classification.inSection = .applications) :
    (catalogItemFromRow read language joined id
      row).classification.formFactor.isSome = true := by
  unfold catalogItemFromRow classifyCatalog at placed ⊢
  dsimp only at placed ⊢
  rw [if_pos placed]
  rfl

/-- A listed item is a row of the table. -/
theorem mem_list
    (language : Language)
    (joined : Joined)
    {items : LibraryItems}
    {id : String}
    {row : LibraryItem}
    (found : items.lookup id = some row) :
    catalogItemFromRow read language joined id row ∈
      list read language joined items := by
  refine List.mem_map.mpr ⟨⟨id, row⟩, ?_, rfl⟩
  rw [List.mem_insertionSort]
  exact AList.mem_lookup_iff.mp found

end Reading

end Daemon
end Hearthdeck
