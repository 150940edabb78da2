import Hearthdeck.Daemon.ContinueWatching
import Hearthdeck.Foundation.KeySort
import Hearthdeck.Foundation.TextPaths
import Hearthdeck.Protocol.Bridge
import Mathlib.Data.String.Basic

/-!
# Installed games of Heroic

Heroic keeps a list of the installed games of each store, and caches of what
the stores say of them.  The provider reads these files, in every directory
that Heroic may keep them in, and publishes a record for each game; a launch
reads the launch id of the record back.

What is found under a path is an argument, and so are how the requirements of
a publisher are read as a number of bytes and how much memory the machine has.
The records are put in the order of a hash map before they are sorted by title;
here that is the order they were found in.
-/

namespace Hearthdeck
namespace Daemon

open Foundation TextPath Frontend Protocol

/-! ## Files -/

/-- What is found under a path, read as JSON. -/
inductive JsonFile
  | missing
  | unreadable (error : String)
  | invalid (error : String)
  | json (value : Json)

/-- `read_json_if_exists`. -/
def readJsonIfExists : JsonFile → Except String (Option Json)
  | .missing => .ok none
  | .unreadable error => .error error
  | .invalid error =>
      .error ("could not parse Heroic configuration data: " ++ error)
  | .json value => .ok (some value)

/-- The value under a path of keys. -/
def Json.at (value : Json) (path : List String) : Option Json :=
  path.foldlM Json.get value

/-- `string_at`. -/
def stringAt (value : Json) (path : List String) : Option String :=
  ((value.at path).bind fun value => value.asStr.map trimmed).filter
    fun value => !value.isEmpty

/-- `string_list_at`. -/
def stringListAt (value : Json) (path : List String) : List String :=
  ((((value.at path).bind Json.asArray).getD []).filterMap
    fun value => value.asStr.map trimmed).filter fun value => !value.isEmpty

/-- `Value::as_object`. -/
def Json.asObject : Json → Option (List (String × Json))
  | .object fields => some fields
  | _ => none

/-! ## Records -/

/-- `PublisherRequirement`. -/
structure PublisherRequirement where
  title : String
  minimum : Option String
  recommended : Option String
  deriving DecidableEq, Repr

/-- `MemoryCompatibility`. -/
structure MemoryCompatibility where
  status : String
  systemMemoryBytes : Nat
  minimumBytes : Option Nat
  recommendedBytes : Option Nat
  deriving DecidableEq, Repr

/-- The metadata of a record. -/
structure HeroicMetadata where
  description : Option String
  developer : Option String
  categories : List String
  store : String
  runner : String
  version : Option String
  platform : Option String
  installSizeBytes : Option Nat
  cloudSaves : Bool
  requirements : List PublisherRequirement
  memoryCompatibility : Option MemoryCompatibility
  provenance : String
  deriving DecidableEq, Repr

/-- How the requirements of a publisher compare with the machine. -/
structure MemoryReading where
  /-- `memory_bytes`. -/
  memoryBytes : String → Option Nat
  /-- `system_memory_bytes`. -/
  systemMemoryBytes : Option Nat

/-- `publisher_requirements`. -/
def publisherRequirements (value : Json) : List PublisherRequirement :=
  (((value.get "reqs").bind Json.asArray).getD []).filterMap
    fun requirement =>
      (stringAt requirement ["title"]).bind fun title =>
        let minimum := stringAt requirement ["minimum"]
        let recommended := stringAt requirement ["recommended"]
        if minimum.isSome || recommended.isSome then
          some
            { title := title, minimum := minimum, recommended := recommended }
        else
          none

/-- A text in lower case, as far as it is ASCII. -/
def asciiLowercase (text : String) : String :=
  .ofList (text.toList.map Char.toLower)

/-- `memory_compatibility`. -/
def memoryCompatibility
    (memory : MemoryReading)
    (requirements : List PublisherRequirement) :
    Option MemoryCompatibility :=
  memory.systemMemoryBytes.bind fun system =>
    (requirements.find? fun requirement =>
      let title := asciiLowercase requirement.title
      contains title "memory" || contains title "ram").bind fun entry =>
        let minimum := entry.minimum.bind memory.memoryBytes
        let recommended := entry.recommended.bind memory.memoryBytes
        let status :=
          match minimum, recommended with
          | none, none => none
          | minimum, recommended =>
              if recommended.any fun bytes => decide (bytes ≤ system) then
                some "recommended"
              else if minimum.any fun bytes => decide (bytes ≤ system) then
                some "minimum"
              else if minimum.isSome then
                some "below_minimum"
              else
                some "below_recommended"
        status.map fun status =>
          { status := status
            systemMemoryBytes := system
            minimumBytes := minimum
            recommendedBytes := recommended }

/-- What a store says of a game. -/
structure HeroicGame where
  title : String
  description : Option String
  developer : Option String
  categories : List String
  artwork : Option String
  version : Option String
  platform : Option String
  installSizeBytes : Option Nat
  cloudSaves : Bool
  requirements : List PublisherRequirement

/-- A store, with the runner of its games. -/
inductive HeroicStore
  | epic
  | gog
  deriving DecidableEq, Repr

namespace HeroicStore

/-- The store in an id. -/
def id : HeroicStore → String
  | .epic => "epic"
  | .gog => "gog"

/-- The runner in a launch id. -/
def runner : HeroicStore → String
  | .epic => "legendary"
  | .gog => "gog"

/-- The store as it is shown. -/
def shown : HeroicStore → String
  | .epic => "Epic Games"
  | .gog => "GOG"

end HeroicStore

/-- `heroic_record`. -/
def heroicRecord
    (memory : MemoryReading)
    (updatedAt : String)
    (store : HeroicStore)
    (applicationId : String)
    (game : HeroicGame) : CatalogRecord HeroicMetadata where
  id := "heroic:" ++ store.id ++ ":" ++ applicationId
  title := game.title
  kind := "game"
  launchId := some (store.runner ++ ":" ++ applicationId)
  icon := game.artwork
  metadata :=
    { description := game.description
      developer := game.developer
      categories := game.categories
      store := store.shown
      runner := store.runner
      version := game.version
      platform := game.platform
      installSizeBytes := game.installSizeBytes
      cloudSaves := game.cloudSaves
      requirements := game.requirements
      memoryCompatibility := memoryCompatibility memory game.requirements
      provenance := "heroic" }
  updatedAt := updatedAt

/-- `valid_application_id`. -/
def validApplicationId (value : String) : Bool :=
  !value.isEmpty && decide (value.utf8ByteSize ≤ 256) &&
    value.toList.all fun character =>
      character.isAlphanum || character == '.' || character == '_' ||
        character == '-'

/-! ## Discovery -/

/-- A loop over items, of which each may give a result, be skipped or end the
loop with an error. -/
def gather
    {Item Result : Type}
    (visit : Item → Except String (Option Result)) :
    List Item → Except String (List Result)
  | [] => .ok []
  | item :: later => do
      let first ← visit item
      let rest ← gather visit later
      pure (first.toList ++ rest)

section Discovery

variable
  (files : String → JsonFile)
  (memory : MemoryReading)
  (updatedAt : String)

/-- `epic_game_info`. -/
def epicGameInfo (path : String) : Except String (List (String × Json)) := do
  let cache ← readJsonIfExists (files path)
  pure ((cache.bind Json.asObject).getD [])

/-- `gog_library`. -/
def gogLibrary (path : String) : Except String (List (String × Json)) := do
  let cache ← readJsonIfExists (files path)
  let games :=
    ((cache.bind fun cache => cache.get "games").bind Json.asArray).getD []
  pure (games.filterMap fun game =>
    (stringAt game ["app_name"]).map fun id => (id, game))

/-- `epic_categories`. -/
def epicCategories (metadata : Json) : List String :=
  let categories :=
    (((metadata.get "categories").bind Json.asArray).getD []).filterMap
      fun category => stringAt category ["path"]
  if categories.isEmpty then ["Game"] else categories

/-- `epic_artwork`. -/
def epicArtwork (metadata : Json) : Option String :=
  ((metadata.get "keyImages").bind Json.asArray).bind fun images =>
    ["DieselGameBoxTall", "OfferImageTall", "DieselGameBox",
      "OfferImageWide"].findSome? fun kind =>
        (images.find? fun image =>
          (image.get "type").bind Json.asStr == some kind).bind fun image =>
            stringAt image ["url"]

/-- An entry is one of downloadable content. -/
def isDlc (install : Json) : Bool :=
  (install.get "is_dlc").bind Json.asBool == some true

/-- The game of an entry of Epic. -/
def epicApplicationId (key : String) (install : Json) : String :=
  (stringAt install ["app_name"]).getD key

/-- What Epic says of a game. -/
def epicGame
    (gameInfo : List (String × Json))
    (applicationId : String)
    (install metadata : Json) : HeroicGame :=
  let catalogMetadata := (metadata.get "metadata").getD metadata
  { title :=
      (((stringAt catalogMetadata ["title"]).or
        (stringAt metadata ["app_title"])).or
          (stringAt install ["title"])).getD applicationId
    description :=
      (stringAt catalogMetadata ["description"]).or
        (stringAt catalogMetadata ["shortDescription"])
    developer := stringAt catalogMetadata ["developer"]
    categories := epicCategories catalogMetadata
    artwork := epicArtwork catalogMetadata
    version := stringAt install ["version"]
    platform := stringAt install ["platform"]
    installSizeBytes := (install.get "install_size").bind Json.asU64
    cloudSaves :=
      ((catalogMetadata.at
        ["customAttributes", "CloudSaveFolder", "value"]).bind
          Json.asStr).isSome
    requirements :=
      ((((catalogMetadata.get "namespace").bind Json.asStr).bind
        fun name => gameInfo.lookup name).map publisherRequirements).getD [] }

/-- The loop body of `discover_epic`. -/
def epicRecord
    (legendary : String)
    (gameInfo : List (String × Json))
    (entry : String × Json) :
    Except String (Option (CatalogRecord HeroicMetadata)) :=
  let applicationId := epicApplicationId entry.1 entry.2
  if isDlc entry.2 || !validApplicationId applicationId then
    .ok none
  else do
    let metadata ← readJsonIfExists
      (files (join (join legendary "metadata") (applicationId ++ ".json")))
    pure (some (heroicRecord memory updatedAt .epic applicationId
      (epicGame gameInfo applicationId entry.2 (metadata.getD .null))))

/-- `discover_epic`. -/
def discoverEpic (directory : String) :
    Except String (List (CatalogRecord HeroicMetadata)) := do
  let legendary := join directory "legendaryConfig/legendary"
  match ← readJsonIfExists (files (join legendary "installed.json")) with
  | none => pure []
  | some installed =>
      match installed.asObject with
      | none => throw "Heroic Epic installed.json must contain an object"
      | some installed =>
          let gameInfo ← epicGameInfo files
            (join directory "store_cache/legendary_gameinfo.json")
          gather (epicRecord files memory updatedAt legendary gameInfo)
            installed

/-- What GOG says of a game. -/
def gogGame
    (cached : Option Json)
    (applicationId : String)
    (install info : Json) : HeroicGame where
  title :=
    ((cached.bind fun game => stringAt game ["title"]).or
      (stringAt info ["name"])).getD applicationId
  description :=
    cached.bind fun game =>
      (stringAt game ["extra", "about", "description"]).or
        (stringAt game ["extra", "about", "shortDescription"])
  developer := cached.bind fun game => stringAt game ["developer"]
  categories :=
    ((cached.map fun game => stringListAt game ["extra", "genres"]).filter
      fun categories => !categories.isEmpty).getD ["Game"]
  artwork :=
    cached.bind fun game =>
      ((stringAt game ["art_square"]).or (stringAt game ["art_cover"])).or
        (stringAt game ["art_icon"])
  version := stringAt install ["version"]
  platform := stringAt install ["platform"]
  installSizeBytes := (install.get "install_size").bind Json.asU64
  cloudSaves :=
    ((cached.bind fun game => game.get "cloud_save_enabled").bind
      Json.asBool).getD false
  requirements := []

/-- What the game itself says. -/
def gogInfo (install : Json) (applicationId : String) :
    Except String (Option Json) :=
  match stringAt install ["install_path"] with
  | none => .ok none
  | some path =>
      readJsonIfExists
        (files (join path ("goggame-" ++ applicationId ++ ".info")))

/-- The loop body of `discover_gog`. -/
def gogRecord
    (library : List (String × Json))
    (install : Json) :
    Except String (Option (CatalogRecord HeroicMetadata)) :=
  if isDlc install then
    .ok none
  else
    match stringAt install ["appName"] with
    | none => .ok none
    | some applicationId =>
        if !validApplicationId applicationId then
          .ok none
        else do
          let info ← gogInfo files install applicationId
          pure (some (heroicRecord memory updatedAt .gog applicationId
            (gogGame (library.reverse.lookup applicationId) applicationId
              install (info.getD .null))))

/-- `discover_gog`. -/
def discoverGog (directory : String) :
    Except String (List (CatalogRecord HeroicMetadata)) := do
  match ← readJsonIfExists
      (files (join directory "gog_store/installed.json")) with
  | none => pure []
  | some installed =>
      match (installed.get "installed").bind Json.asArray with
      | none =>
          throw "Heroic GOG installed.json must contain an installed array"
      | some installed =>
          let library ← gogLibrary files
            (join directory "store_cache/gog_library.json")
          gather (gogRecord files memory updatedAt library) installed

/-- `discover_directory`. -/
def discoverDirectory (directory : String) :
    Except String (List (CatalogRecord HeroicMetadata)) := do
  let epic ← discoverEpic files memory updatedAt directory
  let gog ← discoverGog files memory updatedAt directory
  pure (epic ++ gog)

/-- `records.entry(…).or_insert(…)`. -/
def orInsert
    (records : List (CatalogRecord HeroicMetadata))
    (record : CatalogRecord HeroicMetadata) :
    List (CatalogRecord HeroicMetadata) :=
  if records.any fun other => other.id == record.id then records
  else records ++ [record]

/-- The loop of `HeroicInstalledProvider::discover` over the directories. -/
def discoverAll :
    List String → List (CatalogRecord HeroicMetadata) →
      Except String (List (CatalogRecord HeroicMetadata))
  | [], records => .ok records
  | directory :: later, records => do
      let found ← discoverDirectory files memory updatedAt directory
      discoverAll later (found.foldl orInsert records)

/-- `HeroicInstalledProvider::discover`. -/
def discover (directories : List String) :
    Except String (List (CatalogRecord HeroicMetadata)) := do
  let records ← discoverAll files memory updatedAt directories []
  pure (sortByKey CatalogRecord.title records)

end Discovery

end Daemon
end Hearthdeck
