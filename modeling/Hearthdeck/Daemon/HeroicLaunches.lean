import Hearthdeck.Bridge.LaunchTargets
import Hearthdeck.Bridge.Sessions
import Hearthdeck.Daemon.HeroicLibrary

/-!
# Installed games can be launched

The games that are published are those that Heroic has installed, less the
downloadable content, each once.  The launch id of a record is read back into
the runner and the name that the game was found under, the bridge lets the
name pass, and the address it hands to Heroic is read as no other game.
-/

namespace Hearthdeck
namespace Daemon

open Foundation TextPath Frontend Protocol
open Bridge (bind_eq_ok)

/-! ## Launches -/

/-- `sources::STREMIO`. -/
def stremioSourceId : String := "stremio"

/-- `sources::STREMIO_ARRIVALS`. -/
def stremioArrivalsSourceId : String := "stremio-arrivals"

/-- `sources::DESKTOP_APPS`. -/
def desktopAppsSourceId : String := "desktop-apps"

/-- `LaunchPlan`. -/
structure LaunchPlan where
  request : BridgeRequest
  activity : ActivityEntry
  deriving DecidableEq, Repr

/-- `heroic_launch_target`. -/
def heroicLaunchTarget (launchId : String) : Option (HeroicRunner × String) :=
  match splitOnce ':' launchId.toList with
  | none => none
  | some (runner, applicationId) =>
      if applicationId.isEmpty then
        none
      else if runner = "legendary".toList then
        some (.legendary, .ofList applicationId)
      else if runner = "gog".toList then
        some (.gog, .ofList applicationId)
      else
        none

/-- `stremio_title_target`. -/
def stremioTitleTarget (discovery : Json) :
    Option (String × StremioMediaType) :=
  ((((discovery.get "video_id").bind Json.asStr).map trimmed).filter
    fun videoId => !videoId.isEmpty).map fun videoId =>
      (videoId,
        if (discovery.get "type").bind Json.asStr = some "series" then .series
        else .movie)

/-- What is launched for an item. -/
def catalogRequest
    (item : CatalogItem)
    (discovery : Json)
    (sessionId : String)
    (inputProfile : InputProfile)
    (launchId : String) : Option BridgeRequest :=
  let stremioTitle :=
    if item.sourceId = stremioSourceId ∨
        item.sourceId = stremioArrivalsSourceId then
      stremioTitleTarget discovery
    else
      none
  if item.sourceId = heroicSource then
    (heroicLaunchTarget launchId).map fun target =>
      .launchHeroicGame target.1 target.2 sessionId inputProfile
  else
    match stremioTitle with
    | some (videoId, mediaType) =>
        some (.launchStremioTitle launchId videoId mediaType sessionId
          inputProfile)
    | none =>
        some (.launchApplication desktopAppsSourceId launchId sessionId
          inputProfile)

/-- `catalog_activity_entry`, with the metadata as text. -/
def catalogActivityEntry
    (item : CatalogItem)
    (metadata : String) : ActivityEntry where
  id := "hearthdeck:" ++ item.id
  title := item.title
  icon := item.icon
  categories := item.metadata.categories
  kind := some item.kind
  source := item.sourceId
  metadata := metadata

/-- `launch::catalog`, with what was discovered and the metadata as text. -/
def catalogPlan
    (item : CatalogItem)
    (discovery : Json)
    (metadata sessionId : String)
    (inputProfile : InputProfile) : Option LaunchPlan :=
  item.launchId.bind fun launchId =>
    (catalogRequest item discovery sessionId inputProfile launchId).map
      fun request =>
        { request := request
          activity := catalogActivityEntry item metadata }

/-- The address `launch_heroic_game` hands to Heroic. -/
def heroicUri (runner : HeroicRunner) (applicationId : String) : String :=
  let runner :=
    match runner with
    | .legendary => "legendary"
    | .gog => "gog"
  "heroic://launch?appName=" ++ applicationId ++ "&runner=" ++ runner ++
    "&gui=false"

/-- The parameters of an address, as they are written. -/
def parametersOf (uri : List Char) : List (List Char × List Char) :=
  match splitOnce '?' uri with
  | none => []
  | some (_, query) => (pieces '&' query).filterMap (splitOnce '=')

/-! ## What is installed -/

/-- A game that Heroic has installed from a store. -/
inductive Installed
    (files : String → JsonFile)
    (directory : String) : HeroicStore → String → Prop
  | epic {fields : List (String × Json)} {key : String} {install : Json} :
      files (join (join directory "legendaryConfig/legendary")
        "installed.json") = .json (.object fields) →
      (key, install) ∈ fields →
      isDlc install = false →
      validApplicationId (epicApplicationId key install) = true →
      Installed files directory .epic (epicApplicationId key install)
  | gog {listed : Json} {games : List Json} {install : Json}
      {applicationId : String} :
      files (join directory "gog_store/installed.json") = .json listed →
      (listed.get "installed").bind Json.asArray = some games →
      install ∈ games →
      isDlc install = false →
      stringAt install ["appName"] = some applicationId →
      validApplicationId applicationId = true →
      Installed files directory .gog applicationId

theorem Installed.valid
    {files : String → JsonFile}
    {directory : String}
    {store : HeroicStore}
    {applicationId : String}
    (installed : Installed files directory store applicationId) :
    validApplicationId applicationId = true := by
  cases installed with
  | epic _ _ _ valid => exact valid
  | gog _ _ _ _ _ valid => exact valid

/-! ## What is published -/

/-- What was gathered is what the visits gave. -/
theorem mem_gather
    {Item Result : Type}
    {visit : Item → Except String (Option Result)}
    {items : List Item}
    {results : List Result}
    (ran : gather visit items = .ok results) :
    (∀ item ∈ items, ∃ given, visit item = .ok given) ∧
      ∀ result, result ∈ results ↔
        ∃ item ∈ items, visit item = .ok (some result) := by
  induction items generalizing results with
  | nil =>
      cases ran
      exact ⟨List.forall_mem_nil _, fun result => by simp⟩
  | cons item later inductionHypothesis =>
      obtain ⟨first, visited, ran⟩ := bind_eq_ok ran
      obtain ⟨rest, gathered, ran⟩ := bind_eq_ok ran
      cases ran
      obtain ⟨total, among⟩ := inductionHypothesis gathered
      refine ⟨List.forall_mem_cons.mpr ⟨⟨first, visited⟩, total⟩,
        fun result => ?_⟩
      rw [List.mem_append, Option.mem_toList, among]
      simp only [List.mem_cons, exists_eq_or_imp, visited, Except.ok.injEq]

/-- The id of a game. -/
def heroicId (store : HeroicStore) (applicationId : String) : String :=
  "heroic:" ++ store.id ++ ":" ++ applicationId

section Discovery

variable
  {files : String → JsonFile}
  {memory : MemoryReading}
  {updatedAt : String}

/-- The records of a store, for the games installed in a directory. -/
structure Publishes
    (files : String → JsonFile)
    (memory : MemoryReading)
    (updatedAt directory : String)
    (store : HeroicStore)
    (records : List (CatalogRecord HeroicMetadata)) : Prop where
  sound : ∀ record ∈ records, ∃ applicationId game,
    Installed files directory store applicationId ∧
      record = heroicRecord memory updatedAt store applicationId game
  complete : ∀ applicationId,
    Installed files directory store applicationId →
      ∃ game, heroicRecord memory updatedAt store applicationId game ∈ records

theorem readJsonIfExists_eq_none
    {file : JsonFile}
    (ran : readJsonIfExists file = .ok none) :
    file = .missing := by
  cases file with
  | missing => rfl
  | unreadable error => cases ran
  | invalid error => cases ran
  | json value => cases ran

theorem readJsonIfExists_eq_some
    {file : JsonFile}
    {value : Json}
    (ran : readJsonIfExists file = .ok (some value)) :
    file = .json value := by
  cases file with
  | missing => cases ran
  | unreadable error => cases ran
  | invalid error => cases ran
  | json other =>
      cases ran
      rfl

/-- What the loop body of `discover_epic` does with an entry. -/
theorem epicRecord_eq_ok
    {legendary : String}
    {gameInfo : List (String × Json)}
    {entry : String × Json}
    {given : Option (CatalogRecord HeroicMetadata)}
    (ran : epicRecord files memory updatedAt legendary gameInfo entry =
      .ok given) :
    (isDlc entry.2 = false ∧
        validApplicationId (epicApplicationId entry.1 entry.2) = true) ∧
      (∃ game, given = some (heroicRecord memory updatedAt .epic
        (epicApplicationId entry.1 entry.2) game)) ∨
    ¬ (isDlc entry.2 = false ∧
        validApplicationId (epicApplicationId entry.1 entry.2) = true) ∧
      given = none := by
  unfold epicRecord at ran
  dsimp only at ran
  split at ran
  case isTrue skipped =>
    cases ran
    refine Or.inr ⟨?_, rfl⟩
    rintro ⟨game, valid⟩
    simp [game, valid] at skipped
  case isFalse kept =>
    obtain ⟨metadata, _, ran⟩ := bind_eq_ok ran
    cases ran
    refine Or.inl ⟨?_, _, rfl⟩
    simpa using kept

theorem publishes_discoverEpic
    {directory : String}
    {records : List (CatalogRecord HeroicMetadata)}
    (ran : discoverEpic files memory updatedAt directory = .ok records) :
    Publishes files memory updatedAt directory .epic records := by
  obtain ⟨found, read, ran⟩ := bind_eq_ok ran
  cases found with
  | none =>
      cases ran
      refine ⟨List.forall_mem_nil _, fun applicationId installed => ?_⟩
      cases installed with
      | epic file _ _ _ =>
          rw [readJsonIfExists_eq_none read] at file
          cases file
  | some installed =>
      have file := readJsonIfExists_eq_some read
      dsimp only at ran
      split at ran
      case h_1 other => cases ran
      case h_2 fields isObject =>
        obtain ⟨gameInfo, _, ran⟩ := bind_eq_ok ran
        obtain ⟨total, among⟩ := mem_gather ran
        have object : installed = .object fields := by
          cases installed
          all_goals cases isObject
          rfl
        subst object
        constructor
        · intro record member
          obtain ⟨entry, listed, visited⟩ := (among record).mp member
          obtain ⟨⟨game, valid⟩, _, same⟩ | ⟨_, none⟩ :=
            epicRecord_eq_ok visited
          · cases same
            exact ⟨_, _, .epic file listed game valid, rfl⟩
          · cases none
        · intro applicationId present
          cases present with
          | epic otherFile listed game valid =>
              rw [file] at otherFile
              cases otherFile
              obtain ⟨given, visited⟩ := total _ listed
              obtain ⟨_, details, same⟩ | ⟨skipped, _⟩ :=
                epicRecord_eq_ok visited
              · subst same
                exact ⟨details, (among _).mpr ⟨_, listed, visited⟩⟩
              · exact absurd ⟨game, valid⟩ skipped

/-- An entry of GOG is one of a game. -/
structure IsGogGame (install : Json) (applicationId : String) : Prop where
  game : isDlc install = false
  named : stringAt install ["appName"] = some applicationId
  valid : validApplicationId applicationId = true

/-- What the loop body of `discover_gog` does with an entry. -/
theorem gogRecord_eq_ok
    {library : List (String × Json)}
    {install : Json}
    {given : Option (CatalogRecord HeroicMetadata)}
    (ran : gogRecord files memory updatedAt library install = .ok given) :
    (∃ applicationId, IsGogGame install applicationId ∧
      ∃ game, given = some
        (heroicRecord memory updatedAt .gog applicationId game)) ∨
    (∀ applicationId, ¬ IsGogGame install applicationId) ∧
      given = none := by
  unfold gogRecord at ran
  split at ran
  case isTrue dlc =>
    cases ran
    refine Or.inr ⟨fun applicationId isGame => ?_, rfl⟩
    rw [isGame.game] at dlc
    cases dlc
  case isFalse game =>
    split at ran
    case h_1 unnamed =>
      cases ran
      refine Or.inr ⟨fun applicationId isGame => ?_, rfl⟩
      rw [isGame.named] at unnamed
      cases unnamed
    case h_2 applicationId named =>
      split at ran
      case isTrue odd =>
        cases ran
        refine Or.inr ⟨fun other isGame => ?_, rfl⟩
        obtain rfl := Option.some.inj (named.symm.trans isGame.named)
        rw [isGame.valid] at odd
        cases odd
      case isFalse valid =>
        obtain ⟨info, _, ran⟩ := bind_eq_ok ran
        cases ran
        exact Or.inl ⟨applicationId,
          ⟨by simpa using game, named, by simpa using valid⟩, _, rfl⟩

theorem publishes_discoverGog
    {directory : String}
    {records : List (CatalogRecord HeroicMetadata)}
    (ran : discoverGog files memory updatedAt directory = .ok records) :
    Publishes files memory updatedAt directory .gog records := by
  obtain ⟨found, read, ran⟩ := bind_eq_ok ran
  cases found with
  | none =>
      cases ran
      refine ⟨List.forall_mem_nil _, fun applicationId installed => ?_⟩
      cases installed with
      | gog file _ _ _ _ _ =>
          rw [readJsonIfExists_eq_none read] at file
          cases file
  | some listed =>
      have file := readJsonIfExists_eq_some read
      dsimp only at ran
      split at ran
      case h_1 other => cases ran
      case h_2 games isArray =>
        obtain ⟨library, _, ran⟩ := bind_eq_ok ran
        obtain ⟨total, among⟩ := mem_gather ran
        constructor
        · intro record member
          obtain ⟨install, inside, visited⟩ := (among record).mp member
          obtain ⟨applicationId, isGame, details, same⟩ | ⟨_, none⟩ :=
            gogRecord_eq_ok visited
          · cases same
            exact ⟨_, _, .gog file isArray inside isGame.game isGame.named
              isGame.valid, rfl⟩
          · cases none
        · intro applicationId present
          cases present with
          | gog otherFile otherArray inside game named valid =>
              rw [file] at otherFile
              cases otherFile
              rw [isArray] at otherArray
              cases otherArray
              obtain ⟨given, visited⟩ := total _ inside
              obtain ⟨other, isGame, details, same⟩ | ⟨never, _⟩ :=
                gogRecord_eq_ok visited
              · obtain rfl := Option.some.inj (named.symm.trans isGame.named)
                subst same
                exact ⟨details, (among _).mpr ⟨_, inside, visited⟩⟩
              · exact absurd ⟨game, named, valid⟩ (never applicationId)

/-! ## Records of all directories -/

/-- The records are those of games installed in some directories. -/
structure PublishesAll
    (files : String → JsonFile)
    (memory : MemoryReading)
    (updatedAt : String)
    (directories : List String)
    (records : List (CatalogRecord HeroicMetadata)) : Prop where
  sound : ∀ record ∈ records, ∃ directory ∈ directories,
    ∃ store applicationId game,
      Installed files directory store applicationId ∧
        record = heroicRecord memory updatedAt store applicationId game
  complete : ∀ directory ∈ directories, ∀ store applicationId,
    Installed files directory store applicationId →
      heroicId store applicationId ∈ records.map CatalogRecord.id
  once : (records.map CatalogRecord.id).Nodup

theorem publishesAll_nil :
    PublishesAll files memory updatedAt [] [] where
  sound := List.forall_mem_nil _
  complete := List.forall_mem_nil _
  once := List.nodup_nil

/-- What the map has after one more record. -/
structure Inserted
    (records added result : List (CatalogRecord HeroicMetadata)) :
    Prop where
  source : ∀ record ∈ result, record ∈ records ∨ record ∈ added
  ids : ∀ id, id ∈ result.map CatalogRecord.id ↔
    id ∈ records.map CatalogRecord.id ∨ id ∈ added.map CatalogRecord.id
  once : (records.map CatalogRecord.id).Nodup →
    (result.map CatalogRecord.id).Nodup

theorem inserted_orInsert
    (records : List (CatalogRecord HeroicMetadata))
    (record : CatalogRecord HeroicMetadata) :
    Inserted records [record] (orInsert records record) := by
  unfold orInsert
  split
  case isTrue present =>
    obtain ⟨other, member, same⟩ := List.any_eq_true.mp present
    refine ⟨fun _ => Or.inl, fun id => ⟨Or.inl, ?_⟩, id⟩
    rintro (earlier | last)
    · exact earlier
    · rw [List.map_singleton, List.mem_singleton] at last
      rw [last, ← eq_of_beq same]
      exact List.mem_map_of_mem member
  case isFalse absent =>
    refine ⟨fun _ => List.mem_append.mp, fun id => ?_, fun once => ?_⟩
    · rw [List.map_append, List.mem_append]
    · rw [List.map_append, List.nodup_append]
      refine ⟨once, List.nodup_singleton _, ?_⟩
      intro id earlier other last same
      rw [List.map_singleton, List.mem_singleton] at last
      obtain ⟨present, member, named⟩ := List.mem_map.mp earlier
      refine absent (List.any_eq_true.mpr ⟨present, member, ?_⟩)
      rw [beq_iff_eq, named, same, last]

/-- What the map has after the records of a directory. -/
theorem inserted_foldl
    (found records : List (CatalogRecord HeroicMetadata)) :
    Inserted records found (found.foldl orInsert records) := by
  induction found generalizing records with
  | nil =>
      exact ⟨fun _ => Or.inl, fun id => by simp, id⟩
  | cons record later inductionHypothesis =>
      have first := inserted_orInsert records record
      have rest := inductionHypothesis (orInsert records record)
      refine ⟨fun other member => ?_, fun id => ?_,
        fun once => rest.once (first.once once)⟩
      · rcases rest.source other member with early | late
        · rcases first.source other early with earlier | now
          · exact Or.inl earlier
          · obtain rfl := List.mem_singleton.mp now
            exact Or.inr List.mem_cons_self
        · exact Or.inr (List.mem_cons_of_mem _ late)
      · rw [List.foldl_cons, rest.ids, first.ids]
        simp only [List.map_cons, List.map_nil, List.mem_cons,
          List.not_mem_nil, or_false, or_assoc]

/-- The records of one directory. -/
theorem publishes_discoverDirectory
    {directory : String}
    {found : List (CatalogRecord HeroicMetadata)}
    (ran : discoverDirectory files memory updatedAt directory = .ok found) :
    (∀ record ∈ found, ∃ store applicationId game,
      Installed files directory store applicationId ∧
        record = heroicRecord memory updatedAt store applicationId game) ∧
    ∀ store applicationId, Installed files directory store applicationId →
      heroicId store applicationId ∈ found.map CatalogRecord.id := by
  obtain ⟨epic, discovered, ran⟩ := bind_eq_ok ran
  obtain ⟨gog, discoveredToo, ran⟩ := bind_eq_ok ran
  cases ran
  have fromEpic := publishes_discoverEpic discovered
  have fromGog := publishes_discoverGog discoveredToo
  constructor
  · intro record member
    rcases List.mem_append.mp member with inEpic | inGog
    · exact ⟨.epic, fromEpic.sound record inEpic⟩
    · exact ⟨.gog, fromGog.sound record inGog⟩
  · intro store applicationId installed
    rw [List.map_append, List.mem_append]
    cases store with
    | epic =>
        obtain ⟨game, member⟩ := fromEpic.complete applicationId installed
        exact Or.inl (List.mem_map_of_mem (f := CatalogRecord.id) member)
    | gog =>
        obtain ⟨game, member⟩ := fromGog.complete applicationId installed
        exact Or.inr (List.mem_map_of_mem (f := CatalogRecord.id) member)

/-- One more directory is read. -/
theorem PublishesAll.concat
    {done : List String}
    {records : List (CatalogRecord HeroicMetadata)}
    (publishes : PublishesAll files memory updatedAt done records)
    {directory : String}
    {found : List (CatalogRecord HeroicMetadata)}
    (ran : discoverDirectory files memory updatedAt directory = .ok found) :
    PublishesAll files memory updatedAt (done ++ [directory])
      (found.foldl orInsert records) := by
  obtain ⟨sound, complete⟩ := publishes_discoverDirectory ran
  have inserted := inserted_foldl found records
  refine ⟨fun record member => ?_, fun other among => ?_,
    inserted.once publishes.once⟩
  · rcases inserted.source record member with early | late
    · obtain ⟨other, among, details⟩ := publishes.sound record early
      exact ⟨other, List.mem_append_left _ among, details⟩
    · exact ⟨directory, List.mem_append_right _ List.mem_cons_self,
        sound record late⟩
  · intro store applicationId installed
    rw [inserted.ids]
    rcases List.mem_append.mp among with early | last
    · exact Or.inl (publishes.complete other early store applicationId
        installed)
    · obtain rfl := List.mem_singleton.mp last
      exact Or.inr (complete store applicationId installed)

theorem publishesAll_discoverAll
    {directories done : List String}
    {records result : List (CatalogRecord HeroicMetadata)}
    (publishes : PublishesAll files memory updatedAt done records)
    (ran : discoverAll files memory updatedAt directories records =
      .ok result) :
    PublishesAll files memory updatedAt (done ++ directories) result := by
  induction directories generalizing done records with
  | nil =>
      cases ran
      rw [List.append_nil]
      exact publishes
  | cons directory later inductionHypothesis =>
      obtain ⟨found, discovered, ran⟩ := bind_eq_ok ran
      have next := inductionHypothesis (publishes.concat discovered) ran
      rw [List.append_assoc] at next
      exact next

theorem publishesAll_discover
    {directories : List String}
    {records : List (CatalogRecord HeroicMetadata)}
    (ran : discover files memory updatedAt directories = .ok records) :
    PublishesAll files memory updatedAt directories records := by
  obtain ⟨found, discovered, ran⟩ := bind_eq_ok ran
  cases ran
  have all := publishesAll_discoverAll publishesAll_nil discovered
  rw [List.nil_append] at all
  have perm := perm_sortByKey CatalogRecord.title found
  refine ⟨fun record member => all.sound record (perm.mem_iff.mp member),
    fun directory among store applicationId installed => ?_,
    (perm.map CatalogRecord.id).nodup_iff.mpr all.once⟩
  exact (perm.map CatalogRecord.id).mem_iff.mpr
    (all.complete directory among store applicationId installed)

end Discovery

/-! ## What is launched -/

/-- The runner of a store, as the bridge names it. -/
def HeroicStore.heroicRunner : HeroicStore → HeroicRunner
  | .epic => .legendary
  | .gog => .gog

theorem heroicId_injective
    {store other : HeroicStore}
    {applicationId otherId : String}
    (same : heroicId store applicationId = heroicId other otherId) :
    store = other ∧ applicationId = otherId := by
  have characters := congrArg String.toList same
  unfold heroicId at characters
  simp only [String.toList_append] at characters
  cases store with
  | epic =>
      cases other with
      | epic =>
          exact ⟨rfl, String.toList_injective
            (List.append_cancel_left characters)⟩
      | gog => simp [HeroicStore.id] at characters
  | gog =>
      cases other with
      | epic => simp [HeroicStore.id] at characters
      | gog =>
          exact ⟨rfl, String.toList_injective
            (List.append_cancel_left characters)⟩

/-- A separator is in no name of a game. -/
theorem notMem_of_validApplicationId
    {applicationId : String}
    (valid : validApplicationId applicationId = true)
    {separator : Char}
    (odd : (separator.isAlphanum || separator == '.' || separator == '_' ||
      separator == '-') = false) :
    separator ∉ applicationId.toList := by
  unfold validApplicationId at valid
  rw [Bool.and_eq_true, List.all_eq_true] at valid
  intro member
  rw [valid.2 separator member] at odd
  cases odd

/-- The launch id of a game is read back. -/
theorem heroicLaunchTarget_append
    (store : HeroicStore)
    {applicationId : String}
    (valid : validApplicationId applicationId = true) :
    heroicLaunchTarget (store.runner ++ ":" ++ applicationId) =
      some (store.heroicRunner, applicationId) := by
  have solid : applicationId.toList ≠ [] := by
    intro empty
    rw [String.toList_eq_nil_iff.mp empty] at valid
    exact absurd valid (by decide)
  have split : splitOnce ':' (store.runner ++ ":" ++ applicationId).toList =
      some (store.runner.toList, applicationId.toList) := by
    rw [String.toList_append, String.toList_append, List.append_assoc]
    refine splitOnce_append ?_ _
    cases store with
    | epic => decide
    | gog => decide
  unfold heroicLaunchTarget
  rw [split]
  dsimp only
  rw [if_neg (by simpa using solid), String.ofList_toList]
  cases store with
  | epic => rfl
  | gog => rfl

/-- The address of a game names this game and its runner, and asks for no
window. -/
theorem parametersOf_heroicUri
    (store : HeroicStore)
    {applicationId : String}
    (valid : validApplicationId applicationId = true) :
    parametersOf (heroicUri store.heroicRunner applicationId).toList =
      [("appName".toList, applicationId.toList),
        ("runner".toList, store.runner.toList),
        ("gui".toList, "false".toList)] := by
  have shape : (heroicUri store.heroicRunner applicationId).toList =
      "heroic://launch".toList ++ '?' ::
        (("appName".toList ++ '=' :: applicationId.toList) ++ '&' ::
          (("runner".toList ++ '=' :: store.runner.toList) ++ '&' ::
            ("gui".toList ++ '=' :: "false".toList))) := by
    have address : heroicUri store.heroicRunner applicationId =
        "heroic://launch?appName=" ++ applicationId ++ "&runner=" ++
          store.runner ++ "&gui=false" := by
      cases store with
      | epic => rfl
      | gog => rfl
    have first : "heroic://launch?appName=".toList =
        "heroic://launch".toList ++ '?' :: ("appName".toList ++ ['=']) := by
      decide
    have second : "&runner=".toList = '&' :: ("runner".toList ++ ['=']) := by
      decide
    have third : "&gui=false".toList =
        '&' :: ("gui".toList ++ '=' :: "false".toList) := by
      decide
    rw [address]
    simp only [String.toList_append, first, second, third, List.append_assoc,
      List.cons_append, List.nil_append]
  have noSeparator : '&' ∉ "appName".toList ++ '=' :: applicationId.toList := by
    have inId : '&' ∉ applicationId.toList :=
      notMem_of_validApplicationId valid (by decide)
    simp [inId]
  have noSeparatorToo :
      '&' ∉ "runner".toList ++ '=' :: store.runner.toList := by
    cases store with
    | epic => decide
    | gog => decide
  unfold parametersOf
  rw [shape, splitOnce_append (by decide)]
  dsimp only
  rw [pieces_cons noSeparator, pieces_cons noSeparatorToo,
    pieces_of_notMem (by decide), List.filterMap_cons,
    splitOnce_append (by decide), List.filterMap_cons,
    splitOnce_append (by decide), List.filterMap_cons,
    splitOnce_append (by decide)]
  rfl

section Plans

variable
  (read : String → Option Json)
  (language : Language)
  (joined : Joined)
  [ToString HeroicMetadata]
  (memory : MemoryReading)
  (updatedAt : String)

/-- The plan for a published game. -/
theorem catalogPlan_heroicRecord
    (store : HeroicStore)
    {applicationId : String}
    (valid : validApplicationId applicationId = true)
    (game : HeroicGame)
    (discovery : Json)
    (metadata sessionId : String)
    (inputProfile : InputProfile) :
    let record := heroicRecord memory updatedAt store applicationId game
    let item := catalogItemFromRow read language joined record.id
      (Catalog.row heroicSource record)
    item.kind = gameKind ∧
      catalogPlan item discovery metadata sessionId inputProfile =
        some
          { request :=
              .launchHeroicGame store.heroicRunner applicationId sessionId
                inputProfile
            activity := catalogActivityEntry item metadata } := by
  intro record item
  have served : servedKind heroicSource "game" = gameKind := by decide
  have kind : item.kind = gameKind := by
    unfold item catalogItemFromRow
    dsimp only
    exact served
  refine ⟨kind, ?_⟩
  have launchId : item.launchId =
      some (store.runner ++ ":" ++ applicationId) := rfl
  have source : item.sourceId = heroicSource := rfl
  unfold catalogPlan catalogRequest
  rw [launchId, Option.bind_some, source]
  dsimp only
  rw [if_pos rfl, heroicLaunchTarget_append store valid]
  rfl

end Plans

/-- What Heroic has installed, less the downloadable content and what has an
odd name, is published, each game once, and nothing else.  A launch of a
published game asks the bridge for this very game with the runner of its
store, records it as the play of a game, and is not refused for its name; and
the address that Heroic gets has no parameters but its own. -/
theorem installed_games_launch
    [ToString HeroicMetadata]
    {files : String → JsonFile}
    {memory : MemoryReading}
    {updatedAt : String}
    {directories : List String}
    {records : List (CatalogRecord HeroicMetadata)}
    (ran : discover files memory updatedAt directories = .ok records) :
    (records.map CatalogRecord.id).Nodup ∧
    (∀ store applicationId,
      heroicId store applicationId ∈ records.map CatalogRecord.id ↔
        ∃ directory ∈ directories,
          Installed files directory store applicationId) ∧
    ∀ record ∈ records, ∃ store applicationId,
      record.id = heroicId store applicationId ∧
      Bridge.validHeroicApplicationId applicationId = true ∧
      parametersOf (heroicUri store.heroicRunner applicationId).toList =
        [("appName".toList, applicationId.toList),
          ("runner".toList, store.runner.toList),
          ("gui".toList, "false".toList)] ∧
      ∀ read language joined discovery metadata sessionId inputProfile,
        let item := catalogItemFromRow read language joined record.id
          (Catalog.row heroicSource record)
        item.kind = gameKind ∧
          catalogPlan item discovery metadata sessionId inputProfile =
            some
              { request :=
                  .launchHeroicGame store.heroicRunner applicationId
                    sessionId inputProfile
                activity := catalogActivityEntry item metadata } := by
  have all := publishesAll_discover ran
  refine ⟨all.once, fun store applicationId => ⟨fun present => ?_, ?_⟩, ?_⟩
  · obtain ⟨record, member, named⟩ := List.mem_map.mp present
    obtain ⟨directory, among, other, otherId, game, installed, rfl⟩ :=
      all.sound record member
    obtain ⟨rfl, rfl⟩ := heroicId_injective named
    exact ⟨directory, among, installed⟩
  · rintro ⟨directory, among, installed⟩
    exact all.complete directory among store applicationId installed
  · intro record member
    obtain ⟨directory, among, store, applicationId, game, installed, rfl⟩ :=
      all.sound record member
    have valid := installed.valid
    exact ⟨store, applicationId, rfl, valid,
      parametersOf_heroicUri store valid,
      fun read language joined discovery metadata sessionId inputProfile =>
        catalogPlan_heroicRecord read language joined memory updatedAt store
          valid game discovery metadata sessionId inputProfile⟩

/-- A directory in which Heroic has one game of Epic installed. -/
def oneGameFiles (path : String) : JsonFile :=
  if path = "/heroic/legendaryConfig/legendary/installed.json" then
    .json (.object [("Fortnite", .object [])])
  else
    .missing

theorem installed_games_launch_fortnite :
    ∃ records,
      discover oneGameFiles ⟨fun _ => none, none⟩ "now" ["/heroic"] =
        .ok records ∧
      ∀ store applicationId,
        heroicId store applicationId ∈ records.map CatalogRecord.id ↔
          ∃ directory ∈ ["/heroic"],
            Installed oneGameFiles directory store applicationId := by
  have ran : discover oneGameFiles ⟨fun _ => none, none⟩ "now" ["/heroic"] =
      .ok [heroicRecord ⟨fun _ => none, none⟩ "now" .epic "Fortnite"
        (epicGame [] "Fortnite" (.object []) .null)] := by
    rfl
  have launches := @installed_games_launch ⟨fun _ => ""⟩ _ _ _ _ _ ran
  exact ⟨_, ran, launches.2.1⟩

end Daemon
end Hearthdeck
