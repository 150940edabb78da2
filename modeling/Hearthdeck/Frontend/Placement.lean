import Hearthdeck.Daemon.Serving
import Hearthdeck.Frontend.App

/-!
# Where the library shows an item

The shell reads the items the daemon serves, keeps the ones that belong in the
library, lays the user's forms over them and derives its tabs from them.  The
grid of a section and a tab draws what this leaves, except in the section of
the consoles, which draws the records of RomM.
-/

namespace Hearthdeck
namespace Frontend

open Daemon (CatalogItem Json Joined LibraryItems catalogItemFromRow)

/-! ## Icons -/

/-- `IconReference`: what an icon of a record names. -/
inductive IconReference
  | remote (url : String)
  | rommAsset (path : String)
  | file (path : String)
  | name (name : String)
  deriving DecidableEq, Repr

/-- `icon_cache::classify`. -/
def classifyIcon (reference : String) : Option IconReference :=
  let reference := trimmed reference
  if reference.isEmpty then
    none
  else if (stripped "http://" reference).isSome ||
      (stripped "https://" reference).isSome then
    some (.remote reference)
  else
    match stripped "file://" reference with
    | some path => some (.file path)
    | none =>
        if (stripped "/assets/" reference).isSome then
          some (.rommAsset reference)
        else if (stripped "/" reference).isSome then
          some (.file reference)
        else
          some (.name reference)

/-- `library_icon`. -/
def libraryIcon (icon : Option String) (fallback : String) : IconSource :=
  match icon.bind classifyIcon with
  | some (.file path) => .path path
  | some (.name name) => .name name
  | _ => .name fallback

/-! ## Records -/

/-- `CATALOG_ENTRY_PREFIX`. -/
def catalogEntryHead : String := "hearthdeck:"

/-- The categories of an item, with its kind among them. -/
def kindCategories (item : CatalogItem) : List String :=
  (item.metadata.categories.filter fun category =>
    !eqIgnoreAsciiCase category "game") ++
    if eqIgnoreAsciiCase item.kind "game" then ["Game"] else []

/-- The categories of an item, with its store unless it is a game. -/
def entryCategories (item : CatalogItem) (isGame : Bool) : List String :=
  match item.metadata.store with
  | none => kindCategories item
  | some store =>
      let categories := kindCategories item
      let stored :=
        if categories.any fun category => eqIgnoreAsciiCase category store then
          categories
        else
          categories ++ [store]
      if isGame then
        stored.filter fun category => !eqIgnoreAsciiCase category store
      else
        stored

/-- `catalog_item_to_library_item`. -/
def catalogItemToLibraryItem (item : CatalogItem) : LibraryItem :=
  let isGame := item.classification.inSection ≠ .applications
  { LibraryItem.default with
    id := catalogEntryHead ++ item.id
    name := item.title
    exec := item.launchId
    icon := libraryIcon item.icon
      (if isGame then "applications-games" else "application-x-executable")
    categories := entryCategories item isGame
    inSection := item.classification.inSection
    formFactor := item.classification.formFactor
    store := if isGame then item.metadata.store else none
    sources := (item.metadata.source.filter fun source =>
      !source.isEmpty).toList ++
        if item.classification.streaming then ["streaming"] else [] }

/-- `belongs_in_the_app_library`. -/
def belongsInTheAppLibrary (item : CatalogItem) : Bool :=
  let kind := trimmed item.kind
  kind.isEmpty || eqIgnoreAsciiCase kind "game" ||
    eqIgnoreAsciiCase kind "application"

/-- Whether a kind is one of the library's own, in any case. -/
def isGameOrApplication (kind : String) : Bool :=
  eqIgnoreAsciiCase kind Daemon.gameKind ||
    eqIgnoreAsciiCase kind Daemon.applicationKind

/-- `fetch_library_items`, with the icons as they were resolved. -/
def fetchLibraryItems
    (resolveIcon : Option String → Option String)
    (served : List CatalogItem) : List LibraryItem :=
  ((served.map fun item => { item with icon := resolveIcon item.icon }).filter
    belongsInTheAppLibrary).map catalogItemToLibraryItem

/-- `RetroGame`, as far as the grid goes by it. -/
structure RetroGame where
  id : Int
  platformId : Int
  title : String
  genres : List String
  regions : List String
  deriving DecidableEq, Repr

/-- `retro_game_to_library_item`. -/
def retroGameToLibraryItem
    (game : RetroGame)
    (icon : Option String) : LibraryItem :=
  { LibraryItem.default with
    id := "romm:" ++ toString game.id
    name := game.title
    exec := some (toString game.id)
    icon := libraryIcon icon "applications-games"
    categories := ["Game"]
    inSection := .consoleGames
    console := some
      { platformId := game.platformId
        genres := game.genres
        regions := game.regions } }

/-! ## The shell over a catalog -/

/-- The pages of the consoles, which hold records of RomM only. -/
structure RommPages (Version : Type) where
  console : ConsoleScopes LibraryItem Version
  fromRomm : ∀ scope, ∀ entry ∈ console.entries scope,
    ∃ game icon, entry = retroGameToLibraryItem game icon

/-- What the shell shows a catalog with. -/
structure Surroundings (Version : Type) where
  language : Language
  /-- What is read of a JSON text. -/
  read : String → Option Json
  joined : Joined
  /-- What the artwork of a record was resolved to. -/
  resolveIcon : Option String → Option String
  config : AppLibraryConfig
  /-- The tabs before the catalog was read, with those of the consoles. -/
  tabs : Sections
  romm : RommPages Version

namespace Surroundings

variable {Version : Type} (world : Surroundings Version) (items : LibraryItems)

/-- The catalog, read over the rows the daemon holds. -/
def catalog : Catalog :=
  (Catalog.empty.replace
    (fetchLibraryItems world.resolveIcon
      (Daemon.list world.read world.language world.joined items))
    world.config).1

/-- The shell on a tab of a section, with nothing searched for and no facet
selected. -/
def app (inSection : Section) (tab : Option Nat) : App Version :=
  { (App.init world.config : App Version) with
    catalog := world.catalog items
    tabs := world.tabs.syncCategoryGroups world.language
      (world.catalog items).entries
    console := world.romm.console
    curSection := inSection
    curGroup := tab }

/-- The grid of a tab of a section. -/
def grid (inSection : Section) (tab : Option Nat) : List LibraryItem :=
  (world.app items inSection tab).projection world.language

/-- Whether the shell offers a tab: the first tab of a section shows the
whole of it. -/
def Offers (inSection : Section) (tab : Option Nat) : Prop :=
  ∀ index, tab = some index →
    index < ((world.app items inSection tab).strip).length

/-- The entry a row becomes. -/
def source (id : String) (row : Daemon.LibraryItem) : LibraryItem :=
  let item := catalogItemFromRow world.read world.language world.joined id row
  catalogItemToLibraryItem { item with icon := world.resolveIcon item.icon }

/-- The entry a row becomes, in the form the user gave it. -/
def entry (id : String) (row : Daemon.LibraryItem) : LibraryItem :=
  match world.config.formOverrides.lookup (world.source id row).id with
  | some form =>
      if (world.source id row).form ≠ form then
        { world.source id row with formFactor := some form }
      else
        world.source id row
  | none => world.source id row

/-- An entry appears in a grid the shell offers. -/
def Appears (entry : LibraryItem) : Prop :=
  ∃ inSection tab, world.Offers items inSection tab ∧
    entry ∈ world.grid items inSection tab

end Surroundings

/-! ## Kinds -/

/-- A blank has no upper case. -/
theorem toLower_of_isWhitespace
    {character : Char}
    (blank : isWhitespace character = true) :
    character.toLower = character := by
  unfold Char.toLower
  split
  case isFalse other => rfl
  case isTrue upper =>
      have low : 65 ≤ character.toNat := upper.1
      have high : character.toNat ≤ 90 := upper.2
      unfold isWhitespace at blank
      simp only [Bool.or_eq_true, Bool.and_eq_true, decide_eq_true_eq,
        beq_iff_eq] at blank
      omega

/-- A text that is a word in another case holds no blank. -/
theorem not_isWhitespace_of_eqIgnoreAsciiCase
    {text word : String}
    (same : eqIgnoreAsciiCase text word = true)
    (solid : (word.toList.map Char.toLower).any isWhitespace = false) :
    ∀ character ∈ text.toList, isWhitespace character = false := by
  have lowered : text.toList.map Char.toLower =
      word.toList.map Char.toLower := eq_of_beq same
  intro character member
  cases blank : isWhitespace character with
  | false => rfl
  | true =>
      have lower : character ∈ word.toList.map Char.toLower := by
        rw [← lowered, ← toLower_of_isWhitespace blank]
        exact List.mem_map_of_mem member
      rw [List.any_eq_true.mpr ⟨character, lower, blank⟩] at solid
      cases solid

theorem dropWhile_isWhitespace
    {characters : List Char}
    (solid : ∀ character ∈ characters, isWhitespace character = false) :
    characters.dropWhile isWhitespace = characters := by
  cases characters with
  | nil => rfl
  | cons character rest =>
      apply List.dropWhile_cons_of_neg
      rw [solid character List.mem_cons_self]
      exact Bool.false_ne_true

/-- A text without blanks is not trimmed. -/
theorem trimmed_of_solid
    {text : String}
    (solid : ∀ character ∈ text.toList, isWhitespace character = false) :
    trimmed text = text := by
  unfold trimmed
  rw [dropWhile_isWhitespace solid, dropWhile_isWhitespace (by
    intro character member
    exact solid character (List.mem_reverse.mp member)), List.reverse_reverse]
  exact String.ofList_toList

theorem trimmed_of_isGameOrApplication
    {kind : String}
    (own : isGameOrApplication kind = true) :
    trimmed kind = kind := by
  apply trimmed_of_solid
  rcases Bool.or_eq_true_iff.mp own with game | application
  · exact not_isWhitespace_of_eqIgnoreAsciiCase game rfl
  · exact not_isWhitespace_of_eqIgnoreAsciiCase application rfl

/-- The library keeps its own kinds. -/
theorem belongsInTheAppLibrary_of_kind
    {item : CatalogItem}
    (own : isGameOrApplication item.kind = true) :
    belongsInTheAppLibrary item = true := by
  unfold belongsInTheAppLibrary
  rw [trimmed_of_isGameOrApplication own]
  dsimp only
  rw [Bool.or_assoc]
  exact Bool.or_eq_true_iff.mpr (Or.inr own)

/-! ## What the grids draw -/

namespace Surroundings

variable {Version : Type} (world : Surroundings Version) (items : LibraryItems)

theorem entries_catalog :
    (world.catalog items).entries =
      world.config.applyFormOverrides
        (fetchLibraryItems world.resolveIcon
          (Daemon.list world.read world.language world.joined items)) := by
  unfold catalog Catalog.replace Catalog.project
  dsimp only
  split
  case isTrue same => exact same.symm
  case isFalse changed => rfl

/-- A row of the library's own kinds is an entry of the catalog. -/
theorem entry_mem_catalog
    {id : String}
    {row : Daemon.LibraryItem}
    (found : items.lookup id = some row)
    (own : isGameOrApplication
      (Daemon.servedKind row.sourceId row.kind) = true) :
    world.entry id row ∈ (world.catalog items).entries := by
  rw [entries_catalog]
  refine List.mem_map.mpr ⟨_, List.mem_map.mpr ⟨_, ?_, rfl⟩, rfl⟩
  refine List.mem_filter.mpr ⟨List.mem_map.mpr ⟨_, ?_, rfl⟩, ?_⟩
  · exact Daemon.mem_list world.read world.language world.joined found
  · exact belongsInTheAppLibrary_of_kind own

/-- The place the daemon gave the item of a row. -/
def placed (id : String) (row : Daemon.LibraryItem) :
    Daemon.CatalogClassification :=
  (catalogItemFromRow world.read world.language world.joined id
    row).classification

theorem formFactor_source
    (id : String)
    (row : Daemon.LibraryItem) :
    (world.source id row).formFactor = (world.placed id row).formFactor := by
  unfold source catalogItemToLibraryItem placed
  dsimp only

theorem inSection_source
    (id : String)
    (row : Daemon.LibraryItem) :
    (world.source id row).inSection = (world.placed id row).inSection := by
  unfold source catalogItemToLibraryItem placed
  dsimp only

/-- An entry is the daemon's, or the daemon's in the form the user chose. -/
theorem entry_cases
    (id : String)
    (row : Daemon.LibraryItem) :
    world.entry id row = world.source id row ∨
      ∃ form, world.entry id row =
        { world.source id row with formFactor := some form } := by
  unfold entry
  split
  case h_1 form moved =>
      split
      case isTrue other => exact Or.inr ⟨form, rfl⟩
      case isFalse same => exact Or.inl rfl
  case h_2 kept => exact Or.inl rfl

theorem id_entry
    (id : String)
    (row : Daemon.LibraryItem) :
    (world.entry id row).id = catalogEntryHead ++ id := by
  rcases world.entry_cases id row with kept | ⟨form, moved⟩
  · rw [kept]
    rfl
  · rw [moved]
    rfl

theorem inSection_entry
    (id : String)
    (row : Daemon.LibraryItem) :
    (world.entry id row).inSection = (world.placed id row).inSection := by
  rw [← inSection_source]
  rcases world.entry_cases id row with kept | ⟨form, moved⟩
  · rw [kept]
  · rw [moved]

/-- The entry of an application has a form, the daemon's or the user's. -/
theorem formFactor_entry
    {id : String}
    {row : Daemon.LibraryItem}
    (application : (world.placed id row).inSection = .applications) :
    (world.entry id row).formFactor = some (world.entry id row).form := by
  have served : (world.source id row).formFactor.isSome = true := by
    rw [formFactor_source]
    exact Daemon.formFactor_of_applications world.read world.language
      world.joined id row application
  have formed : (world.entry id row).formFactor.isSome = true := by
    rcases world.entry_cases id row with kept | ⟨form, moved⟩
    · rw [kept]
      exact served
    · rw [moved]
      rfl
  unfold LibraryItem.form
  obtain ⟨form, shown⟩ := Option.isSome_iff_exists.mp formed
  rw [shown]
  rfl

end Surroundings

/-- What a tab shows with nothing searched for and no facet selected. -/
theorem mem_filteredByFacets
    (language : Language)
    (tabs : Sections)
    (inSection : Section)
    (tab : Option Nat)
    (entries : List LibraryItem)
    (entry : LibraryItem) :
    entry ∈ tabs.filteredByFacets language inSection tab "" entries ∅ ↔
      entry ∈ entries ∧ inSection = entry.inSection ∧
        (inSection = .applications → tab = none → entry.form = .couch) ∧
        ∀ group, (tab.bind fun index => (tabs.get inSection)[index]?) =
          some group → group.matchesEntry language entry = true := by
  have unfaceted : Finmap.all
      (fun (_ : String) (value : String) => entry.matchesFacet language value)
      ∅ = true := rfl
  have unsearched : "".isEmpty = true := rfl
  unfold Sections.filteredByFacets
  dsimp only
  rw [List.mem_filter, unfaceted, unsearched]
  refine and_congr_right fun member => ?_
  simp only [Bool.true_or, Bool.and_true, Bool.and_eq_true, decide_eq_true_eq,
    Option.all_eq_true, and_assoc]
  refine and_congr_right fun placed => and_congr_left fun tabbed => ?_
  cases tab with
  | none => simp [imp_iff_not_or]
  | some index => simp

namespace Surroundings

variable {Version : Type} (world : Surroundings Version) (items : LibraryItems)

/-- The tabs the shell offers once the catalog is read. -/
def syncedTabs : Sections :=
  world.tabs.syncCategoryGroups world.language (world.catalog items).entries

theorem grid_of_local
    {inSection : Section}
    (isLocal : inSection ≠ .consoleGames)
    (tab : Option Nat) :
    world.grid items inSection tab =
      (world.syncedTabs items).filteredByFacets world.language inSection tab ""
        (world.catalog items).entries ∅ := by
  unfold grid App.projection
  exact if_neg isLocal

/-- The first tab of a section is always there. -/
theorem offers_none
    (inSection : Section) :
    world.Offers items inSection none := by
  intro index here
  cases here

/-- A game that is not a console's is shown with all games. -/
theorem appears_pcGames
    {entry : LibraryItem}
    (member : entry ∈ (world.catalog items).entries)
    (placed : entry.inSection = .pcGames) :
    world.Appears items entry := by
  refine ⟨.pcGames, none, world.offers_none items .pcGames, ?_⟩
  rw [grid_of_local world items Section.noConfusion, mem_filteredByFacets]
  refine ⟨member, placed.symm, ?_, ?_⟩
  · intro other
    cases other
  · intro group chosen
    cases chosen

/-- An entry that wants a desktop brings the tab that shows it. -/
theorem derivedGroups_desktop
    (language : Language)
    {entries : List LibraryItem}
    {entry : LibraryItem}
    (member : entry ∈ entries)
    (placed : entry.inSection = .applications)
    (desktop : entry.form = .desktop) :
    derivedGroups language .applications entries =
      [.ofCategory desktopTabName FormFactor.desktop.categoryValue] := by
  have some : ((ofSection .applications entries).any fun entry =>
      entry.form = .desktop) = true := by
    apply List.any_eq_true.mpr
    refine ⟨entry, ?_, decide_eq_true desktop⟩
    exact List.mem_filter.mpr ⟨member, decide_eq_true placed.symm⟩
  unfold derivedGroups
  exact if_pos some

theorem matchesEntry_desktop
    (language : Language)
    {entry : LibraryItem}
    (formed : entry.formFactor = some .desktop) :
    (AppGroup.ofCategory desktopTabName
      FormFactor.desktop.categoryValue).matchesEntry language entry = true := by
  have category : entry.matchesCategory language
      FormFactor.desktop.categoryValue = (entry.formFactor == some .desktop) :=
    rfl
  unfold AppGroup.matchesEntry AppGroup.ofCategory
  dsimp only
  rw [List.any_cons, category, formed]
  rfl

/-- An application is shown with what suits the couch, or under its own
tab. -/
theorem appears_applications
    {entry : LibraryItem}
    (member : entry ∈ (world.catalog items).entries)
    (placed : entry.inSection = .applications)
    (formed : entry.formFactor = some entry.form) :
    world.Appears items entry := by
  cases form : entry.form with
  | couch =>
      refine ⟨.applications, none, world.offers_none items .applications, ?_⟩
      rw [grid_of_local world items Section.noConfusion, mem_filteredByFacets]
      refine ⟨member, placed.symm, fun _ _ => form, ?_⟩
      intro group chosen
      cases chosen
  | desktop =>
      have groups : (world.syncedTabs items).get .applications =
          [.ofCategory desktopTabName FormFactor.desktop.categoryValue] :=
        derivedGroups_desktop world.language member placed form
      refine ⟨.applications, some 0, ?_, ?_⟩
      · intro index here
        cases here
        change 0 < ((world.syncedTabs items).get .applications).length
        rw [groups]
        exact Nat.one_pos
      · rw [grid_of_local world items Section.noConfusion,
          mem_filteredByFacets]
        refine ⟨member, placed.symm, ?_, ?_⟩
        · intro _ none
          cases none
        · intro group chosen
          rw [groups] at chosen
          cases chosen
          rw [form] at formed
          exact matchesEntry_desktop world.language formed

/-- No record of RomM has the id of an entry of the catalog. -/
theorem retro_id_ne
    (game : RetroGame)
    (icon : Option String)
    (id : String) :
    (retroGameToLibraryItem game icon).id ≠ catalogEntryHead ++ id := by
  intro same
  have heads := congrArg (fun text : String => text.toList.head?) same
  change ("romm:" ++ toString game.id).toList.head? =
    ("hearthdeck:" ++ id).toList.head? at heads
  rw [String.toList_append, String.toList_append] at heads
  cases heads

/-- The section of the consoles draws nothing of the catalog. -/
theorem not_appears_consoleGames
    {entry : LibraryItem}
    {id : String}
    (named : entry.id = catalogEntryHead ++ id)
    (placed : entry.inSection = .consoleGames) :
    ¬ world.Appears items entry := by
  rintro ⟨inSection, tab, -, shown⟩
  by_cases isLocal : inSection = .consoleGames
  · unfold grid App.projection at shown
    rw [if_pos (by exact isLocal)] at shown
    obtain ⟨game, icon, record⟩ := world.romm.fromRomm _ entry shown
    rw [record] at named
    exact retro_id_ne game icon id named
  · rw [grid_of_local world items isLocal, mem_filteredByFacets] at shown
    exact isLocal (shown.2.1.trans placed)

end Surroundings

/-! ## Every item appears -/

/-- Every item of the library's own kinds appears in a grid the shell offers,
if and only if no row is a game of Heroic with the category of a console or
the name of an emulator in its id or launch id. -/
theorem every_item_appears_iff
    {Version : Type}
    (world : Surroundings Version)
    (items : LibraryItems) :
    (∀ id row, items.lookup id = some row →
        isGameOrApplication (catalogItemFromRow world.read world.language
          world.joined id row).kind = true →
        world.Appears items (world.entry id row)) ↔
      ∀ id row, items.lookup id = some row →
        ¬ Daemon.Misfiled world.read world.language world.joined id row := by
  constructor
  · intro appears id row found misfiled
    have console := (Daemon.inSection_eq_consoleGames_iff world.read
      world.language world.joined id row).mpr misfiled
    have game := (Daemon.servedKind_isGame row.sourceId row.kind).mpr
      ⟨misfiled.1, misfiled.2.1⟩
    refine world.not_appears_consoleGames items (world.id_entry id row)
      ((world.inSection_entry id row).trans console) ?_
    exact appears id row found (Bool.or_eq_true_iff.mpr (Or.inl game))
  · intro clean id row found own
    have member := world.entry_mem_catalog items found own
    have placed := world.inSection_entry id row
    cases inSection : (world.placed id row).inSection with
    | pcGames =>
        exact world.appears_pcGames items member (placed.trans inSection)
    | applications =>
        exact world.appears_applications items member (placed.trans inSection)
          (world.formFactor_entry inSection)
    | consoleGames =>
        exact absurd ((Daemon.inSection_eq_consoleGames_iff world.read
          world.language world.joined id row).mp inSection)
          (clean id row found)

/-! ## A game with the name of an emulator -/

/-- The metadata Heroic's provider writes for a game of Epic. -/
def limboJson : String :=
  "\x7b\"categories\":[\"Game\"],\"store\":\"Epic Games\"\x7d"

/-- A game of Epic, installed with Heroic. -/
def limbo : Daemon.LibraryItem where
  sourceId := "heroic"
  title := "LIMBO"
  kind := "game"
  launchId := some "legendary:Limbo"
  icon := none
  metadataJson := limboJson
  updatedAt := "2026-01-01T00:00:00Z"

/-- A shell with no console, no enrichment and no form chosen. -/
def plainSurroundings : Surroundings Unit where
  language := .ascii
  read text :=
    if text = limboJson then
      some (.object
        [("categories", .array [.string "Game"]),
          ("store", .string "Epic Games")])
    else
      none
  joined :=
    { enrichment := fun _ => none
      form := fun _ => none }
  resolveIcon := id
  config := ⟨[], ∅⟩
  tabs := .empty
  romm :=
    { console := .new
      fromRomm := by
        intro scope entry member
        cases member }

/-- The game is served as a game, and no grid shows it. -/
theorem game_named_like_emulator_is_invisible :
    let items : LibraryItems :=
      AList.insert "heroic:epic:Limbo" limbo ∅
    items.lookup "heroic:epic:Limbo" = some limbo ∧
      (catalogItemFromRow plainSurroundings.read plainSurroundings.language
        plainSurroundings.joined "heroic:epic:Limbo" limbo).kind = "game" ∧
      ¬ plainSurroundings.Appears items
        (plainSurroundings.entry "heroic:epic:Limbo" limbo) := by
  have misfiled : Daemon.Misfiled plainSurroundings.read
      plainSurroundings.language plainSurroundings.joined
      "heroic:epic:Limbo" limbo := by
    refine ⟨rfl, by decide, Or.inr ?_⟩
    refine List.any_eq_true.mpr ⟨"limbo", by decide, ?_⟩
    decide
  have console := (Daemon.inSection_eq_consoleGames_iff _ _ _ _ _).mpr misfiled
  refine ⟨AList.lookup_insert _, rfl, ?_⟩
  exact plainSurroundings.not_appears_consoleGames _
    (plainSurroundings.id_entry _ _)
    ((plainSurroundings.inSection_entry _ _).trans console)

end Frontend
end Hearthdeck
