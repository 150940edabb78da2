import Hearthdeck.Frontend.ConsoleCache
import Hearthdeck.Frontend.Library

/-!
# The library screen

The shell's state behind the library: the catalog and the pages of the
consoles, the tabs, the section and tab on screen, the search and the filters,
the list the grid draws, the cursors and the menu over a tile.  Every message
moves the state; the requests a message sends are left out, and their answers
may arrive at any time and in any order.

Time enters with the frames: a frame says how far each slide has come.  The
geometry of the grid enters with the messages that depend on it.
-/

namespace Hearthdeck
namespace Frontend

open Foundation

/-! ## Cursors -/

/-- `Cursors`. -/
structure Cursors where
  tile : Nat
  column : Nat
  filterRow : Nat
  /-- The stop of the keyboard's ring, when it is on one. -/
  ring : Option Nat
  deriving DecidableEq, Repr

def Cursors.start : Cursors where
  tile := 0
  column := 0
  filterRow := 0
  ring := none

/-- `Layout`: what the library has on screen. -/
structure Layout where
  sections : Nat
  tabs : Nat
  filterButton : Bool
  facets : Nat
  drawerOpen : Bool
  tiles : Nat

/-- `ring_len`. -/
def Layout.ringLen (layout : Layout) : Nat :=
  layout.sections + 1 + layout.tabs + layout.filterButton.toNat

/-- A directional step. -/
inductive Direction
  | up
  | down
  | left
  | right
  deriving DecidableEq, Repr

namespace Cursors

/-- `focus::clamp`. -/
def clamp (cursors : Cursors) (layout : Layout) : Cursors where
  tile := min cursors.tile (layout.tiles - 1)
  column := cursors.column
  filterRow := min cursors.filterRow (max layout.facets 1 - 1)
  ring := (cursors.ring.map fun index => min index (layout.ringLen - 1)).filter
    fun _ => 0 < layout.ringLen

/-- The pad on the first tile. -/
def onFirstTile (cursors : Cursors) : Cursors :=
  { cursors with
    tile := 0
    column := 0 }

/-- `step_tile`: the tile and column a step inside the grid lands on. -/
def stepTile
    (tile column : Nat)
    (direction : Direction)
    (tiles columns : Nat) : Option (Nat × Nat) :=
  if tiles = 0 then
    none
  else
    let columns := max columns 1
    let last := tiles - 1
    let tile := min tile last
    let column := min column (columns - 1)
    let row := tile / columns
    let rows := (tiles + columns - 1) / columns
    let inColumn := tile % columns
    match direction with
    | .left =>
        if 0 < inColumn then some (tile - 1, inColumn - 1) else none
    | .right =>
        if inColumn + 1 < columns && tile < last then
          some (tile + 1, inColumn + 1)
        else
          none
    | .up =>
        if 0 < row then
          some (min ((row - 1) * columns + column) (row * columns - 1), column)
        else
          none
    | .down =>
        if row + 1 < rows then
          some (min ((row + 1) * columns + column) last, column)
        else
          none

/-- `ring_step`. -/
def ringStep
    (ring : Option Nat)
    (backwards : Bool)
    (layout : Layout) : Option Nat :=
  let stops := layout.ringLen
  if stops = 0 then
    none
  else
    match ring with
    | none => some (if backwards then stops - 1 else 0)
    | some index =>
        let index := min index (stops - 1)
        if backwards then
          if index = 0 then none else some (index - 1)
        else if index + 1 < stops then
          some (index + 1)
        else
          none

end Cursors

/-! ## The menu -/

/-- `menu::State`: which tile the menu is open on, and the row highlighted. -/
structure Menu where
  target : Option Nat
  selected : Nat
  deriving DecidableEq, Repr

namespace Menu

def closed : Menu where
  target := none
  selected := 0

/-- `toggle`. -/
def toggle (menu : Menu) (target : Nat) : Menu :=
  if menu.target.isSome then
    closed
  else
    { target := some target
      selected := 0 }

/-- `move_selection`. -/
def moveSelection (menu : Menu) (delta : Int) (rows : Nat) : Menu :=
  if rows = 0 then
    menu
  else
    { menu with
      selected :=
        (((min menu.selected (rows - 1) : Nat) + delta) % (rows : Int)).toNat }

end Menu

/-- `context_menu::Action`. -/
inductive Action
  | run
  | toggleControllerCompatibility
  | moveToForm (form : FormFactor)
  deriving DecidableEq, Repr

/-- `context_menu::actions`: the rows of a menu. -/
def actions (inSection : Section) (entry : LibraryItem) : List Action :=
  [.run, .toggleControllerCompatibility] ++
    if inSection = .applications then [.moveToForm entry.form.other] else []

/-! ## Slides -/

/-- `Slide`: the value being arrived at, and whether it was applied. -/
structure Slide (Target : Type) where
  target : Target
  swapped : Bool
  deriving DecidableEq, Repr

/-- How far a slide has come at a frame: short of its midpoint, past it, or
at its end. -/
inductive Progress
  | early
  | late
  | over
  deriving DecidableEq, Repr

/-- `motion::Step`. -/
inductive SlideStep
  | waiting
  | swap
  | done
  deriving DecidableEq, Repr

/-- `Slide::step`: what a frame says to do.  The swap is checked before the
end. -/
def Slide.step
    {Target : Type}
    (slide : Slide Target)
    (progress : Progress) : SlideStep :=
  if !slide.swapped && progress ≠ .early then
    .swap
  else if progress = .over then
    .done
  else
    .waiting

/-! ## The shell -/

/-- `Page`: which screen is shown. -/
inductive ShellPage
  | dashboard
  | library
  | details
  | settings
  deriving DecidableEq, Repr

/-- What the daemon's feed says changed. -/
inductive DaemonEvent
  | libraryChanged
  | metadataChanged
  | categorizationChanged
  | applicationSessionChanged
  | unknown
  deriving DecidableEq, Repr

inductive FeedEvent
  | changed (event : DaemonEvent)
  | resumed
  deriving DecidableEq, Repr

/-- Whether an event makes the catalog stale. -/
def FeedEvent.stalesCatalog : FeedEvent → Bool
  | .changed .libraryChanged => true
  | .changed .metadataChanged => true
  | .changed .categorizationChanged => true
  | .changed .applicationSessionChanged => false
  | .changed .unknown => false
  | .resumed => true

/-- The state behind the library screen. -/
structure App (Version : Type) where
  config : AppLibraryConfig
  catalog : Catalog
  /-- The number of the latest catalog read. -/
  catalogRequest : Nat
  /-- Whether a failed catalog read waits to be tried again. -/
  retryCatalog : Bool
  console : ConsoleScopes LibraryItem Version
  tabs : Sections
  curSection : Section
  curGroup : Option Nat
  searchValue : String
  filters : Filters
  /-- The list the grid draws. -/
  visible : List LibraryItem
  cursors : Cursors
  menu : Menu
  sectionSlide : Option (Slide Section)
  tabSlide : Option (Slide (Option Nat))
  page : ShellPage

/-- What the library screen reacts to. -/
inductive Message (Version : Type)
  | catalogLoaded
      (request : Nat) (result : Except String (List LibraryItem))
  | consolesLoaded
      (source : Nat) (result : Except String (List (Int × String)))
  | consolePageLoaded
      (scope : ConsoleScope) (generation : Nat)
      (result : Except String (Page LibraryItem Version))
  /-- The grid scrolled; the geometry says for which lengths of the list its
  end is on screen. -/
  | gridScrolled (endOnScreen : Nat → Bool)
  | consoleSearchSettled (value : String)
  | daemonChanged (event : FeedEvent)
  | facetsLoaded
      (source : Nat) (platform : Option Int)
      (result : Except String (List Facet))
  | selectSection (target : Section)
  | consolePressed (platformId : Int)
  | selectGroup (group : Option Nat)
  | inputChanged (value : String)
  | filters (message : FilterMessage)
  | activate (index : Nat)
  | toggleControllerCompatibility (index : Nat)
  | moveToForm (index : Nat) (form : FormFactor)
  | tileContext (index : Nat)
  | closeMenu
  /-- A step of the pad while the menu is up. -/
  | moveMenu (direction : Direction)
  /-- The confirm button while the menu is up. -/
  | activateMenuRow
  /-- A step of the pad that reaches the library, on a grid so many tiles
  wide. -/
  | stepFocus (direction : Direction) (columns : Nat)
  | walkRing (backwards : Bool)
  | openDetails (index : Nat)
  /-- The details screen closes; it was opened on the tile of the index. -/
  | closeDetails (origin : Nat)
  | appConfigLoaded (config : AppLibraryConfig)
  | rommConnectionChanged
  | openDashboard
  | restoreDashboard
  | openLibrary
  | openSearch
  | openSettings
  /-- A frame, and how far the slides have come at it. -/
  | animate (sectionProgress tabProgress : Progress)

/-- What a message does to an entry. -/
inductive Effect
  | launchManaged (id title : String)
  | toggleDesktopInput (id : String)
  | setFormOverride (id : String) (form : FormFactor)
  deriving DecidableEq, Repr

/-- The entry an effect is about. -/
def Effect.id : Effect → String
  | .launchManaged id _ => id
  | .toggleDesktopInput id => id
  | .setFormOverride id _ => id

variable {Version : Type}

namespace App

/-- The shell at start, with the settings it read.  The first catalog read is
on its way. -/
def init (config : AppLibraryConfig) : App Version where
  config := config
  catalog := .empty
  catalogRequest := 1
  retryCatalog := false
  console := .new
  tabs := .empty
  curSection := .pcGames
  curGroup := none
  searchValue := ""
  filters := .empty
  visible := []
  cursors := .start
  menu := .closed
  sectionSlide := none
  tabSlide := none
  page := .dashboard

/-- The tabs of the section on screen. -/
def strip (app : App Version) : List AppGroup :=
  app.tabs.get app.curSection

/-- `layout`. -/
def layout (app : App Version) : Layout where
  sections := Section.count
  tabs := app.strip.length + 1
  filterButton := !app.filters.facets.isEmpty
  facets := app.filters.facets.length
  drawerOpen := app.filters.isOpen && !app.filters.facets.isEmpty
  tiles := app.visible.length

def clampCursors (app : App Version) : App Version :=
  { app with cursors := app.cursors.clamp app.layout }

/-- `console_platform_id`. -/
def consolePlatformId (app : App Version) : Option Int :=
  app.curGroup.bind fun index =>
    (app.tabs.consoleGames[index]?).bind AppGroup.rommPlatformId

/-- `console_scope`: the scope the console grid shows. -/
def consoleScope (app : App Version) : ConsoleScope where
  platform := app.consolePlatformId
  search := app.searchValue
  facets := app.filters.selected

/-- The list the state asks for: the records of the console scope, or the
catalog narrowed to the section, the tab, the search and the facets. -/
def projection
    (language : Language)
    (app : App Version) : List LibraryItem :=
  if app.curSection = .consoleGames then
    app.console.entries app.consoleScope
  else
    app.tabs.filteredByFacets language app.curSection app.curGroup
      app.searchValue app.catalog.entries app.filters.selected

/-- `refilter`. -/
def refilter
    (language : Language)
    (app : App Version) : App Version :=
  let visible := app.projection language
  { app with
    visible := visible
    menu :=
      if app.menu.target.any fun target => visible.length ≤ target then
        .closed
      else
        app.menu
    cursors := app.cursors.clamp { app.layout with tiles := visible.length } }

/-- `list_replaced`: the pad is put on the first tile. -/
def listReplaced (app : App Version) : App Version :=
  { app with cursors := app.cursors.onFirstTile }

/-- `ensure_console_scope`: draw what the scope holds, and ask for its first
page if it has none. -/
def ensureConsoleScope
    (language : Language)
    (app : App Version) : App Version :=
  let shown := app.refilter language
  let ensured := shown.console.ensure app.consoleScope
  { shown with
    console := ensured.1
    cursors :=
      if ensured.2 = .cached then
        shown.cursors.onFirstTile
      else
        shown.cursors }

/-- `pump_console_prefetch`. -/
def pumpConsolePrefetch (app : App Version) : App Version :=
  { app with console := app.console.nextPrefetch.1 }

/-- `queue_console_prefetch`. -/
def queueConsolePrefetch (app : App Version) : App Version :=
  { app with
    console := app.console.queuePrefetch
      (none :: app.tabs.consoleGames.map AppGroup.rommPlatformId) }
    |>.pumpConsolePrefetch

/-- `invalidate_console_source`. -/
def invalidateConsoleSource
    (language : Language)
    (app : App Version) : App Version :=
  let cleared := { app with console := app.console.invalidate }
  if app.curSection = .consoleGames then
    { cleared with filters := app.filters.clearSource }.refilter language
  else
    cleared

/-- `load_catalog`: a new read is on its way. -/
def loadCatalog (app : App Version) : App Version :=
  { app with catalogRequest := app.catalogRequest + 1 }

/-- `sync_local_catalog`: the tabs follow the catalog, and the tab on screen
is found again among them. -/
def syncLocalCatalog
    (language : Language)
    (app : App Version) : App Version :=
  let selected := app.curGroup.bind fun index => app.strip[index]?
  let tabs := app.tabs.syncCategoryGroups language app.catalog.entries
  { app with
    tabs := tabs
    curGroup := selected.bind fun selected =>
      (tabs.get app.curSection).findIdx? fun group => group = selected
    filters := app.filters.loadLocalFacets language app.curSection
      app.catalog.entries }

/-! ## Sections and tabs -/

/-- The part of `apply_section_with_group` before the list is projected. -/
def enterSection
    (language : Language)
    (app : App Version)
    (target : Section)
    (group : Option Nat) : App Version :=
  { app with
    curSection := target
    curGroup := group
    searchValue := ""
    filters := Filters.empty.loadLocalFacets language target
      app.catalog.entries }

/-- The part of `apply_group` before the list is projected. -/
def enterGroup
    (language : Language)
    (app : App Version)
    (group : Option Nat) : App Version :=
  { app with
    curGroup := group
    filters := Filters.empty.loadLocalFacets language app.curSection
      app.catalog.entries }

/-- The part both have in common: the console grid may have to be fetched. -/
def listed
    (language : Language)
    (app : App Version) : App Version :=
  if app.curSection = .consoleGames then
    (app.refilter language).ensureConsoleScope language
  else
    (app.refilter language).listReplaced

/-- `apply_section_with_group`. -/
def applySectionWithGroup
    (language : Language)
    (app : App Version)
    (target : Section)
    (group : Option Nat) : App Version :=
  (app.enterSection language target group).listed language

/-- `apply_section`. -/
def applySection
    (language : Language)
    (app : App Version)
    (target : Section) : App Version :=
  app.applySectionWithGroup language target none

/-- `apply_group`. -/
def applyGroup
    (language : Language)
    (app : App Version)
    (group : Option Nat) : App Version :=
  (app.enterGroup language group).listed language

/-- `advance_section_slide`. -/
def advanceSectionSlide
    (language : Language)
    (app : App Version)
    (progress : Progress) : App Version :=
  match app.sectionSlide with
  | none => app
  | some slide =>
      match slide.step progress with
      | .swap =>
          { app with sectionSlide := some { slide with swapped := true } }
            |>.applySection language slide.target
      | .done => { app with sectionSlide := none }
      | .waiting => app

/-- `advance_tab_slide`. -/
def advanceTabSlide
    (language : Language)
    (app : App Version)
    (progress : Progress) : App Version :=
  match app.tabSlide with
  | none => app
  | some slide =>
      match slide.step progress with
      | .swap =>
          { app with tabSlide := some { slide with swapped := true } }
            |>.applyGroup language slide.target
      | .done => { app with tabSlide := none }
      | .waiting => app

/-! ## Answers of the daemon -/

/-- The catalog with the records of a read. -/
def storeCatalog
    (app : App Version)
    (entries : List LibraryItem) : App Version :=
  { app with
    retryCatalog := false
    catalog := (app.catalog.replace entries app.config).1 }

/-- The `CatalogLoaded` arm. -/
def catalogLoaded
    (language : Language)
    (app : App Version)
    (request : Nat)
    (result : Except String (List LibraryItem)) : App Version :=
  if request ≠ app.catalogRequest then
    app
  else
    match result with
    | .error _ => { app with retryCatalog := true }.loadCatalog
    | .ok entries =>
        -- Most reads change nothing, and then the list is left alone.
        if (app.catalog.replace entries app.config).2 then
          (((app.storeCatalog entries).syncLocalCatalog language).refilter
            language).listReplaced
        else
          app.storeCatalog entries

/-- The tabs of the platforms a read reports, and their first pages asked
for. -/
def syncConsoles
    (app : App Version)
    (platforms : List (Int × String)) : App Version :=
  { app with tabs := app.tabs.syncConsoleGroups platforms }
    |>.queueConsolePrefetch

/-- Put the console grid back on the platform it showed. -/
def reselectPlatform
    (app : App Version)
    (selected : Option Int) : App Version :=
  let found := { app with
    curGroup := selected.bind fun id =>
      app.tabs.consoleGames.findIdx? fun group =>
        group.rommPlatformId = some id }
  if found.consolePlatformId ≠ selected then
    { found with filters := found.filters.clearSource }
  else
    found

/-- The `ConsolesLoaded` arm. -/
def consolesLoaded
    (language : Language)
    (app : App Version)
    (source : Nat)
    (result : Except String (List (Int × String))) : App Version :=
  if source ≠ app.console.source then
    app
  else
    match result with
    | .error _ => app
    | .ok platforms =>
        if app.curSection = .consoleGames then
          (((app.syncConsoles platforms).reselectPlatform
            app.consolePlatformId).refilter language).ensureConsoleScope
              language
        else
          app.syncConsoles platforms

/-- The `ConsolePageLoaded` arm. -/
def consolePageLoaded
    (language : Language)
    (app : App Version)
    (scope : ConsoleScope)
    (generation : Nat)
    (result : Except String (Page LibraryItem Version)) : App Version :=
  match result with
  | .ok page =>
      let applied := app.console.apply scope generation page
      let merged := { app with console := applied.1 }
      if applied.2 && app.curSection = .consoleGames &&
          scope = app.consoleScope then
        if page.offset = 0 then
          (merged.refilter language).listReplaced.pumpConsolePrefetch
        else
          (merged.refilter language).pumpConsolePrefetch
      else
        merged.pumpConsolePrefetch
  | .error _ =>
      { app with console := (app.console.failed scope generation).1 }
        |>.pumpConsolePrefetch

/-- The `GridScrolled` arm: the end of the loaded pages pulls in the next. -/
def gridScrolled
    (app : App Version)
    (endOnScreen : Nat → Bool) : App Version :=
  if app.curSection = .consoleGames then
    match app.console.extendOffset app.consoleScope endOnScreen with
    | some next =>
        { app with console := (app.console.begin app.consoleScope next).1 }
    | none => app
  else
    app

/-- The `ConsoleSearchSettled` arm. -/
def consoleSearchSettled
    (language : Language)
    (app : App Version)
    (value : String) : App Version :=
  if value ≠ app.searchValue || app.curSection ≠ .consoleGames then
    app
  else
    app.ensureConsoleScope language

/-- `daemon_changed`. -/
def daemonChanged
    (language : Language)
    (app : App Version)
    (event : FeedEvent) : App Version :=
  let read :=
    if event.stalesCatalog && !app.retryCatalog then app.loadCatalog else app
  if event = .resumed then read.invalidateConsoleSource language else read

/-- The `FacetsLoaded` arm. -/
def facetsLoaded
    (language : Language)
    (app : App Version)
    (source : Nat)
    (platform : Option Int)
    (result : Except String (List Facet)) : App Version :=
  if source ≠ app.console.source || app.curSection ≠ .consoleGames ||
      platform ≠ app.consolePlatformId then
    app
  else
    match result with
    | .error _ => app
    | .ok facets =>
        { app with filters := app.filters.loadConsoleFacets language facets }
          |>.clampCursors

/-- `romm_connection_changed`. -/
def rommConnectionChanged
    (language : Language)
    (app : App Version) : App Version :=
  let retired := app.invalidateConsoleSource language
  let synced := { retired with tabs := retired.tabs.syncConsoleGroups [] }
  if app.curSection = .consoleGames then
    { synced with curGroup := none }.refilter language
  else
    synced

/-! ## The user -/

/-- The `SelectSection` arm: a section picked as the page changes, or the one
on screen, is applied at once. -/
def selectSection
    (language : Language)
    (app : App Version)
    (target : Section) : App Version :=
  let shown := { app with page := .library }
  if app.page ≠ .library || target = app.curSection then
    shown.applySection language target
  else
    { shown with sectionSlide := some ⟨target, false⟩ }

/-- The `ConsolePressed` arm of the dashboard. -/
def consolePressed
    (language : Language)
    (app : App Version)
    (platformId : Int) : App Version :=
  { app with page := .library }
    |>.applySectionWithGroup language .consoleGames
      (app.tabs.consoleGames.findIdx? fun group : AppGroup =>
        group.rommPlatformId = some platformId)

/-- The `SelectGroup` arm. -/
def selectGroup
    (language : Language)
    (app : App Version)
    (group : Option Nat) : App Version :=
  if group = app.curGroup then
    app.applyGroup language group
  else
    { app with tabSlide := some ⟨group, false⟩ }

/-- The `InputChanged` arm: the console grid waits for the user to stop
typing. -/
def inputChanged
    (language : Language)
    (app : App Version)
    (value : String) : App Version :=
  let typed := { app with searchValue := value }
  if app.curSection = .consoleGames then
    typed
  else
    (typed.refilter language).listReplaced

/-- `update_filters`. -/
def updateFilters
    (language : Language)
    (app : App Version)
    (message : FilterMessage) : App Version :=
  let updated := app.filters.update message
  let changed := { app with filters := updated.1 }
  match updated.2 with
  | .none => changed
  | .refilter =>
      if app.curSection = .consoleGames then
        changed.ensureConsoleScope language
      else
        (changed.refilter language).listReplaced

/-- The `ToggleControllerCompatibility` arm. -/
def toggleControllerCompatibility
    (app : App Version)
    (index : Nat) : App Version :=
  match app.visible[index]? with
  | some entry =>
      { app with config := app.config.toggleDesktopInput entry.id }
  | none => app

/-- The catalog seen through other settings. -/
def projectCatalog
    (app : App Version)
    (config : AppLibraryConfig) : App Version :=
  { app with
    config := config
    catalog := (app.catalog.project config).1 }

/-- `move_to_form`. -/
def moveToForm
    (language : Language)
    (app : App Version)
    (index : Nat)
    (form : FormFactor) : App Version :=
  match app.visible[index]? with
  | some entry =>
      ((app.projectCatalog (app.config.setFormOverride entry.id form)
        ).syncLocalCatalog language).refilter language
  | none => app

/-- `apply_live_config`. -/
def applyLiveConfig
    (language : Language)
    (app : App Version)
    (config : AppLibraryConfig) : App Version :=
  if config.formOverrides ≠ app.config.formOverrides then
    let shown := ((app.projectCatalog config).syncLocalCatalog
      language).refilter language
    if app.curGroup.isSome && shown.curGroup.isNone then
      shown.listReplaced
    else
      shown
  else
    { app with
      config := { app.config with
        desktopInputApps := config.desktopInputApps } }

/-! ## The menu over a tile -/

/-- `menu_target`. -/
def menuTarget (app : App Version) : Option Nat :=
  app.menu.target.filter fun target => target < app.visible.length

/-- `menu_rows`. -/
def menuRows (app : App Version) : Nat :=
  match app.menuTarget.bind fun target => app.visible[target]? with
  | some entry => (actions app.curSection entry).length
  | none => 0

/-- `move_menu`. -/
def moveMenu (app : App Version) (direction : Direction) : App Version :=
  match direction with
  | .up => { app with menu := app.menu.moveSelection (-1) app.menuRows }
  | .down => { app with menu := app.menu.moveSelection 1 app.menuRows }
  | .left => app
  | .right => app

/-- The row `activate_menu_row` runs: the entry under the menu, where it
stands, and the action highlighted. -/
def highlighted (app : App Version) : Option (Nat × Action) :=
  app.menuTarget.bind fun target =>
    (app.visible[target]?).bind fun entry =>
      ((actions app.curSection entry)[app.menu.selected]?).map fun action =>
        (target, action)

/-- What a row of the menu does to the state. -/
def runAction
    (language : Language)
    (app : App Version)
    (target : Nat) : Action → App Version
  | .run => app
  | .toggleControllerCompatibility => app.toggleControllerCompatibility target
  | .moveToForm form => app.moveToForm language target form

/-- `activate_menu_row`: the menu closes before the row acts. -/
def activateMenuRow
    (language : Language)
    (app : App Version) : App Version :=
  match app.menuTarget with
  | none => app
  | some _ =>
      let closed := { app with menu := .closed }
      match app.highlighted with
      | some (target, action) =>
          closed.clampCursors.runAction language target action
      | none => closed

/-- The part of `step_focus` that reaches the library. -/
def stepFocus
    (language : Language)
    (app : App Version)
    (direction : Direction)
    (columns : Nat) : App Version :=
  let content := { app with cursors := { app.cursors with ring := none } }
  let facets := app.layout.facets
  if app.layout.drawerOpen && 0 < facets then
    let row := min app.cursors.filterRow (facets - 1)
    match direction with
    | .up => { content with
        cursors := { content.cursors with
          filterRow := (row + facets - 1) % facets } }
    | .down => { content with
        cursors := { content.cursors with filterRow := (row + 1) % facets } }
    | .left => content.updateFilters language (.cycle row (-1))
    | .right => content.updateFilters language (.cycle row 1)
  else
    match Cursors.stepTile app.cursors.tile app.cursors.column direction
        app.layout.tiles columns with
    | some (tile, column) => { content with
        cursors := { content.cursors with
          tile := tile
          column := column } }
    | none => content

/-- The part of `walk_ring` that reaches the library. -/
def walkRing (app : App Version) (backwards : Bool) : App Version :=
  { app with
    cursors := { app.cursors with
      ring := Cursors.ringStep app.cursors.ring backwards app.layout } }

/-- `open_details`: only a console game has a screen of its own. -/
def openDetails (app : App Version) (index : Nat) : App Version :=
  match app.visible[index]? with
  | some entry =>
      if ((stripped "romm:" entry.id).bind parseI64).isSome then
        { app with page := .details }
      else
        app
  | none => app

/-- `close_details`: the cursor goes back to the tile the user came from. -/
def closeDetails (app : App Version) (origin : Nat) : App Version :=
  { app with
    page := .library
    cursors := { app.cursors with
      tile := min origin (app.visible.length - 1) } }

/-- Go to a page that has no place for the ring. -/
def leaveRing (app : App Version) (page : ShellPage) : App Version :=
  { app with
    page := page
    cursors := { app.cursors with ring := none } }

/-- `restore_dashboard`. -/
def restoreDashboard (app : App Version) : App Version :=
  let left := app.leaveRing .dashboard
  if app.retryCatalog then left else left.loadCatalog

/-! ## Messages -/

/-- The arms of `update`. -/
def handle
    (language : Language)
    (app : App Version) : Message Version → App Version
  | .catalogLoaded request result =>
      app.catalogLoaded language request result
  | .consolesLoaded source result =>
      app.consolesLoaded language source result
  | .consolePageLoaded scope generation result =>
      app.consolePageLoaded language scope generation result
  | .gridScrolled endOnScreen => app.gridScrolled endOnScreen
  | .consoleSearchSettled value => app.consoleSearchSettled language value
  | .daemonChanged event => app.daemonChanged language event
  | .facetsLoaded source platform result =>
      app.facetsLoaded language source platform result
  | .selectSection target => app.selectSection language target
  | .consolePressed platformId => app.consolePressed language platformId
  | .selectGroup group => app.selectGroup language group
  | .inputChanged value => app.inputChanged language value
  | .filters message => app.updateFilters language message
  -- A launch changes who owns the pad, and nothing of the library.
  | .activate _ => app
  | .toggleControllerCompatibility index =>
      app.toggleControllerCompatibility index
  | .moveToForm index form => app.moveToForm language index form
  | .tileContext index =>
      if index < app.visible.length then
        { app with menu := app.menu.toggle index }
      else
        app
  | .closeMenu => { app with menu := .closed }
  | .moveMenu direction => app.moveMenu direction
  | .activateMenuRow => app.activateMenuRow language
  | .stepFocus direction columns => app.stepFocus language direction columns
  | .walkRing backwards => app.walkRing backwards
  | .openDetails index => app.openDetails index
  | .closeDetails origin => app.closeDetails origin
  | .appConfigLoaded config => app.applyLiveConfig language config
  | .rommConnectionChanged => app.rommConnectionChanged language
  | .openDashboard => app.leaveRing .dashboard
  | .restoreDashboard => app.restoreDashboard
  | .openLibrary => { app with page := .library }
  | .openSearch => app.leaveRing .library
  | .openSettings => app.leaveRing .settings
  | .animate sectionProgress tabProgress =>
      (app.advanceSectionSlide language sectionProgress).advanceTabSlide
        language tabProgress

/-- `update`: the cursors are repaired before anything acts on them. -/
def update
    (language : Language)
    (app : App Version)
    (message : Message Version) : App Version :=
  app.clampCursors.handle language message

/-- What an action does to the entry of a tile. -/
def actionEffects
    (app : App Version)
    (index : Nat)
    (action : Action) : List Effect :=
  match app.visible[index]? with
  | none => []
  | some entry =>
      match action with
      | .run => [.launchManaged entry.id entry.name]
      | .toggleControllerCompatibility => [.toggleDesktopInput entry.id]
      | .moveToForm form => [.setFormOverride entry.id form]

/-- What a message does to an entry. -/
def effects
    (app : App Version) : Message Version → List Effect
  | .activate index => app.actionEffects index .run
  | .toggleControllerCompatibility index =>
      app.actionEffects index .toggleControllerCompatibility
  | .moveToForm index form => app.actionEffects index (.moveToForm form)
  | .activateMenuRow =>
      match app.highlighted with
      | some (target, action) => app.actionEffects target action
      | none => []
  | _ => []

end App
end Frontend
end Hearthdeck
