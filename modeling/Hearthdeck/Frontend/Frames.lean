import Hearthdeck.Frontend.App
import Hearthdeck.Frontend.ConsoleCache

/-!
# What the messages of the library leave alone

Three things of the library are of interest to what stands around it: the
settings, the page, and the few things its reads go by.  Most messages are
about the list on the screen and touch none of the three; the others touch
one of them.
-/

namespace Hearthdeck
namespace Frontend

variable {Version : Type}

/-- What the reads of a state are about: the number of the latest catalog
read, whether it is repeated, the records it brought, and the revision of the
console source. -/
structure Reads where
  request : Nat
  retrying : Bool
  records : List LibraryItem
  source : Nat

def App.reads (app : App Version) : Reads where
  request := app.catalogRequest
  retrying := app.retryCatalog
  records := app.catalog.source
  source := app.console.source

namespace ConsoleScopes

theorem source_begin
    (console : ConsoleScopes LibraryItem Version)
    (scope : ConsoleScope)
    (offset : Nat) :
    (console.begin scope offset).1.source = console.source := by
  unfold begin evict
  rw [(evictRounds_sameClocks _ _).source]
  rfl

theorem source_ensure
    (console : ConsoleScopes LibraryItem Version)
    (scope : ConsoleScope) :
    (console.ensure scope).1.source = console.source := by
  rcases console.ensure_cases scope with
    ⟨log, -, cached | loading⟩ | ⟨generation, after, requested, -, begun⟩
  · rw [cached]
    rfl
  · rw [loading]
    rfl
  · rw [requested, begun.source]
    rfl

theorem source_queuePrefetch
    (console : ConsoleScopes LibraryItem Version)
    (platforms : List (Option Int)) :
    (console.queuePrefetch platforms).source = console.source := by
  unfold queuePrefetch
  induction platforms generalizing console with
  | nil => rfl
  | cons platform platforms inductionHypothesis =>
      rw [List.foldl_cons, inductionHypothesis, queueTab]
      split
      case isTrue => rfl
      case isFalse => rfl

end ConsoleScopes

theorem Catalog.source_project
    (catalog : Catalog)
    (config : AppLibraryConfig) :
    (catalog.project config).1.source = catalog.source := by
  unfold Catalog.project
  dsimp only
  split
  case isTrue same => rfl
  case isFalse changed => rfl

/-- What the list on the screen has no part in. -/
structure Standing where
  config : AppLibraryConfig
  page : ShellPage
  reads : Reads

def App.standing (app : App Version) : Standing where
  config := app.config
  page := app.page
  reads := app.reads

/-- The messages that read nothing again and bring no records. -/
def Message.isOrdinary : Message Version → Bool
  | .catalogLoaded _ _ => false
  | .daemonChanged _ => false
  | .restoreDashboard => false
  | .rommConnectionChanged => false
  | _ => true

/-- The messages that may change the settings. -/
def Message.setsConfig : Message Version → Bool
  | .toggleControllerCompatibility _ => true
  | .moveToForm _ _ => true
  | .activateMenuRow => true
  | .appConfigLoaded _ => true
  | _ => false

/-- The messages that may turn the page. -/
def Message.turnsPage : Message Version → Bool
  | .selectSection _ => true
  | .consolePressed _ => true
  | .walkRing _ => true
  | .openDetails _ => true
  | .closeDetails _ => true
  | .openDashboard => true
  | .restoreDashboard => true
  | .openLibrary => true
  | .openSearch => true
  | .openSettings => true
  | _ => false

namespace App

/-! ## The list on the screen -/

theorem standing_ensureConsoleScope
    (language : Language)
    (app : App Version) :
    (app.ensureConsoleScope language).standing = app.standing := by
  simp only [standing, reads, Standing.mk.injEq, Reads.mk.injEq]
  exact ⟨rfl, rfl, rfl, rfl, rfl,
    ConsoleScopes.source_ensure _ app.consoleScope⟩

theorem standing_pumpConsolePrefetch
    (app : App Version) :
    app.pumpConsolePrefetch.standing = app.standing := by
  simp only [standing, reads, Standing.mk.injEq, Reads.mk.injEq]
  exact ⟨rfl, rfl, rfl, rfl, rfl, ConsoleScopes.source_nextPrefetchOf _ _⟩

theorem standing_syncConsoles
    (app : App Version)
    (platforms : List (Int × String)) :
    (app.syncConsoles platforms).standing = app.standing := by
  unfold syncConsoles queueConsolePrefetch
  rw [standing_pumpConsolePrefetch]
  simp only [standing, reads, Standing.mk.injEq, Reads.mk.injEq, true_and]
  exact ConsoleScopes.source_queuePrefetch _ _

theorem standing_reselectPlatform
    (app : App Version)
    (selected : Option Int) :
    (app.reselectPlatform selected).standing = app.standing := by
  unfold reselectPlatform
  dsimp only
  split
  case isTrue lost => rfl
  case isFalse kept => rfl

theorem standing_listed
    (language : Language)
    (app : App Version) :
    (app.listed language).standing = app.standing := by
  unfold listed
  split
  case isTrue onConsole => exact standing_ensureConsoleScope language _
  case isFalse offConsole => rfl

theorem standing_applySectionWithGroup
    (language : Language)
    (app : App Version)
    (target : Section)
    (group : Option Nat) :
    (app.applySectionWithGroup language target group).standing = app.standing :=
  standing_listed language (app.enterSection language target group)

theorem standing_applyGroup
    (language : Language)
    (app : App Version)
    (group : Option Nat) :
    (app.applyGroup language group).standing = app.standing :=
  standing_listed language (app.enterGroup language group)

theorem standing_advanceSectionSlide
    (language : Language)
    (app : App Version)
    (progress : Progress) :
    (app.advanceSectionSlide language progress).standing = app.standing := by
  unfold advanceSectionSlide
  split
  case h_1 still => rfl
  case h_2 slide waiting =>
      split
      case h_1 swap => exact standing_applySectionWithGroup language _ _ none
      case h_2 done => rfl
      case h_3 early => rfl

theorem standing_advanceTabSlide
    (language : Language)
    (app : App Version)
    (progress : Progress) :
    (app.advanceTabSlide language progress).standing = app.standing := by
  unfold advanceTabSlide
  split
  case h_1 still => rfl
  case h_2 slide waiting =>
      split
      case h_1 swap => exact standing_applyGroup language _ slide.target
      case h_2 done => rfl
      case h_3 early => rfl

theorem standing_consolesLoaded
    (language : Language)
    (app : App Version)
    (source : Nat)
    (result : Except String (List (Int × String))) :
    (app.consolesLoaded language source result).standing = app.standing := by
  unfold consolesLoaded
  split
  case isTrue old => rfl
  case isFalse current =>
      cases result with
      | error message => rfl
      | ok platforms =>
          dsimp only
          split
          case isFalse offConsole => exact standing_syncConsoles app platforms
          case isTrue onConsole =>
              rw [standing_ensureConsoleScope]
              exact (standing_reselectPlatform _ _).trans
                (standing_syncConsoles app platforms)

theorem standing_consolePageLoaded
    (language : Language)
    (app : App Version)
    (scope : ConsoleScope)
    (generation : Nat)
    (result : Except String (Page LibraryItem Version)) :
    (app.consolePageLoaded language scope generation result).standing =
      app.standing := by
  unfold consolePageLoaded
  cases result with
  | error message => exact standing_pumpConsolePrefetch _
  | ok page =>
      dsimp only
      split
      case isFalse elsewhere => exact standing_pumpConsolePrefetch _
      case isTrue onScreen =>
          split
          case isTrue first => exact standing_pumpConsolePrefetch _
          case isFalse later => exact standing_pumpConsolePrefetch _

theorem standing_updateFilters
    (language : Language)
    (app : App Version)
    (message : FilterMessage) :
    (app.updateFilters language message).standing = app.standing := by
  unfold updateFilters
  dsimp only
  cases (app.filters.update message).2 with
  | none => rfl
  | refilter =>
      dsimp only
      split
      case isTrue onConsole => exact standing_ensureConsoleScope language _
      case isFalse offConsole => rfl

theorem standing_stepFocus
    (language : Language)
    (app : App Version)
    (direction : Direction)
    (columns : Nat) :
    (app.stepFocus language direction columns).standing = app.standing := by
  unfold stepFocus
  dsimp only
  split
  case isTrue drawer =>
      cases direction with
      | up => rfl
      | down => rfl
      | left => exact standing_updateFilters language _ _
      | right => exact standing_updateFilters language _ _
  case isFalse grid =>
      split
      case h_1 tile column lands => rfl
      case h_2 stays => rfl

theorem standing_gridScrolled
    (app : App Version)
    (endOnScreen : Nat → Bool) :
    (app.gridScrolled endOnScreen).standing = app.standing := by
  unfold gridScrolled
  split
  case isFalse offConsole => rfl
  case isTrue onConsole =>
      split
      case h_2 ended => rfl
      case h_1 next extended =>
          simp only [standing, reads, Standing.mk.injEq, Reads.mk.injEq,
            true_and]
          exact ConsoleScopes.source_begin _ _ _

theorem standing_consoleSearchSettled
    (language : Language)
    (app : App Version)
    (value : String) :
    (app.consoleSearchSettled language value).standing = app.standing := by
  unfold consoleSearchSettled
  split
  case isTrue elsewhere => rfl
  case isFalse settled => exact standing_ensureConsoleScope language app

theorem standing_facetsLoaded
    (language : Language)
    (app : App Version)
    (source : Nat)
    (platform : Option Int)
    (result : Except String (List Facet)) :
    (app.facetsLoaded language source platform result).standing =
      app.standing := by
  unfold facetsLoaded
  split
  case isTrue old => rfl
  case isFalse current =>
      cases result with
      | error message => rfl
      | ok facets => rfl

theorem standing_selectGroup
    (language : Language)
    (app : App Version)
    (group : Option Nat) :
    (app.selectGroup language group).standing = app.standing := by
  unfold selectGroup
  split
  case isTrue atOnce => exact standing_applyGroup language app group
  case isFalse slides => rfl

theorem standing_inputChanged
    (language : Language)
    (app : App Version)
    (value : String) :
    (app.inputChanged language value).standing = app.standing := by
  unfold inputChanged
  dsimp only
  split
  case isTrue onConsole => rfl
  case isFalse offConsole => rfl

theorem standing_tileContext
    (language : Language)
    (app : App Version)
    (index : Nat) :
    (app.handle language (.tileContext index)).standing = app.standing := by
  change App.standing (if _ then _ else _) = app.standing
  split
  case isTrue inside => rfl
  case isFalse outside => rfl

theorem standing_moveMenu
    (app : App Version)
    (direction : Direction) :
    (app.moveMenu direction).standing = app.standing := by
  cases direction with
  | up => rfl
  | down => rfl
  | left => rfl
  | right => rfl

/-! ## Pages, settings and reads -/

theorem standing_selectSection
    (language : Language)
    (app : App Version)
    (target : Section) :
    (app.selectSection language target).standing =
      { app.standing with page := .library } := by
  unfold selectSection
  dsimp only
  split
  case isTrue atOnce => exact standing_applySectionWithGroup language _ _ _
  case isFalse slides => rfl

theorem standing_consolePressed
    (language : Language)
    (app : App Version)
    (platformId : Int) :
    (app.consolePressed language platformId).standing =
      { app.standing with page := .library } :=
  standing_applySectionWithGroup language _ .consoleGames _

theorem standing_openDetails
    (app : App Version)
    (index : Nat) :
    (app.openDetails index).standing =
      { app.standing with page := (app.openDetails index).page } := by
  unfold openDetails
  split
  case h_2 missing => rfl
  case h_1 entry found =>
      split
      case isTrue console => rfl
      case isFalse other => rfl

theorem standing_restoreDashboard (app : App Version) :
    app.restoreDashboard.standing =
      { app.standing with
        page := .dashboard
        reads := app.restoreDashboard.reads } := by
  unfold restoreDashboard
  dsimp only
  split
  case isTrue retrying => rfl
  case isFalse free => rfl

/-- The records stay what they are when the settings place them anew. -/
theorem standing_projectCatalog
    (app : App Version)
    (config : AppLibraryConfig) :
    (app.projectCatalog config).standing =
      { app.standing with config := config } := by
  simp only [standing, reads, Standing.mk.injEq, Reads.mk.injEq]
  exact ⟨rfl, rfl, rfl, rfl, Catalog.source_project app.catalog config, rfl⟩

theorem standing_reprojected
    (language : Language)
    (app : App Version)
    (config : AppLibraryConfig) :
    (((app.projectCatalog config).syncLocalCatalog language).refilter
        language).standing =
      { app.standing with config := config } := by
  rw [← standing_projectCatalog app config]
  generalize app.projectCatalog config = projected
  rfl

theorem standing_applyLiveConfig
    (language : Language)
    (app : App Version)
    (config : AppLibraryConfig) :
    (app.applyLiveConfig language config).standing =
      { app.standing with config := config } := by
  unfold applyLiveConfig
  split
  case isTrue moved =>
      dsimp only
      split
      case isTrue lost => exact standing_reprojected language app config
      case isFalse kept => exact standing_reprojected language app config
  case isFalse same =>
      -- The forms are those in memory, so nothing else is taken over.
      have forms : config.formOverrides = app.config.formOverrides :=
        not_not.mp same
      obtain ⟨apps, overrides⟩ := config
      cases forms
      rfl

/-- An action on a tile may choose settings and leaves the rest. -/
theorem standing_runAction
    (language : Language)
    (app : App Version)
    (target : Nat)
    (action : Action) :
    (app.runAction language target action).standing =
      { app.standing with
        config := (app.runAction language target action).config } := by
  cases action with
  | run => rfl
  | toggleControllerCompatibility =>
      unfold runAction toggleControllerCompatibility
      cases app.visible[target]? with
      | none => rfl
      | some entry => rfl
  | moveToForm form =>
      unfold runAction moveToForm
      cases app.visible[target]? with
      | none => rfl
      | some entry => exact standing_reprojected language app _

theorem standing_activateMenuRow
    (language : Language)
    (app : App Version) :
    (app.activateMenuRow language).standing =
      { app.standing with
        config := (app.activateMenuRow language).config } := by
  unfold activateMenuRow
  cases app.menuTarget with
  | none => rfl
  | some target =>
      dsimp only
      cases app.highlighted with
      | none => rfl
      | some row =>
          obtain ⟨target, action⟩ := row
          exact standing_runAction language _ target action

theorem standing_catalogLoaded
    (language : Language)
    (app : App Version)
    (request : Nat)
    (result : Except String (List LibraryItem)) :
    (app.catalogLoaded language request result).standing =
      { app.standing with
        reads := (app.catalogLoaded language request result).reads } := by
  unfold catalogLoaded
  split
  case isTrue old => rfl
  case isFalse latest =>
      cases result with
      | error message => rfl
      | ok entries =>
          dsimp only
          split
          case isTrue changed => rfl
          case isFalse same => rfl

theorem standing_invalidateConsoleSource
    (language : Language)
    (app : App Version) :
    (app.invalidateConsoleSource language).standing =
      { app.standing with
        reads := { app.reads with source := app.console.source + 1 } } := by
  unfold invalidateConsoleSource
  dsimp only
  split
  case isTrue onConsole => rfl
  case isFalse offConsole => rfl

theorem standing_rommConnectionChanged
    (language : Language)
    (app : App Version) :
    (app.rommConnectionChanged language).standing =
      { app.standing with
        reads := { app.reads with source := app.console.source + 1 } } := by
  unfold rommConnectionChanged
  dsimp only
  split
  case isTrue onConsole => exact standing_invalidateConsoleSource language app
  case isFalse offConsole => exact standing_invalidateConsoleSource language app

theorem standing_daemonChanged
    (language : Language)
    (app : App Version)
    (event : FeedEvent) :
    (app.daemonChanged language event).standing =
      { app.standing with
        reads :=
          { app.reads with
            request := if event.stalesCatalog && !app.retryCatalog then
                app.catalogRequest + 1 else app.catalogRequest
            source := if event = .resumed then
                app.console.source + 1 else app.console.source } } := by
  unfold daemonChanged
  dsimp only
  cases event.stalesCatalog && !app.retryCatalog with
  | false =>
      by_cases resumed : event = .resumed
      · rw [if_pos resumed, if_pos resumed,
          standing_invalidateConsoleSource]
        rfl
      · rw [if_neg resumed, if_neg resumed]
        rfl
  | true =>
      by_cases resumed : event = .resumed
      · rw [if_pos resumed, if_pos resumed,
          standing_invalidateConsoleSource]
        rfl
      · rw [if_neg resumed, if_neg resumed]
        rfl

/-! ## Every message -/

/-- What a message leaves alone. -/
structure Leaves
    (app : App Version)
    (message : Message Version)
    (next : App Version) : Prop where
  config : message.setsConfig = false → next.config = app.config
  page : message.turnsPage = false → next.page = app.page
  reads : message.isOrdinary = true → next.reads = app.reads

theorem Leaves.all
    {app next : App Version}
    {message : Message Version}
    (same : next.standing = app.standing) :
    app.Leaves message next where
  config _ := congrArg Standing.config same
  page _ := congrArg Standing.page same
  reads _ := congrArg Standing.reads same

theorem Leaves.turned
    {app next : App Version}
    {message : Message Version}
    {page : ShellPage}
    (same : next.standing = { app.standing with page := page })
    (turns : message.turnsPage = true) :
    app.Leaves message next where
  config _ := congrArg Standing.config same
  page still := absurd (turns.symm.trans still) nofun
  reads _ := congrArg Standing.reads same

theorem Leaves.chosen
    {app next : App Version}
    {message : Message Version}
    {config : AppLibraryConfig}
    (same : next.standing = { app.standing with config := config })
    (sets : message.setsConfig = true) :
    app.Leaves message next where
  config still := absurd (sets.symm.trans still) nofun
  page _ := congrArg Standing.page same
  reads _ := congrArg Standing.reads same

theorem Leaves.reread
    {app next : App Version}
    {message : Message Version}
    {reads : Reads}
    (same : next.standing = { app.standing with reads := reads })
    (again : message.isOrdinary = false) :
    app.Leaves message next where
  config _ := congrArg Standing.config same
  page _ := congrArg Standing.page same
  reads ordinary := absurd (again.symm.trans ordinary) nofun

theorem leaves_handle
    (language : Language)
    (app : App Version)
    (message : Message Version) :
    app.Leaves message (app.handle language message) := by
  cases message with
  | catalogLoaded request result =>
      exact .reread (standing_catalogLoaded language app request result) rfl
  | consolesLoaded source result =>
      exact .all (standing_consolesLoaded language app source result)
  | consolePageLoaded scope generation result =>
      exact .all
        (standing_consolePageLoaded language app scope generation result)
  | gridScrolled endOnScreen =>
      exact .all (standing_gridScrolled app endOnScreen)
  | consoleSearchSettled value =>
      exact .all (standing_consoleSearchSettled language app value)
  | daemonChanged event =>
      exact .reread (standing_daemonChanged language app event) rfl
  | facetsLoaded source platform result =>
      exact .all (standing_facetsLoaded language app source platform result)
  | selectSection target =>
      exact .turned (standing_selectSection language app target) rfl
  | consolePressed platformId =>
      exact .turned (standing_consolePressed language app platformId) rfl
  | selectGroup group => exact .all (standing_selectGroup language app group)
  | inputChanged value => exact .all (standing_inputChanged language app value)
  | filters message => exact .all (standing_updateFilters language app message)
  | activate index => exact .all rfl
  | toggleControllerCompatibility index =>
      exact .chosen (standing_runAction language app index
        .toggleControllerCompatibility) rfl
  | moveToForm index form =>
      exact .chosen (standing_runAction language app index (.moveToForm form))
        rfl
  | tileContext index => exact .all (standing_tileContext language app index)
  | closeMenu => exact .all rfl
  | moveMenu direction => exact .all (standing_moveMenu app direction)
  | activateMenuRow =>
      exact .chosen (standing_activateMenuRow language app) rfl
  | stepFocus direction columns =>
      exact .all (standing_stepFocus language app direction columns)
  | walkRing backwards => exact .turned rfl rfl
  | openDetails index => exact .turned (standing_openDetails app index) rfl
  | closeDetails origin => exact .turned rfl rfl
  | appConfigLoaded config =>
      exact .chosen (standing_applyLiveConfig language app config) rfl
  | rommConnectionChanged =>
      exact .reread (standing_rommConnectionChanged language app) rfl
  | openDashboard => exact .turned rfl rfl
  | restoreDashboard =>
      have same := standing_restoreDashboard app
      exact ⟨fun _ => congrArg Standing.config same, nofun, nofun⟩
  | openLibrary => exact .turned rfl rfl
  | openSearch => exact .turned rfl rfl
  | openSettings => exact .turned rfl rfl
  | animate sectionProgress tabProgress =>
      exact .all ((standing_advanceTabSlide language _ tabProgress).trans
        (standing_advanceSectionSlide language app sectionProgress))

/-! ## The reads after a message -/

theorem reads_update_of_ordinary
    (language : Language)
    (app : App Version)
    (message : Message Version)
    (ordinary : message.isOrdinary = true) :
    (app.update language message).reads = app.reads :=
  (leaves_handle language app.clampCursors message).reads ordinary

/-- An answer that is not the latest is dropped. -/
theorem reads_update_catalogLoaded_old
    (language : Language)
    (app : App Version)
    (request : Nat)
    (result : Except String (List LibraryItem))
    (old : request ≠ app.catalogRequest) :
    (app.update language (.catalogLoaded request result)).reads =
      app.reads := by
  change (app.clampCursors.catalogLoaded language request result).reads = _
  unfold catalogLoaded
  rw [if_pos (by exact old)]
  rfl

theorem reads_update_catalogLoaded_ok
    (language : Language)
    (app : App Version)
    (entries : List LibraryItem) :
    (app.update language (.catalogLoaded app.catalogRequest (.ok entries))
        ).reads =
      { app.reads with retrying := false, records := entries } := by
  change (app.clampCursors.catalogLoaded language app.catalogRequest
    (.ok entries)).reads = _
  unfold catalogLoaded
  rw [if_neg (by exact not_not.mpr rfl)]
  have stored : (app.clampCursors.storeCatalog entries).reads =
      { app.reads with retrying := false, records := entries } := by
    simp only [reads, Reads.mk.injEq]
    exact ⟨rfl, rfl, Catalog.source_project { app.catalog with
      source := entries } app.config, rfl⟩
  dsimp only
  split
  case isTrue changed => exact stored
  case isFalse same => exact stored

theorem reads_update_catalogLoaded_error
    (language : Language)
    (app : App Version)
    (message : String) :
    (app.update language (.catalogLoaded app.catalogRequest
        (.error message))).reads =
      { app.reads with
        request := app.catalogRequest + 1
        retrying := true } := by
  change (app.clampCursors.catalogLoaded language app.catalogRequest
    (.error message)).reads = _
  unfold catalogLoaded
  rw [if_neg (by exact not_not.mpr rfl)]
  rfl

theorem reads_update_daemonChanged
    (language : Language)
    (app : App Version)
    (event : FeedEvent) :
    (app.update language (.daemonChanged event)).reads =
      { app.reads with
        request := if event.stalesCatalog && !app.retryCatalog then
            app.catalogRequest + 1 else app.catalogRequest
        source := if event = .resumed then
            app.console.source + 1 else app.console.source } :=
  congrArg Standing.reads
    (standing_daemonChanged language app.clampCursors event)

theorem reads_update_restoreDashboard
    (language : Language)
    (app : App Version) :
    (app.update language .restoreDashboard).reads =
      { app.reads with
        request := if app.retryCatalog then app.catalogRequest
          else app.catalogRequest + 1 } := by
  change app.clampCursors.restoreDashboard.reads = _
  unfold restoreDashboard
  dsimp only
  cases guard : app.clampCursors.retryCatalog with
  | false =>
      rw [show app.retryCatalog = false from guard]
      rfl
  | true =>
      rw [show app.retryCatalog = true from guard]
      rfl

theorem reads_update_rommConnectionChanged
    (language : Language)
    (app : App Version) :
    (app.update language .rommConnectionChanged).reads =
      { app.reads with source := app.console.source + 1 } :=
  congrArg Standing.reads
    (standing_rommConnectionChanged language app.clampCursors)

end App
end Frontend
end Hearthdeck
