import Hearthdeck.Frontend.App

/-!
# The entry a menu acts on

The menu over a tile keeps the position of the tile and not the entry.  It is
closed when the position falls past the end of the list, and stays open when
the list is replaced by one that has another entry there.  The row that is
then confirmed launches, toggles or moves that entry.

If no list that replaces the one on screen has another entry at the position
of an open menu, a row acts on the entry the menu was opened on.
-/

namespace Hearthdeck
namespace Frontend

open Foundation

variable {Version : Type}

namespace App

/-! ## The list a message leaves -/

/-- The state a change of the drawer projects, if it asks for a list. -/
def filteredList
    (language : Language)
    (app : App Version)
    (message : FilterMessage) : List LibraryItem :=
  match (app.filters.update message).2 with
  | .none => app.visible
  | .refilter =>
      { app with filters := (app.filters.update message).1 }.projection
        language

/-- The list after the user's forms are laid over the catalog. -/
def reformedList
    (language : Language)
    (app : App Version)
    (config : AppLibraryConfig) : List LibraryItem :=
  ((app.projectCatalog config).syncLocalCatalog language).projection language

/-- The list of the section that slides in at a frame. -/
def slidList
    (language : Language)
    (app : App Version)
    (progress : Progress) : List LibraryItem :=
  match app.sectionSlide with
  | some slide =>
      if slide.step progress = .swap then
        (app.enterSection language slide.target none).projection language
      else
        app.visible
  | none => app.visible

/-- The list a message leaves under an open menu, from the state before it. -/
def upcoming
    (language : Language)
    (app : App Version) : Message Version → List LibraryItem
  | .catalogLoaded request (.ok entries) =>
      if request = app.catalogRequest &&
          (app.catalog.replace entries app.config).2 then
        ((app.storeCatalog entries).syncLocalCatalog language).projection
          language
      else
        app.visible
  | .consolesLoaded source (.ok platforms) =>
      if source = app.console.source && app.curSection = .consoleGames then
        ((app.syncConsoles platforms).reselectPlatform
          app.consolePlatformId).projection language
      else
        app.visible
  | .consolePageLoaded scope generation (.ok page) =>
      let applied := app.console.apply scope generation page
      if applied.2 && app.curSection = .consoleGames &&
          scope = app.consoleScope then
        applied.1.entries app.consoleScope
      else
        app.visible
  | .consoleSearchSettled value =>
      if value = app.searchValue && app.curSection = .consoleGames then
        app.console.entries app.consoleScope
      else
        app.visible
  -- The pages of a connection that is gone are gone with it.
  | .daemonChanged .resumed =>
      if app.curSection = .consoleGames then [] else app.visible
  | .rommConnectionChanged =>
      if app.curSection = .consoleGames then [] else app.visible
  | .selectSection target =>
      if app.page ≠ .library || target = app.curSection then
        (app.enterSection language target none).projection language
      else
        app.visible
  | .consolePressed platformId =>
      (app.enterSection language .consoleGames
        (app.tabs.consoleGames.findIdx? fun group =>
          group.rommPlatformId = some platformId)).projection language
  | .selectGroup group =>
      if group = app.curGroup then
        (app.enterGroup language group).projection language
      else
        app.visible
  | .inputChanged value =>
      if app.curSection = .consoleGames then
        app.visible
      else
        { app with searchValue := value }.projection language
  | .filters message => app.filteredList language message
  | .stepFocus direction _ =>
      let facets := app.filters.facets.length
      let row := min app.cursors.filterRow (facets - 1)
      if app.filters.isOpen && 0 < facets then
        match direction with
        | .left => app.filteredList language (.cycle row (-1))
        | .right => app.filteredList language (.cycle row 1)
        | _ => app.visible
      else
        app.visible
  | .moveToForm index form =>
      match app.visible[index]? with
      | some entry => app.reformedList language
          (app.config.setFormOverride entry.id form)
      | none => app.visible
  | .appConfigLoaded config =>
      if config.formOverrides ≠ app.config.formOverrides then
        app.reformedList language config
      else
        app.visible
  | .animate sectionProgress tabProgress =>
      -- The section is applied before the tab.
      match app.tabSlide with
      | some slide =>
          if slide.step tabProgress = .swap then
            ((app.advanceSectionSlide language sectionProgress).enterGroup
              language slide.target).projection language
          else
            app.slidList language sectionProgress
      | none => app.slidList language sectionProgress
  | _ => app.visible

/-- A step that leaves this list, opens no menu, and keeps a menu open only on
a tile of the list. -/
structure Replaced
    (before after : App Version)
    (list : List LibraryItem) : Prop where
  visible : after.visible = list
  menu : ∀ target, after.menu.target = some target →
    before.menu.target = some target ∧
      (target < before.visible.length → target < list.length)

/-- A step that leaves the list and the menu alone. -/
theorem replaced_of_same
    {before after : App Version}
    (visible : after.visible = before.visible)
    (menu : after.menu.target = before.menu.target) :
    Replaced before after before.visible := by
  refine ⟨visible, ?_⟩
  intro target opened
  rw [menu] at opened
  exact ⟨opened, fun inside => inside⟩

theorem Replaced.trans
    {first second third : App Version}
    {earlier later : List LibraryItem}
    (one : Replaced first second earlier)
    (two : Replaced second third later) :
    Replaced first third later := by
  refine ⟨two.visible, ?_⟩
  intro target opened
  obtain ⟨held, kept⟩ := two.menu target opened
  obtain ⟨heldBefore, keptBefore⟩ := one.menu target held
  refine ⟨heldBefore, fun inside => kept ?_⟩
  rw [one.visible]
  exact keptBefore inside

theorem Replaced.listReplaced
    {before app : App Version}
    {list : List LibraryItem}
    (replaced : Replaced before app list) :
    Replaced before app.listReplaced list :=
  ⟨replaced.visible, replaced.menu⟩

theorem Replaced.pumpConsolePrefetch
    {before app : App Version}
    {list : List LibraryItem}
    (replaced : Replaced before app list) :
    Replaced before app.pumpConsolePrefetch list :=
  ⟨replaced.visible, replaced.menu⟩

/-- Projecting again closes a menu that is past the end of the new list. -/
theorem replaced_refilter
    (language : Language)
    (before app : App Version)
    (menu : app.menu.target = before.menu.target) :
    Replaced before (app.refilter language) (app.projection language) := by
  refine ⟨rfl, ?_⟩
  intro target opened
  unfold refilter at opened
  dsimp only at opened
  split at opened
  case isTrue past => cases opened
  case isFalse inside =>
      rw [opened] at inside
      rw [← menu]
      refine ⟨opened, fun _ => ?_⟩
      simpa using inside

theorem replaced_ensureConsoleScope
    (language : Language)
    (before app : App Version)
    (menu : app.menu.target = before.menu.target) :
    Replaced before (app.ensureConsoleScope language)
      (app.projection language) :=
  ⟨rfl, (replaced_refilter language before app menu).menu⟩

/-- Projecting twice is projecting once. -/
theorem replaced_refilter_ensureConsoleScope
    (language : Language)
    (before app : App Version)
    (menu : app.menu.target = before.menu.target) :
    Replaced before ((app.refilter language).ensureConsoleScope language)
      (app.projection language) := by
  apply (replaced_refilter language before app menu).trans
  exact replaced_ensureConsoleScope language _ (app.refilter language) rfl

/-- Applying a section or a tab leaves its list. -/
theorem replaced_listed
    (language : Language)
    (before app : App Version)
    (menu : app.menu.target = before.menu.target) :
    Replaced before (app.listed language) (app.projection language) := by
  unfold listed
  split
  case isTrue onConsole =>
      exact replaced_refilter_ensureConsoleScope language before app menu
  case isFalse offConsole =>
      exact (replaced_refilter language before app menu).listReplaced

/-! ## The daemon -/

theorem replaced_catalogLoaded
    (language : Language)
    (app : App Version)
    (request : Nat)
    (result : Except String (List LibraryItem)) :
    Replaced app (app.catalogLoaded language request result)
      (app.upcoming language (.catalogLoaded request result)) := by
  unfold catalogLoaded
  by_cases latest : request = app.catalogRequest
  · rw [if_neg (not_not.mpr latest)]
    cases result with
    | error message => exact replaced_of_same rfl rfl
    | ok entries =>
        change Replaced app _ (if _ then _ else _)
        simp only [latest, decide_true, Bool.true_and]
        split
        case isTrue changed =>
            apply Replaced.listReplaced
            exact replaced_refilter language _ _ rfl
        case isFalse unchanged => exact replaced_of_same rfl rfl
  · rw [if_pos latest]
    cases result with
    | error message => exact replaced_of_same rfl rfl
    | ok entries =>
        change Replaced app _ (if _ then _ else _)
        simp only [latest, decide_false, Bool.false_and]
        exact replaced_of_same rfl rfl

theorem menu_reselectPlatform
    (app : App Version)
    (selected : Option Int) :
    (app.reselectPlatform selected).menu.target = app.menu.target := by
  unfold reselectPlatform
  dsimp only
  split
  case isTrue lost => rfl
  case isFalse kept => rfl

theorem replaced_consolesLoaded
    (language : Language)
    (app : App Version)
    (source : Nat)
    (result : Except String (List (Int × String))) :
    Replaced app (app.consolesLoaded language source result)
      (app.upcoming language (.consolesLoaded source result)) := by
  unfold consolesLoaded
  by_cases current : source = app.console.source
  · rw [if_neg (not_not.mpr current)]
    cases result with
    | error message => exact replaced_of_same rfl rfl
    | ok platforms =>
        change Replaced app _ (if _ then _ else _)
        simp only [current, decide_true, Bool.true_and,
          decide_eq_true_eq]
        split
        case isTrue onConsole =>
            apply replaced_refilter_ensureConsoleScope
            exact menu_reselectPlatform (app.syncConsoles platforms) _
        case isFalse offConsole => exact replaced_of_same rfl rfl
  · rw [if_pos current]
    cases result with
    | error message => exact replaced_of_same rfl rfl
    | ok platforms =>
        change Replaced app _ (if _ then _ else _)
        simp only [current, decide_false, Bool.false_and]
        exact replaced_of_same rfl rfl

theorem replaced_consolePageLoaded
    (language : Language)
    (app : App Version)
    (scope : ConsoleScope)
    (generation : Nat)
    (result : Except String (Page LibraryItem Version)) :
    Replaced app (app.consolePageLoaded language scope generation result)
      (app.upcoming language
        (.consolePageLoaded scope generation result)) := by
  unfold consolePageLoaded
  cases result with
  | error message => exact replaced_of_same rfl rfl
  | ok page =>
      change Replaced app _ (if _ then _ else _)
      dsimp only
      split
      case isFalse elsewhere => exact replaced_of_same rfl rfl
      case isTrue onScreen =>
          simp only [Bool.and_eq_true, decide_eq_true_eq] at onScreen
          have merged : Replaced app
              ({ app with
                  console := (app.console.apply scope generation page).1
                }.refilter language)
              ((app.console.apply scope generation page).1.entries
                app.consoleScope) := by
            have projected := replaced_refilter language app
              { app with
                console := (app.console.apply scope generation page).1 } rfl
            rw [projection, if_pos (by exact onScreen.1.2)] at projected
            exact projected
          split
          case isTrue first => exact merged.listReplaced.pumpConsolePrefetch
          case isFalse later => exact merged.pumpConsolePrefetch

theorem replaced_consoleSearchSettled
    (language : Language)
    (app : App Version)
    (value : String) :
    Replaced app (app.consoleSearchSettled language value)
      (app.upcoming language (.consoleSearchSettled value)) := by
  unfold consoleSearchSettled
  change Replaced app _ (if _ then _ else _)
  by_cases current : value = app.searchValue
  · by_cases onConsole : app.curSection = .consoleGames
    · have shown := replaced_ensureConsoleScope language app app rfl
      rw [projection, if_pos onConsole] at shown
      rw [if_neg (by simp [current, onConsole]),
        if_pos (by simp [current, onConsole])]
      exact shown
    · rw [if_pos (by simp [onConsole]), if_neg (by simp [onConsole])]
      exact replaced_of_same rfl rfl
  · rw [if_pos (by simp [current]), if_neg (by simp [current])]
    exact replaced_of_same rfl rfl

/-- The pages of the connection go, and with them the list of the consoles. -/
theorem replaced_invalidateConsoleSource
    (language : Language)
    (before app : App Version)
    (visible : app.visible = before.visible)
    (menu : app.menu.target = before.menu.target)
    (place : app.curSection = before.curSection) :
    Replaced before (app.invalidateConsoleSource language)
      (if before.curSection = .consoleGames then [] else before.visible) := by
  unfold invalidateConsoleSource
  dsimp only
  rw [← place]
  split
  case isTrue onConsole =>
      have projected := replaced_refilter language before
        { app with
          console := app.console.invalidate
          filters := app.filters.clearSource } menu
      rw [projection, if_pos (by exact onConsole)] at projected
      exact projected
  case isFalse offConsole => exact replaced_of_same visible menu

theorem replaced_daemonChanged
    (language : Language)
    (app : App Version)
    (event : FeedEvent) :
    Replaced app (app.daemonChanged language event)
      (app.upcoming language (.daemonChanged event)) := by
  have same : ∀ stale : Bool,
      (if stale then app.loadCatalog else app).visible = app.visible ∧
        (if stale then app.loadCatalog else app).menu.target =
          app.menu.target ∧
        (if stale then app.loadCatalog else app).curSection =
          app.curSection := by
    intro stale
    cases stale with
    | false => exact ⟨rfl, rfl, rfl⟩
    | true => exact ⟨rfl, rfl, rfl⟩
  obtain ⟨visible, menu, place⟩ :=
    same (event.stalesCatalog && !app.retryCatalog)
  unfold daemonChanged
  dsimp only
  cases event with
  | changed event =>
      rw [if_neg (by simp)]
      exact replaced_of_same visible menu
  | resumed =>
      rw [if_pos rfl]
      exact replaced_invalidateConsoleSource language app _ visible menu place

theorem replaced_rommConnectionChanged
    (language : Language)
    (app : App Version) :
    Replaced app (app.rommConnectionChanged language)
      (app.upcoming language .rommConnectionChanged) := by
  have retired := replaced_invalidateConsoleSource language app app rfl rfl
    rfl
  unfold rommConnectionChanged
  change Replaced app _ (if _ then _ else _)
  split
  case isFalse offConsole =>
      rw [if_neg offConsole] at retired
      exact ⟨retired.visible, retired.menu⟩
  case isTrue onConsole =>
      rw [if_pos onConsole] at retired
      unfold invalidateConsoleSource at retired ⊢
      dsimp only at retired ⊢
      rw [if_pos onConsole] at retired ⊢
      have projected := replaced_refilter language
        ({ app with
            console := app.console.invalidate
            filters := app.filters.clearSource }.refilter language)
        { { app with
            console := app.console.invalidate
            filters := app.filters.clearSource }.refilter language with
          tabs := app.tabs.syncConsoleGroups []
          curGroup := none } rfl
      rw [projection, if_pos (by exact onConsole)] at projected
      exact retired.trans projected

theorem replaced_gridScrolled
    (app : App Version)
    (endOnScreen : Nat → Bool) :
    Replaced app (app.gridScrolled endOnScreen) app.visible := by
  unfold gridScrolled
  split
  case isFalse offConsole => exact replaced_of_same rfl rfl
  case isTrue onConsole =>
      split
      case h_1 next extended => exact replaced_of_same rfl rfl
      case h_2 ended => exact replaced_of_same rfl rfl

theorem replaced_facetsLoaded
    (language : Language)
    (app : App Version)
    (source : Nat)
    (platform : Option Int)
    (result : Except String (List Facet)) :
    Replaced app (app.facetsLoaded language source platform result)
      app.visible := by
  unfold facetsLoaded
  split
  case isTrue old => exact replaced_of_same rfl rfl
  case isFalse current =>
      cases result with
      | error message => exact replaced_of_same rfl rfl
      | ok facets => exact replaced_of_same rfl rfl

/-! ## The user -/

theorem replaced_selectSection
    (language : Language)
    (app : App Version)
    (target : Section) :
    Replaced app (app.selectSection language target)
      (app.upcoming language (.selectSection target)) := by
  unfold selectSection
  change Replaced app _ (if _ then _ else _)
  split
  case isTrue atOnce => exact replaced_listed language app _ rfl
  case isFalse slides => exact replaced_of_same rfl rfl

theorem replaced_selectGroup
    (language : Language)
    (app : App Version)
    (group : Option Nat) :
    Replaced app (app.selectGroup language group)
      (app.upcoming language (.selectGroup group)) := by
  unfold selectGroup
  change Replaced app _ (if _ then _ else _)
  split
  case isTrue atOnce => exact replaced_listed language app _ rfl
  case isFalse slides => exact replaced_of_same rfl rfl

theorem replaced_inputChanged
    (language : Language)
    (app : App Version)
    (value : String) :
    Replaced app (app.inputChanged language value)
      (app.upcoming language (.inputChanged value)) := by
  unfold inputChanged
  change Replaced app _ (if _ then _ else _)
  split
  case isTrue onConsole => exact replaced_of_same rfl rfl
  case isFalse offConsole =>
      apply Replaced.listReplaced
      exact replaced_refilter language app { app with searchValue := value }
        rfl

theorem replaced_updateFilters
    (language : Language)
    (app : App Version)
    (message : FilterMessage) :
    Replaced app (app.updateFilters language message)
      (app.filteredList language message) := by
  unfold updateFilters filteredList
  dsimp only
  cases (app.filters.update message).2 with
  | none => exact replaced_of_same rfl rfl
  | refilter =>
      dsimp only
      split
      case isTrue onConsole =>
          exact replaced_ensureConsoleScope language app
            { app with filters := (app.filters.update message).1 } rfl
      case isFalse offConsole =>
          apply Replaced.listReplaced
          exact replaced_refilter language app
            { app with filters := (app.filters.update message).1 } rfl

theorem replaced_stepFocus
    (language : Language)
    (app : App Version)
    (direction : Direction)
    (columns : Nat) :
    Replaced app (app.stepFocus language direction columns)
      (app.upcoming language (.stepFocus direction columns)) := by
  have filtered := replaced_updateFilters language
    { app with cursors := { app.cursors with ring := none } }
  unfold stepFocus
  change Replaced app _ (if _ then _ else _)
  dsimp only
  have drawer : (app.layout.drawerOpen && 0 < app.layout.facets) =
      (app.filters.isOpen && 0 < app.filters.facets.length) := by
    unfold layout
    cases app.filters.facets with
    | nil => simp
    | cons facet facets => simp
  rw [drawer]
  split
  case isTrue opened =>
      cases direction with
      | up => exact replaced_of_same rfl rfl
      | down => exact replaced_of_same rfl rfl
      | left => exact ⟨(filtered _).visible, (filtered _).menu⟩
      | right => exact ⟨(filtered _).visible, (filtered _).menu⟩
  case isFalse grid =>
      split
      case h_1 tile column lands => exact replaced_of_same rfl rfl
      case h_2 stays => exact replaced_of_same rfl rfl

theorem replaced_toggleControllerCompatibility
    (app : App Version)
    (index : Nat) :
    Replaced app (app.toggleControllerCompatibility index) app.visible := by
  unfold toggleControllerCompatibility
  split
  case h_1 entry found => exact replaced_of_same rfl rfl
  case h_2 missing => exact replaced_of_same rfl rfl

theorem replaced_moveToForm
    (language : Language)
    (app : App Version)
    (index : Nat)
    (form : FormFactor) :
    Replaced app (app.moveToForm language index form)
      (app.upcoming language (.moveToForm index form)) := by
  unfold moveToForm
  change Replaced app _ (match app.visible[index]? with
    | some entry => app.reformedList language
        (app.config.setFormOverride entry.id form)
    | none => app.visible)
  cases app.visible[index]? with
  | none => exact replaced_of_same rfl rfl
  | some entry => exact replaced_refilter language app _ rfl

theorem replaced_applyLiveConfig
    (language : Language)
    (app : App Version)
    (config : AppLibraryConfig) :
    Replaced app (app.applyLiveConfig language config)
      (app.upcoming language (.appConfigLoaded config)) := by
  unfold applyLiveConfig
  change Replaced app _ (if _ then _ else _)
  split
  case isFalse same => exact replaced_of_same rfl rfl
  case isTrue moved =>
      have projected : Replaced app
          (((app.projectCatalog config).syncLocalCatalog language).refilter
            language) (app.reformedList language config) :=
        replaced_refilter language app _ rfl
      dsimp only
      split
      case isTrue lost => exact projected.listReplaced
      case isFalse kept => exact projected

theorem target_moveSelection
    (menu : Menu)
    (delta : Int)
    (rows : Nat) :
    (menu.moveSelection delta rows).target = menu.target := by
  unfold Menu.moveSelection
  split
  case isTrue bare => rfl
  case isFalse filled => rfl

theorem replaced_moveMenu
    (app : App Version)
    (direction : Direction) :
    Replaced app (app.moveMenu direction) app.visible := by
  cases direction with
  | up => exact replaced_of_same rfl (target_moveSelection app.menu _ _)
  | down => exact replaced_of_same rfl (target_moveSelection app.menu _ _)
  | left => exact replaced_of_same rfl rfl
  | right => exact replaced_of_same rfl rfl

theorem replaced_openDetails
    (app : App Version)
    (index : Nat) :
    Replaced app (app.openDetails index) app.visible := by
  unfold openDetails
  split
  case h_1 entry found =>
      split
      case isTrue game => exact replaced_of_same rfl rfl
      case isFalse other => exact replaced_of_same rfl rfl
  case h_2 missing => exact replaced_of_same rfl rfl

theorem replaced_restoreDashboard
    (app : App Version) :
    Replaced app app.restoreDashboard app.visible := by
  unfold restoreDashboard
  dsimp only
  split
  case isTrue retrying => exact replaced_of_same rfl rfl
  case isFalse idle => exact replaced_of_same rfl rfl

/-! ## Slides -/

theorem tabSlide_advanceSectionSlide
    (language : Language)
    (app : App Version)
    (progress : Progress) :
    (app.advanceSectionSlide language progress).tabSlide = app.tabSlide := by
  unfold advanceSectionSlide
  split
  case h_1 still => rfl
  case h_2 slide moving =>
      split
      case h_1 swap =>
          unfold applySection applySectionWithGroup listed
          split
          case isTrue onConsole => rfl
          case isFalse offConsole => rfl
      case h_2 done => rfl
      case h_3 waiting => rfl

theorem replaced_advanceSectionSlide
    (language : Language)
    (app : App Version)
    (progress : Progress) :
    Replaced app (app.advanceSectionSlide language progress)
      (app.slidList language progress) := by
  unfold advanceSectionSlide slidList
  cases app.sectionSlide with
  | none => exact replaced_of_same rfl rfl
  | some slide =>
      dsimp only
      cases slide.step progress with
      | waiting => exact replaced_of_same rfl rfl
      | done => exact replaced_of_same rfl rfl
      | swap =>
          rw [if_pos rfl]
          exact replaced_listed language app
            ({ app with
                sectionSlide := some { slide with swapped := true }
              }.enterSection language slide.target none) rfl

theorem replaced_animate
    (language : Language)
    (app : App Version)
    (sectionProgress tabProgress : Progress) :
    Replaced app
      ((app.advanceSectionSlide language sectionProgress).advanceTabSlide
        language tabProgress)
      (app.upcoming language (.animate sectionProgress tabProgress)) := by
  have slid := replaced_advanceSectionSlide language app sectionProgress
  have waiting := tabSlide_advanceSectionSlide language app sectionProgress
  change Replaced app _ (match app.tabSlide with
    | some slide =>
        if slide.step tabProgress = .swap then
          ((app.advanceSectionSlide language sectionProgress).enterGroup
            language slide.target).projection language
        else
          app.slidList language sectionProgress
    | none => app.slidList language sectionProgress)
  unfold advanceTabSlide
  rw [waiting]
  cases app.tabSlide with
  | none => exact slid
  | some slide =>
      dsimp only
      cases slide.step tabProgress with
      | waiting => exact slid
      | done => exact ⟨slid.visible, slid.menu⟩
      | swap =>
          rw [if_pos rfl]
          apply slid.trans
          exact replaced_listed language
            (app.advanceSectionSlide language sectionProgress)
            ({ app.advanceSectionSlide language sectionProgress with
                tabSlide := some { slide with swapped := true }
              }.enterGroup language slide.target) rfl

/-! ## Every message -/

/-- Messages that open no menu and confirm no row. -/
theorem replaced_handle
    (language : Language)
    (app : App Version)
    (message : Message Version)
    (noContext : ∀ index, message ≠ .tileContext index)
    (noConfirm : message ≠ .activateMenuRow) :
    Replaced app (app.handle language message)
      (app.upcoming language message) := by
  cases message with
  | catalogLoaded request result =>
      exact replaced_catalogLoaded language app request result
  | consolesLoaded source result =>
      exact replaced_consolesLoaded language app source result
  | consolePageLoaded scope generation result =>
      exact replaced_consolePageLoaded language app scope generation result
  | gridScrolled endOnScreen => exact replaced_gridScrolled app endOnScreen
  | consoleSearchSettled value =>
      exact replaced_consoleSearchSettled language app value
  | daemonChanged event => exact replaced_daemonChanged language app event
  | facetsLoaded source platform result =>
      exact replaced_facetsLoaded language app source platform result
  | selectSection target => exact replaced_selectSection language app target
  | consolePressed platformId =>
      exact replaced_listed language app
        ({ app with page := .library }.enterSection language .consoleGames _)
        rfl
  | selectGroup group => exact replaced_selectGroup language app group
  | inputChanged value => exact replaced_inputChanged language app value
  | filters message => exact replaced_updateFilters language app message
  | activate index => exact replaced_of_same rfl rfl
  | toggleControllerCompatibility index =>
      exact replaced_toggleControllerCompatibility app index
  | moveToForm index form => exact replaced_moveToForm language app index form
  | tileContext index => exact absurd rfl (noContext index)
  | closeMenu =>
      refine ⟨rfl, ?_⟩
      intro target opened
      cases opened
  | moveMenu direction => exact replaced_moveMenu app direction
  | activateMenuRow => exact absurd rfl noConfirm
  | stepFocus direction columns =>
      exact replaced_stepFocus language app direction columns
  | walkRing backwards => exact replaced_of_same rfl rfl
  | openDetails index => exact replaced_openDetails app index
  | closeDetails origin => exact replaced_of_same rfl rfl
  | appConfigLoaded config =>
      exact replaced_applyLiveConfig language app config
  | rommConnectionChanged =>
      exact replaced_rommConnectionChanged language app
  | openDashboard => exact replaced_of_same rfl rfl
  | restoreDashboard => exact replaced_restoreDashboard app
  | openLibrary => exact replaced_of_same rfl rfl
  | openSearch => exact replaced_of_same rfl rfl
  | openSettings => exact replaced_of_same rfl rfl
  | animate sectionProgress tabProgress =>
      exact replaced_animate language app sectionProgress tabProgress

/-- A confirmed row leaves no menu open. -/
theorem menu_activateMenuRow
    (language : Language)
    (app : App Version)
    {target : Nat}
    (opened : (app.activateMenuRow language).menu.target = some target) :
    app.menuTarget = none ∧ app.activateMenuRow language = app := by
  have closed : ∀ (shut : App Version) action index,
      shut.menu.target = none →
      (shut.runAction language index action).menu.target ≠ some target := by
    intro shut action index isShut still
    cases action with
    | run =>
        change shut.menu.target = some target at still
        rw [isShut] at still
        cases still
    | toggleControllerCompatibility =>
        have kept := (replaced_toggleControllerCompatibility shut
          index).menu target still
        rw [isShut] at kept
        cases kept.1
    | moveToForm form =>
        have kept := (replaced_moveToForm language shut index form).menu
          target still
        rw [isShut] at kept
        cases kept.1
  unfold activateMenuRow at opened ⊢
  split at opened
  case h_1 shut => exact ⟨shut, rfl⟩
  case h_2 index isOpen =>
      dsimp only at opened
      split at opened
      case h_1 row action found => exact absurd opened (closed _ action row rfl)
      case h_2 bare => cases opened

theorem replaced_update
    (language : Language)
    (app : App Version)
    (message : Message Version)
    (noContext : ∀ index, message ≠ .tileContext index)
    (noConfirm : message ≠ .activateMenuRow) :
    Replaced app (app.update language message)
      (app.clampCursors.upcoming language message) := by
  have handled := replaced_handle language app.clampCursors message noContext
    noConfirm
  exact ⟨handled.visible, handled.menu⟩

/-- What a confirmed row does, it does to the entry under the menu. -/
theorem effects_activateMenuRow
    {app : App Version}
    {effect : Effect}
    (acts : effect ∈ app.effects .activateMenuRow) :
    ∃ target entry, app.menu.target = some target ∧
      app.visible[target]? = some entry ∧ effect.id = entry.id := by
  unfold effects at acts
  cases found : app.highlighted with
  | none =>
      rw [found] at acts
      cases acts
  | some row =>
      obtain ⟨target, action⟩ := row
      obtain ⟨index, opened, chosen⟩ := Option.bind_eq_some_iff.mp found
      obtain ⟨entry, held, chosen⟩ := Option.bind_eq_some_iff.mp chosen
      obtain ⟨listed, -, same⟩ := Option.map_eq_some_iff.mp chosen
      cases same
      refine ⟨target, entry, (Option.filter_eq_some_iff.mp opened).1, held,
        ?_⟩
      simp only [found, actionEffects, held] at acts
      cases action with
      | run =>
          rw [List.mem_singleton.mp acts]
          rfl
      | toggleControllerCompatibility =>
          rw [List.mem_singleton.mp acts]
          rfl
      | moveToForm form =>
          rw [List.mem_singleton.mp acts]
          rfl

end App

/-! ## Every run -/

/-- The shell, and the entry its menu was opened on. -/
structure MenuShell (Version : Type) where
  app : App Version
  opened : Option String

namespace MenuShell

/-- The entry the menu was last opened on after a message. -/
def openOn
    (shell : MenuShell Version) : Message Version → Option String
  | .tileContext index =>
      if shell.app.menu.target.isNone && index < shell.app.visible.length then
        (shell.app.visible[index]?).map LibraryItem.id
      else
        shell.opened
  | _ => shell.opened

/-- The shell from its start, message by message. -/
def machine
    (language : Language)
    (config : AppLibraryConfig) :
    Machine (MenuShell Version) (Message Version) Effect where
  start :=
    { app := .init config
      opened := none }
  step shell message :=
    ({ app := shell.app.update language message
       opened := shell.openOn message },
      shell.app.effects message)

/-- A message that puts no other entry under an open menu.  The cursors are
repaired before a message is handled. -/
def entryStays
    (language : Language)
    (shell : MenuShell Version)
    (message : Message Version) : Bool :=
  match shell.app.menu.target with
  | none => true
  | some target =>
      match shell.app.visible[target]?,
          (shell.app.clampCursors.upcoming language message)[target]? with
      | some entry, some other => other.id = entry.id
      | _, _ => true

/-- The menu is on the entry it was opened on. -/
def OnOpened (shell : MenuShell Version) : Prop :=
  ∀ target, shell.app.menu.target = some target →
    ∃ entry, shell.app.visible[target]? = some entry ∧
      shell.opened = some entry.id

theorem same_of_entryStays
    {language : Language}
    {shell : MenuShell Version}
    {message : Message Version}
    {target : Nat}
    {entry other : LibraryItem}
    (stays : shell.entryStays language message = true)
    (opened : shell.app.menu.target = some target)
    (held : shell.app.visible[target]? = some entry)
    (found : (shell.app.clampCursors.upcoming language message)[target]? =
      some other) :
    other.id = entry.id := by
  unfold entryStays at stays
  simp only [opened, held, found] at stays
  exact of_decide_eq_true stays

/-- Opening the menu notes the entry it is on. -/
theorem onOpened_tileContext
    {language : Language}
    {shell : MenuShell Version}
    (on : shell.OnOpened)
    (index : Nat) :
    OnOpened
      { app := shell.app.update language (.tileContext index)
        opened := shell.openOn (.tileContext index) } := by
  have updated : shell.app.update language (.tileContext index) =
      if index < shell.app.visible.length then
        { shell.app.clampCursors with menu := shell.app.menu.toggle index }
      else
        shell.app.clampCursors := rfl
  have noted : shell.openOn (.tileContext index) =
      if shell.app.menu.target.isNone &&
          index < shell.app.visible.length then
        (shell.app.visible[index]?).map LibraryItem.id
      else
        shell.opened := rfl
  rw [updated, noted]
  by_cases inside : index < shell.app.visible.length
  · rw [if_pos inside]
    intro target opened
    change (shell.app.menu.toggle index).target = some target at opened
    cases before : shell.app.menu.target with
    | some held =>
        unfold Menu.toggle at opened
        rw [before] at opened
        cases opened
    | none =>
        unfold Menu.toggle at opened
        rw [before] at opened
        cases opened
        refine ⟨shell.app.visible[index], ?_, ?_⟩
        · exact List.getElem?_eq_getElem inside
        · simp [inside]
  · rw [if_neg inside, if_neg (by simp [inside])]
    exact on

/-- A message that puts no other entry under the menu keeps the menu on the
entry it was opened on, or closes it. -/
theorem OnOpened.step
    {language : Language}
    {shell : MenuShell Version}
    (on : shell.OnOpened)
    {message : Message Version}
    (stays : shell.entryStays language message = true) :
    OnOpened
      { app := shell.app.update language message
        opened := shell.openOn message } := by
  by_cases context : ∃ index, message = .tileContext index
  · obtain ⟨index, rfl⟩ := context
    exact onOpened_tileContext on index
  have kept : shell.openOn message = shell.opened := by
    unfold openOn
    split
    case h_1 index => exact absurd ⟨index, rfl⟩ context
    case h_2 => rfl
  rw [kept]
  by_cases confirm : message = .activateMenuRow
  · subst confirm
    intro target opened
    obtain ⟨-, same⟩ := App.menu_activateMenuRow language
      shell.app.clampCursors opened
    change (shell.app.clampCursors.activateMenuRow language).menu.target =
      some target at opened
    change ∃ entry,
      (shell.app.clampCursors.activateMenuRow language).visible[target]? =
        some entry ∧ shell.opened = some entry.id
    rw [same] at opened ⊢
    exact on target opened
  · have replaced := App.replaced_update language shell.app message
      (fun index same => context ⟨index, same⟩) confirm
    intro target opened
    obtain ⟨held, inside⟩ := replaced.menu target opened
    obtain ⟨entry, shown, openedOn⟩ := on target held
    have bound := inside (List.getElem?_eq_some_iff.mp shown).1
    refine ⟨(shell.app.clampCursors.upcoming language message)[target], ?_,
      ?_⟩
    · change (shell.app.update language message).visible[target]? = _
      rw [replaced.visible]
      exact List.getElem?_eq_getElem bound
    · rw [same_of_entryStays stays held shown
        (List.getElem?_eq_getElem bound)]
      exact openedOn

/-- A row of the menu acts on the entry the menu was opened on.  In every run
in which no message puts another entry at the position of an open menu, what
a confirmed row launches, toggles or moves has the id of the entry the menu
was opened on; and if that entry is no longer in the list, the menu is closed
and confirming does nothing to any entry. -/
theorem menu_row_acts_on_opened_entry
    (language : Language)
    (config : AppLibraryConfig)
    (messages : List (Message Version))
    (along : (machine language config).Along
      (fun shell message => shell.entryStays language message = true)
      messages) :
    let shell := (machine language config).run messages
    (∀ effect ∈ shell.app.effects .activateMenuRow,
        shell.opened = some effect.id) ∧
      ((∀ entry ∈ shell.app.visible, shell.opened ≠ some entry.id) →
        shell.app.menu.target = none ∧
          shell.app.effects .activateMenuRow = []) := by
  have on : OnOpened ((machine language config).run messages) := by
    apply (machine language config).run_induction_along
      (fun shell message => shell.entryStays language message = true)
      OnOpened _ _ messages along
    · intro target opened
      cases opened
    · intro shell message on stays
      exact on.step stays
  constructor
  · intro effect acts
    obtain ⟨target, entry, opened, held, same⟩ :=
      App.effects_activateMenuRow acts
    obtain ⟨other, shown, openedOn⟩ := on target opened
    rw [held] at shown
    cases shown
    rw [same]
    exact openedOn
  · intro gone
    have closed : ((machine language config).run
        messages).app.menu.target = none := by
      cases opened : ((machine language config).run
          messages).app.menu.target with
      | none => rfl
      | some target =>
          obtain ⟨entry, shown, openedOn⟩ := on target opened
          exact absurd openedOn (gone entry (List.mem_of_getElem? shown))
    refine ⟨closed, List.eq_nil_iff_forall_not_mem.mpr ?_⟩
    intro effect acts
    obtain ⟨target, -, opened, -⟩ := App.effects_activateMenuRow acts
    rw [closed] at opened
    cases opened

/-- A shell with no settings. -/
def plain : Machine (MenuShell Unit) (Message Unit) Effect :=
  machine .ascii
    { desktopInputApps := []
      formOverrides := ∅ }

/-- A game of a local section. -/
def game (id name : String) : LibraryItem :=
  { LibraryItem.default with
    id := id
    name := name
    inSection := .pcGames }

/-- The library opened on two games, the menu on the first, and a new catalog
on its way. -/
def openMenu : List (Message Unit) :=
  [.catalogLoaded 1 (.ok [game "chess" "Chess", game "go" "Go"]),
    .openLibrary,
    .tileContext 0,
    .daemonChanged (.changed .libraryChanged)]

/-- A game is installed after the one under the menu, and the second row of
the menu is confirmed. -/
theorem menu_row_acts_on_opened_entry_installed :
    plain.Along
        (fun shell message => shell.entryStays .ascii message = true)
        (openMenu ++
          [.catalogLoaded 2 (.ok
              [game "chess" "Chess", game "doom" "Doom", game "go" "Go"]),
            .moveMenu .down]) ∧
      let shell := plain.run
        (openMenu ++
          [.catalogLoaded 2 (.ok
              [game "chess" "Chess", game "doom" "Doom", game "go" "Go"]),
            .moveMenu .down])
      (∀ effect ∈ shell.app.effects .activateMenuRow,
          shell.opened = some effect.id) ∧
        ((∀ entry ∈ shell.app.visible, shell.opened ≠ some entry.id) →
          shell.app.menu.target = none ∧
            shell.app.effects .activateMenuRow = []) := by
  have along : plain.Along
      (fun shell message => shell.entryStays .ascii message = true)
      (openMenu ++
        [.catalogLoaded 2 (.ok
            [game "chess" "Chess", game "doom" "Doom", game "go" "Go"]),
          .moveMenu .down]) := by
    apply Machine.along_of_alongFrom
    refine ⟨?_, ?_, ?_, ?_, ?_, ?_, trivial⟩
    all_goals decide
  exact ⟨along, menu_row_acts_on_opened_entry .ascii _ _ along⟩

/-- The menu is opened on chess.  With the games in the other order, and with
chess uninstalled, its first row launches go. -/
theorem menu_row_acts_on_another_entry :
    ((plain.run (openMenu ++
          [.catalogLoaded 2 (.ok
            [game "go" "Go", game "chess" "Chess"])])).opened =
          some "chess" ∧
        (plain.run (openMenu ++
          [.catalogLoaded 2 (.ok
            [game "go" "Go", game "chess" "Chess"])])).app.effects
              .activateMenuRow = [.launchManaged "go" "Go"]) ∧
      (plain.run (openMenu ++
          [.catalogLoaded 2 (.ok [game "go" "Go"])])).opened =
        some "chess" ∧
      (plain.run (openMenu ++
          [.catalogLoaded 2 (.ok [game "go" "Go"])])).app.visible =
        [game "go" "Go"] ∧
      (plain.run (openMenu ++
          [.catalogLoaded 2 (.ok [game "go" "Go"])])).app.effects
        .activateMenuRow = [.launchManaged "go" "Go"] := by
  decide

end MenuShell
end Frontend
end Hearthdeck
