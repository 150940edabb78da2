import Hearthdeck.Frontend.App

/-!
# The tab a slide lands on

A tab is chosen by its position in the strip on screen, and the position is
applied a moment later, when the slide has covered the grid.  Until then a
section may be applied and the strip may be rebuilt.  The position chosen is
then one of another strip: it names another section's or another platform's
tab, or none at all.

If neither happens while a slide waits, the tab shown is the tab chosen.
-/

namespace Hearthdeck
namespace Frontend

open Foundation

variable {Version : Type}

namespace App

/-! ## Which section and which tabs a message leaves -/

/-- The local tabs after an entry was moved to a form. -/
def movedTabs
    (language : Language)
    (app : App Version)
    (index : Nat)
    (form : FormFactor) : Sections :=
  match app.visible[index]? with
  | some entry => app.tabs.syncCategoryGroups language
      (app.catalog.project (app.config.setFormOverride entry.id form)).1.entries
  | none => app.tabs

/-- The tabs a message leaves, from the state before it. -/
def nextTabs
    (language : Language)
    (app : App Version) : Message Version → Sections
  | .catalogLoaded request (.ok entries) =>
      let replaced := app.catalog.replace entries app.config
      if request = app.catalogRequest && replaced.2 then
        app.tabs.syncCategoryGroups language replaced.1.entries
      else
        app.tabs
  | .consolesLoaded source (.ok platforms) =>
      if source = app.console.source then
        app.tabs.syncConsoleGroups platforms
      else
        app.tabs
  | .rommConnectionChanged => app.tabs.syncConsoleGroups []
  | .moveToForm index form => app.movedTabs language index form
  | .activateMenuRow =>
      match app.highlighted with
      | some (target, .moveToForm form) => app.movedTabs language target form
      | _ => app.tabs
  | .appConfigLoaded config =>
      if config.formOverrides ≠ app.config.formOverrides then
        app.tabs.syncCategoryGroups language
          (app.catalog.project config).1.entries
      else
        app.tabs
  | _ => app.tabs

/-- The section a message leaves, from the state before it. -/
def nextSection
    (app : App Version) : Message Version → Section
  | .selectSection target =>
      if app.page ≠ .library then target else app.curSection
  | .consolePressed _ => .consoleGames
  | .animate sectionProgress _ =>
      match app.sectionSlide with
      | some slide =>
          if slide.step sectionProgress = .swap then
            slide.target
          else
            app.curSection
      | none => app.curSection
  | _ => app.curSection

@[simp] theorem tabs_listed
    (language : Language)
    (app : App Version) :
    (app.listed language).tabs = app.tabs := by
  unfold listed
  split
  case isTrue onConsole => rfl
  case isFalse offConsole => rfl

@[simp] theorem curSection_listed
    (language : Language)
    (app : App Version) :
    (app.listed language).curSection = app.curSection := by
  unfold listed
  split
  case isTrue onConsole => rfl
  case isFalse offConsole => rfl

@[simp] theorem curGroup_listed
    (language : Language)
    (app : App Version) :
    (app.listed language).curGroup = app.curGroup := by
  unfold listed
  split
  case isTrue onConsole => rfl
  case isFalse offConsole => rfl

@[simp] theorem tabSlide_listed
    (language : Language)
    (app : App Version) :
    (app.listed language).tabSlide = app.tabSlide := by
  unfold listed
  split
  case isTrue onConsole => rfl
  case isFalse offConsole => rfl

/-- The tab on screen is a tab of the strip on screen. -/
def InRange (app : App Version) : Prop :=
  ∀ index, app.curGroup = some index → index < app.strip.length

/-- A step that leaves these tabs and this section, keeps the slide of the
strip, and keeps the tab on screen one of the strip. -/
structure Landed
    (before after : App Version)
    (tabs : Sections)
    (place : Section) : Prop where
  tabs : after.tabs = tabs
  place : after.curSection = place
  slide : after.tabSlide = before.tabSlide
  inRange : before.InRange → after.InRange

/-- A step that touches neither tabs nor section. -/
theorem landed_refl
    (app : App Version) :
    Landed app app app.tabs app.curSection :=
  ⟨rfl, rfl, rfl, fun inRange => inRange⟩

/-- A step counted from an earlier state with the same tab on screen. -/
theorem Landed.since
    {earlier before after : App Version}
    {tabs : Sections}
    {place : Section}
    (landed : Landed before after tabs place)
    (slide : before.tabSlide = earlier.tabSlide)
    (inRange : earlier.InRange → before.InRange) :
    Landed earlier after tabs place :=
  ⟨landed.tabs, landed.place, landed.slide.trans slide,
    fun held => landed.inRange (inRange held)⟩

/-- Drawing a console scope moves no tab. -/
theorem Landed.shown
    {language : Language}
    {before app : App Version}
    {tabs : Sections}
    {place : Section}
    (landed : Landed before app tabs place) :
    Landed before ((app.refilter language).ensureConsoleScope language) tabs
      place :=
  ⟨landed.tabs, landed.place, landed.slide, landed.inRange⟩

theorem lt_of_findIdx
    {groups : List AppGroup}
    {wanted : AppGroup → Bool}
    {index : Nat}
    (found : groups.findIdx? wanted = some index) :
    index < groups.length :=
  (List.findIdx?_eq_some_iff_getElem.mp found).1

theorem inRange_of_listed
    {language : Language}
    {app : App Version}
    (inRange : app.InRange) :
    (app.listed language).InRange := by
  unfold InRange strip at inRange ⊢
  rw [curGroup_listed, tabs_listed, curSection_listed]
  exact inRange

/-! ## The catalog -/

/-- The tab on screen is found again, or the all tab is shown. -/
theorem landed_syncLocalCatalog
    (language : Language)
    (app : App Version) :
    Landed app (app.syncLocalCatalog language)
      (app.tabs.syncCategoryGroups language app.catalog.entries)
      app.curSection := by
  refine ⟨rfl, rfl, rfl, ?_⟩
  intro _ index found
  obtain ⟨selected, -, position⟩ := Option.bind_eq_some_iff.mp found
  exact lt_of_findIdx position

theorem landed_catalogLoaded
    (language : Language)
    (app : App Version)
    (request : Nat)
    (result : Except String (List LibraryItem)) :
    Landed app (app.catalogLoaded language request result)
      (app.nextTabs language (.catalogLoaded request result))
      app.curSection := by
  unfold catalogLoaded
  by_cases latest : request = app.catalogRequest
  · rw [if_neg (not_not.mpr latest)]
    cases result with
    | error message => exact ⟨rfl, rfl, rfl, fun inRange => inRange⟩
    | ok entries =>
        simp only [nextTabs, latest, decide_true, Bool.true_and]
        split
        case isTrue changed =>
            have synced := landed_syncLocalCatalog language
              (app.storeCatalog entries)
            exact ⟨rfl, rfl, rfl, synced.inRange⟩
        case isFalse unchanged =>
            exact ⟨rfl, rfl, rfl, fun inRange => inRange⟩
  · rw [if_pos latest]
    cases result with
    | error message => exact landed_refl app
    | ok entries =>
        simp only [nextTabs, latest, decide_false, Bool.false_and]
        exact landed_refl app

theorem landed_moveToForm
    (language : Language)
    (app : App Version)
    (index : Nat)
    (form : FormFactor) :
    Landed app (app.moveToForm language index form)
      (app.movedTabs language index form) app.curSection := by
  unfold moveToForm movedTabs
  cases app.visible[index]? with
  | none => exact landed_refl app
  | some entry =>
      have synced := landed_syncLocalCatalog language
        (app.projectCatalog (app.config.setFormOverride entry.id form))
      exact ⟨rfl, rfl, rfl, synced.inRange⟩

theorem landed_applyLiveConfig
    (language : Language)
    (app : App Version)
    (config : AppLibraryConfig) :
    Landed app (app.applyLiveConfig language config)
      (app.nextTabs language (.appConfigLoaded config)) app.curSection := by
  unfold applyLiveConfig
  simp only [nextTabs]
  split
  case isFalse same => exact ⟨rfl, rfl, rfl, fun inRange => inRange⟩
  case isTrue moved =>
      have synced := landed_syncLocalCatalog language
        (app.projectCatalog config)
      split
      case isTrue lost => exact ⟨rfl, rfl, rfl, synced.inRange⟩
      case isFalse kept => exact ⟨rfl, rfl, rfl, synced.inRange⟩

/-! ## The consoles -/

/-- The tabs of the consoles are not those of a local section. -/
theorem get_syncConsoleGroups_of_local
    {place : Section}
    (offConsole : place ≠ .consoleGames)
    (tabs : Sections)
    (platforms : List (Int × String)) :
    (tabs.syncConsoleGroups platforms).get place = tabs.get place := by
  cases place with
  | pcGames => rfl
  | applications => rfl
  | consoleGames => exact absurd rfl offConsole

theorem reselectPlatform_same
    (app : App Version)
    (selected : Option Int) :
    (app.reselectPlatform selected).tabs = app.tabs ∧
      (app.reselectPlatform selected).curSection = app.curSection ∧
      (app.reselectPlatform selected).tabSlide = app.tabSlide := by
  unfold reselectPlatform
  dsimp only
  split
  case isTrue lost => exact ⟨rfl, rfl, rfl⟩
  case isFalse kept => exact ⟨rfl, rfl, rfl⟩

/-- The platform shown is found among the tabs of the consoles, or all of them
are shown. -/
theorem inRange_reselectPlatform
    (app : App Version)
    (selected : Option Int)
    (onConsole : app.curSection = .consoleGames) :
    (app.reselectPlatform selected).InRange := by
  intro index shown
  have found : (selected.bind fun id =>
      app.tabs.consoleGames.findIdx? fun group =>
        group.rommPlatformId = some id) = some index := by
    unfold reselectPlatform at shown
    dsimp only at shown
    split at shown
    case isTrue lost => exact shown
    case isFalse kept => exact shown
  obtain ⟨id, -, position⟩ := Option.bind_eq_some_iff.mp found
  obtain ⟨sameTabs, samePlace, -⟩ := reselectPlatform_same app selected
  unfold strip
  rw [sameTabs, samePlace, onConsole]
  exact lt_of_findIdx position

theorem landed_consolesLoaded
    (language : Language)
    (app : App Version)
    (source : Nat)
    (result : Except String (List (Int × String))) :
    Landed app (app.consolesLoaded language source result)
      (app.nextTabs language (.consolesLoaded source result))
      app.curSection := by
  unfold consolesLoaded
  by_cases current : source = app.console.source
  · rw [if_neg (not_not.mpr current)]
    cases result with
    | error message => exact landed_refl app
    | ok platforms =>
        simp only [nextTabs, current, if_true]
        split
        case isFalse offConsole =>
            refine ⟨rfl, rfl, rfl, ?_⟩
            intro inRange index shown
            change index < List.length
              ((app.tabs.syncConsoleGroups platforms).get app.curSection)
            rw [get_syncConsoleGroups_of_local offConsole]
            exact inRange index shown
        case isTrue onConsole =>
            obtain ⟨sameTabs, samePlace, sameSlide⟩ := reselectPlatform_same
              (app.syncConsoles platforms) app.consolePlatformId
            apply Landed.shown
            refine ⟨sameTabs, samePlace, sameSlide, ?_⟩
            intro _
            exact inRange_reselectPlatform (app.syncConsoles platforms)
              app.consolePlatformId onConsole
  · rw [if_pos current]
    cases result with
    | error message => exact landed_refl app
    | ok platforms =>
        simp only [nextTabs, current, if_false]
        exact landed_refl app

theorem landed_invalidateConsoleSource
    (language : Language)
    (app : App Version) :
    Landed app (app.invalidateConsoleSource language) app.tabs
      app.curSection := by
  unfold invalidateConsoleSource
  dsimp only
  split
  case isTrue onConsole => exact ⟨rfl, rfl, rfl, fun inRange => inRange⟩
  case isFalse offConsole => exact ⟨rfl, rfl, rfl, fun inRange => inRange⟩

theorem landed_rommConnectionChanged
    (language : Language)
    (app : App Version) :
    Landed app (app.rommConnectionChanged language)
      (app.tabs.syncConsoleGroups []) app.curSection := by
  have retired := landed_invalidateConsoleSource language app
  unfold rommConnectionChanged
  dsimp only
  split
  case isTrue onConsole =>
      refine ⟨?_, retired.place, retired.slide, ?_⟩
      · change (app.invalidateConsoleSource language).tabs.syncConsoleGroups
          [] = _
        rw [retired.tabs]
      · intro _ index shown
        cases shown
  case isFalse offConsole =>
      refine ⟨?_, retired.place, retired.slide, ?_⟩
      · change (app.invalidateConsoleSource language).tabs.syncConsoleGroups
          [] = _
        rw [retired.tabs]
      · intro inRange index shown
        change index < List.length
          (((app.invalidateConsoleSource language).tabs.syncConsoleGroups
            []).get (app.invalidateConsoleSource language).curSection)
        rw [retired.tabs, retired.place,
          get_syncConsoleGroups_of_local offConsole]
        have kept := retired.inRange inRange index shown
        unfold strip at kept
        rw [retired.tabs, retired.place] at kept
        exact kept

theorem landed_daemonChanged
    (language : Language)
    (app : App Version)
    (event : FeedEvent) :
    Landed app (app.daemonChanged language event) app.tabs
      app.curSection := by
  have read : Landed app
      (if event.stalesCatalog && !app.retryCatalog then app.loadCatalog
        else app) app.tabs app.curSection := by
    split
    case isTrue stale => exact ⟨rfl, rfl, rfl, fun inRange => inRange⟩
    case isFalse fresh => exact landed_refl app
  unfold daemonChanged
  dsimp only
  by_cases resumed : event = .resumed
  · rw [if_pos resumed]
    have retired := landed_invalidateConsoleSource language
      (if event.stalesCatalog && !app.retryCatalog then app.loadCatalog
        else app)
    exact ⟨retired.tabs.trans read.tabs, retired.place.trans read.place,
      retired.slide.trans read.slide,
      fun inRange => retired.inRange (read.inRange inRange)⟩
  · rw [if_neg resumed]
    exact read

/-! ## The user -/

theorem landed_consolePageLoaded
    (language : Language)
    (app : App Version)
    (scope : ConsoleScope)
    (generation : Nat)
    (result : Except String (Page LibraryItem Version)) :
    Landed app (app.consolePageLoaded language scope generation result)
      app.tabs app.curSection := by
  unfold consolePageLoaded
  cases result with
  | error message => exact ⟨rfl, rfl, rfl, fun inRange => inRange⟩
  | ok page =>
      dsimp only
      split
      case isFalse elsewhere => exact ⟨rfl, rfl, rfl, fun inRange => inRange⟩
      case isTrue onScreen =>
          split
          case isTrue first => exact ⟨rfl, rfl, rfl, fun inRange => inRange⟩
          case isFalse later => exact ⟨rfl, rfl, rfl, fun inRange => inRange⟩

theorem landed_gridScrolled
    (app : App Version)
    (endOnScreen : Nat → Bool) :
    Landed app (app.gridScrolled endOnScreen) app.tabs app.curSection := by
  unfold gridScrolled
  split
  case isFalse offConsole => exact landed_refl app
  case isTrue onConsole =>
      split
      case h_1 next extended => exact ⟨rfl, rfl, rfl, fun inRange => inRange⟩
      case h_2 ended => exact landed_refl app

theorem landed_facetsLoaded
    (language : Language)
    (app : App Version)
    (source : Nat)
    (platform : Option Int)
    (result : Except String (List Facet)) :
    Landed app (app.facetsLoaded language source platform result) app.tabs
      app.curSection := by
  unfold facetsLoaded
  split
  case isTrue old => exact landed_refl app
  case isFalse current =>
      cases result with
      | error message => exact landed_refl app
      | ok facets => exact ⟨rfl, rfl, rfl, fun inRange => inRange⟩

theorem landed_consoleSearchSettled
    (language : Language)
    (app : App Version)
    (value : String) :
    Landed app (app.consoleSearchSettled language value) app.tabs
      app.curSection := by
  unfold consoleSearchSettled
  split
  case isTrue superseded => exact landed_refl app
  case isFalse settled => exact ⟨rfl, rfl, rfl, fun inRange => inRange⟩

/-- A section is entered on its all tab, or on a tab of its strip. -/
theorem landed_applySectionWithGroup
    (language : Language)
    (app : App Version)
    (target : Section)
    (group : Option Nat)
    (inStrip : ∀ index, group = some index →
      index < (app.tabs.get target).length) :
    Landed app (app.applySectionWithGroup language target group) app.tabs
      target := by
  unfold applySectionWithGroup
  refine ⟨tabs_listed _ _, curSection_listed _ _, tabSlide_listed _ _, ?_⟩
  intro _
  exact inRange_of_listed inStrip

theorem landed_applySection
    (language : Language)
    (app : App Version)
    (target : Section) :
    Landed app (app.applySection language target) app.tabs target := by
  apply landed_applySectionWithGroup
  intro index absent
  cases absent

theorem landed_selectSection
    (language : Language)
    (app : App Version)
    (target : Section) :
    Landed app (app.selectSection language target) app.tabs
      (app.nextSection (.selectSection target)) := by
  unfold selectSection
  simp only [nextSection]
  have applied := landed_applySection language
    { app with page := .library } target
  by_cases arriving : app.page ≠ .library
  · rw [if_pos arriving, if_pos (by simp [arriving])]
    exact applied.since rfl fun inRange => inRange
  · rw [if_neg arriving]
    split
    case isFalse slides => exact ⟨rfl, rfl, rfl, fun inRange => inRange⟩
    case isTrue atOnce =>
        have same : target = app.curSection := by
          simpa [arriving] using atOnce
        exact ⟨applied.tabs, applied.place.trans same, applied.slide,
          applied.inRange⟩

theorem landed_consolePressed
    (language : Language)
    (app : App Version)
    (platformId : Int) :
    Landed app (app.consolePressed language platformId) app.tabs
      .consoleGames := by
  have applied := landed_applySectionWithGroup language
    { app with page := .library } .consoleGames
    (app.tabs.consoleGames.findIdx? fun group =>
      group.rommPlatformId = some platformId)
    (fun _ found => lt_of_findIdx found)
  exact applied.since rfl fun inRange => inRange

theorem landed_inputChanged
    (language : Language)
    (app : App Version)
    (value : String) :
    Landed app (app.inputChanged language value) app.tabs
      app.curSection := by
  unfold inputChanged
  dsimp only
  split
  case isTrue onConsole => exact ⟨rfl, rfl, rfl, fun inRange => inRange⟩
  case isFalse offConsole => exact ⟨rfl, rfl, rfl, fun inRange => inRange⟩

theorem landed_updateFilters
    (language : Language)
    (app : App Version)
    (message : FilterMessage) :
    Landed app (app.updateFilters language message) app.tabs
      app.curSection := by
  unfold updateFilters
  dsimp only
  split
  case h_1 quiet => exact ⟨rfl, rfl, rfl, fun inRange => inRange⟩
  case h_2 changed =>
      split
      case isTrue onConsole => exact ⟨rfl, rfl, rfl, fun inRange => inRange⟩
      case isFalse offConsole => exact ⟨rfl, rfl, rfl, fun inRange => inRange⟩

theorem landed_toggleControllerCompatibility
    (app : App Version)
    (index : Nat) :
    Landed app (app.toggleControllerCompatibility index) app.tabs
      app.curSection := by
  unfold toggleControllerCompatibility
  split
  case h_1 entry found => exact ⟨rfl, rfl, rfl, fun inRange => inRange⟩
  case h_2 missing => exact landed_refl app

theorem landed_moveMenu
    (app : App Version)
    (direction : Direction) :
    Landed app (app.moveMenu direction) app.tabs app.curSection := by
  cases direction with
  | up => exact ⟨rfl, rfl, rfl, fun inRange => inRange⟩
  | down => exact ⟨rfl, rfl, rfl, fun inRange => inRange⟩
  | left => exact landed_refl app
  | right => exact landed_refl app

/-- A row runs only while the menu is on a tile. -/
theorem menuTarget_of_highlighted
    {app : App Version}
    {target : Nat}
    {action : Action}
    (found : app.highlighted = some (target, action)) :
    app.menuTarget = some target := by
  obtain ⟨index, opened, row⟩ := Option.bind_eq_some_iff.mp found
  obtain ⟨entry, -, row⟩ := Option.bind_eq_some_iff.mp row
  obtain ⟨chosen, -, same⟩ := Option.map_eq_some_iff.mp row
  cases same
  exact opened

theorem landed_activateMenuRow
    (language : Language)
    (app : App Version) :
    Landed app (app.activateMenuRow language)
      (app.nextTabs language .activateMenuRow) app.curSection := by
  unfold activateMenuRow
  simp only [nextTabs]
  cases found : app.highlighted with
  | none =>
      split
      case h_1 shut => exact landed_refl app
      case h_2 opened => exact ⟨rfl, rfl, rfl, fun inRange => inRange⟩
  | some row =>
      obtain ⟨target, action⟩ := row
      rw [menuTarget_of_highlighted found]
      cases action with
      | run => exact ⟨rfl, rfl, rfl, fun inRange => inRange⟩
      | toggleControllerCompatibility =>
          have toggled := landed_toggleControllerCompatibility
            { app with menu := .closed }.clampCursors target
          exact toggled.since rfl fun inRange => inRange
      | moveToForm form =>
          have moved := landed_moveToForm language
            { app with menu := .closed }.clampCursors target form
          exact moved.since rfl fun inRange => inRange

theorem landed_stepFocus
    (language : Language)
    (app : App Version)
    (direction : Direction)
    (columns : Nat) :
    Landed app (app.stepFocus language direction columns) app.tabs
      app.curSection := by
  have filtered := landed_updateFilters language
    { app with cursors := { app.cursors with ring := none } }
  unfold stepFocus
  dsimp only
  split
  case isTrue drawer =>
      cases direction with
      | up => exact ⟨rfl, rfl, rfl, fun inRange => inRange⟩
      | down => exact ⟨rfl, rfl, rfl, fun inRange => inRange⟩
      | left => exact (filtered _).since rfl fun inRange => inRange
      | right => exact (filtered _).since rfl fun inRange => inRange
  case isFalse grid =>
      split
      case h_1 tile column lands =>
          exact ⟨rfl, rfl, rfl, fun inRange => inRange⟩
      case h_2 stays => exact ⟨rfl, rfl, rfl, fun inRange => inRange⟩

theorem landed_openDetails
    (app : App Version)
    (index : Nat) :
    Landed app (app.openDetails index) app.tabs app.curSection := by
  unfold openDetails
  split
  case h_1 entry found =>
      split
      case isTrue game => exact ⟨rfl, rfl, rfl, fun inRange => inRange⟩
      case isFalse other => exact landed_refl app
  case h_2 missing => exact landed_refl app

theorem landed_restoreDashboard
    (app : App Version) :
    Landed app app.restoreDashboard app.tabs app.curSection := by
  unfold restoreDashboard
  dsimp only
  split
  case isTrue retrying => exact ⟨rfl, rfl, rfl, fun inRange => inRange⟩
  case isFalse idle => exact ⟨rfl, rfl, rfl, fun inRange => inRange⟩

theorem landed_advanceSectionSlide
    (language : Language)
    (app : App Version)
    (sectionProgress tabProgress : Progress) :
    Landed app (app.advanceSectionSlide language sectionProgress) app.tabs
      (app.nextSection (.animate sectionProgress tabProgress)) := by
  unfold advanceSectionSlide
  simp only [nextSection]
  cases app.sectionSlide with
  | none => exact landed_refl app
  | some slide =>
      dsimp only
      cases slide.step sectionProgress with
      | swap =>
          have applied := landed_applySection language
            { app with sectionSlide := some { slide with swapped := true } }
            slide.target
          exact applied.since rfl fun inRange => inRange
      | done => exact ⟨rfl, rfl, rfl, fun inRange => inRange⟩
      | waiting => exact landed_refl app

/-! ## Every message -/

/-- Messages that choose no tab and advance no slide. -/
theorem landed_handle
    (language : Language)
    (app : App Version)
    (message : Message Version)
    (noChoice : ∀ group, message ≠ .selectGroup group)
    (noFrame : ∀ sectionProgress tabProgress,
      message ≠ .animate sectionProgress tabProgress) :
    Landed app (app.handle language message)
      (app.nextTabs language message) (app.nextSection message) := by
  cases message with
  | catalogLoaded request result =>
      exact landed_catalogLoaded language app request result
  | consolesLoaded source result =>
      exact landed_consolesLoaded language app source result
  | consolePageLoaded scope generation result =>
      exact landed_consolePageLoaded language app scope generation result
  | gridScrolled endOnScreen => exact landed_gridScrolled app endOnScreen
  | consoleSearchSettled value =>
      exact landed_consoleSearchSettled language app value
  | daemonChanged event => exact landed_daemonChanged language app event
  | facetsLoaded source platform result =>
      exact landed_facetsLoaded language app source platform result
  | selectSection target => exact landed_selectSection language app target
  | consolePressed platformId =>
      exact landed_consolePressed language app platformId
  | selectGroup group => exact absurd rfl (noChoice group)
  | inputChanged value => exact landed_inputChanged language app value
  | filters message => exact landed_updateFilters language app message
  | activate index => exact landed_refl app
  | toggleControllerCompatibility index =>
      exact landed_toggleControllerCompatibility app index
  | moveToForm index form => exact landed_moveToForm language app index form
  | tileContext index =>
      change Landed app
        (if index < app.visible.length then
          { app with menu := app.menu.toggle index }
        else app) app.tabs app.curSection
      split
      case isTrue inside => exact ⟨rfl, rfl, rfl, fun inRange => inRange⟩
      case isFalse past => exact landed_refl app
  | closeMenu => exact ⟨rfl, rfl, rfl, fun inRange => inRange⟩
  | moveMenu direction => exact landed_moveMenu app direction
  | activateMenuRow => exact landed_activateMenuRow language app
  | stepFocus direction columns =>
      exact landed_stepFocus language app direction columns
  | walkRing backwards => exact ⟨rfl, rfl, rfl, fun inRange => inRange⟩
  | openDetails index => exact landed_openDetails app index
  | closeDetails origin => exact ⟨rfl, rfl, rfl, fun inRange => inRange⟩
  | appConfigLoaded config =>
      exact landed_applyLiveConfig language app config
  | rommConnectionChanged =>
      exact landed_rommConnectionChanged language app
  | openDashboard => exact ⟨rfl, rfl, rfl, fun inRange => inRange⟩
  | restoreDashboard => exact landed_restoreDashboard app
  | openLibrary => exact ⟨rfl, rfl, rfl, fun inRange => inRange⟩
  | openSearch => exact ⟨rfl, rfl, rfl, fun inRange => inRange⟩
  | openSettings => exact ⟨rfl, rfl, rfl, fun inRange => inRange⟩
  | animate sectionProgress tabProgress =>
      exact absurd rfl (noFrame sectionProgress tabProgress)

/-- Repairing the cursors moves neither tabs nor section. -/
theorem nextTabs_clampCursors
    (language : Language)
    (app : App Version)
    (message : Message Version) :
    app.clampCursors.nextTabs language message =
      app.nextTabs language message := by
  cases message <;> rfl

theorem nextSection_clampCursors
    (app : App Version)
    (message : Message Version) :
    app.clampCursors.nextSection message = app.nextSection message := by
  cases message <;> rfl

theorem landed_update
    (language : Language)
    (app : App Version)
    (message : Message Version)
    (noChoice : ∀ group, message ≠ .selectGroup group)
    (noFrame : ∀ sectionProgress tabProgress,
      message ≠ .animate sectionProgress tabProgress) :
    Landed app (app.update language message)
      (app.nextTabs language message) (app.nextSection message) := by
  have handled := landed_handle language app.clampCursors message noChoice
    noFrame
  rw [nextTabs_clampCursors, nextSection_clampCursors] at handled
  exact handled.since rfl fun inRange => inRange

/-- Whether the slide of the strip is applied at a frame. -/
def swapsTab (app : App Version) (tabProgress : Progress) : Bool :=
  app.tabSlide.any fun slide => slide.step tabProgress = .swap

end App

/-! ## Every run -/

/-- What the user chose: the section on screen, the position in its strip, and
the group that stood there. -/
structure Choice where
  place : Section
  position : Option Nat
  group : Option AppGroup
  deriving DecidableEq

/-- What a slide showed when it was applied. -/
structure Shown where
  choice : Choice
  tabs : Sections
  place : Section
  index : Option Nat

/-- The tab shown is the tab chosen, in the section it was chosen in; or the
all tab, if that was chosen or the group is gone. -/
def Shown.right (shown : Shown) : Bool :=
  match shown.index with
  | none =>
      shown.choice.position.isNone ||
        shown.choice.group.all fun group =>
          !(shown.tabs.get shown.choice.place).contains group
  | some index =>
      shown.choice.group.isSome &&
        shown.place = shown.choice.place &&
        (shown.tabs.get shown.place)[index]? = shown.choice.group

/-- The shell, the choice its slide is for, and what its slides showed. -/
structure TabShell (Version : Type) where
  app : App Version
  choice : Choice
  swaps : List Shown

namespace TabShell

/-- The choice the slide is for after a message.  The tab already on screen is
applied without a slide. -/
def choose
    (shell : TabShell Version) : Message Version → Choice
  | .selectGroup group =>
      if group = shell.app.curGroup then
        shell.choice
      else
        { place := shell.app.curSection
          position := group
          group := group.bind fun index => shell.app.strip[index]? }
  | _ => shell.choice

/-- What a message shows by a slide, when it leaves a state. -/
def shows
    (shell : TabShell Version)
    (after : App Version) : Message Version → List Shown
  | .animate _ tabProgress =>
      if shell.app.swapsTab tabProgress then
        [{ choice := shell.choice
           tabs := after.tabs
           place := after.curSection
           index := after.curGroup }]
      else
        []
  | _ => []

/-- The shell after a message. -/
def next
    (language : Language)
    (shell : TabShell Version)
    (message : Message Version) : TabShell Version where
  app := shell.app.update language message
  choice := shell.choose message
  swaps := shell.swaps ++
    shell.shows (shell.app.update language message) message

/-- The shell from its start, message by message. -/
def machine
    (language : Language)
    (config : AppLibraryConfig) :
    Machine (TabShell Version) (Message Version) Effect where
  start :=
    { app := .init config
      choice :=
        { place := .pcGames
          position := none
          group := none }
      swaps := [] }
  step shell message :=
    (shell.next language message, shell.app.effects message)

/-- A message that leaves a choice alone: a tab is chosen from the strip on
screen, and while a slide waits for a group, the section stays and the group
stays at its position. -/
def undisturbed
    (language : Language)
    (shell : TabShell Version)
    (message : Message Version) : Bool :=
  (match message with
    | .selectGroup (some index) => index < shell.app.strip.length
    | _ => true) &&
  match shell.app.tabSlide with
  | some ⟨some index, false⟩ =>
      shell.app.nextSection message = shell.app.curSection &&
        ((shell.app.nextTabs language message).get
          shell.app.curSection)[index]? = shell.app.strip[index]?
  | _ => true

theorem lt_of_undisturbed
    {language : Language}
    {shell : TabShell Version}
    {index : Nat}
    (undisturbed : shell.undisturbed language (.selectGroup (some index)) =
      true) :
    index < shell.app.strip.length := by
  unfold TabShell.undisturbed at undisturbed
  exact of_decide_eq_true (Bool.and_eq_true_iff.mp undisturbed).1

theorem same_of_undisturbed
    {language : Language}
    {shell : TabShell Version}
    {message : Message Version}
    {index : Nat}
    (undisturbed : shell.undisturbed language message = true)
    (waits : shell.app.tabSlide = some ⟨some index, false⟩) :
    shell.app.nextSection message = shell.app.curSection ∧
      ((shell.app.nextTabs language message).get
        shell.app.curSection)[index]? = shell.app.strip[index]? := by
  unfold TabShell.undisturbed at undisturbed
  have second := (Bool.and_eq_true_iff.mp undisturbed).2
  rw [waits] at second
  simpa using second

/-- A choice is for the slide that waits. -/
structure Chosen (shell : TabShell Version) (target : Option Nat) : Prop where
  position : shell.choice.position = target
  group : ∀ index, target = some index →
    shell.choice.place = shell.app.curSection ∧
      ∃ group, shell.choice.group = some group ∧
        shell.app.strip[index]? = some group

/-- The invariant of a run that is not disturbed. -/
structure Faithful (shell : TabShell Version) : Prop where
  inRange : shell.app.InRange
  right : ∀ shown ∈ shell.swaps, shown.right = true
  waiting : ∀ target, shell.app.tabSlide = some ⟨target, false⟩ →
    shell.Chosen target

/-- A step that keeps the section and the group at the position of the slide
keeps the choice. -/
theorem Chosen.landed
    {shell : TabShell Version}
    {target : Option Nat}
    (chosen : shell.Chosen target)
    {after : App Version}
    {tabs : Sections}
    {place : Section}
    (landed : shell.app.Landed after tabs place)
    (same : ∀ index, target = some index → place = shell.app.curSection ∧
      (tabs.get shell.app.curSection)[index]? = shell.app.strip[index]?)
    (swaps : List Shown) :
    Chosen { app := after, choice := shell.choice, swaps := swaps }
      target := by
  refine ⟨chosen.position, ?_⟩
  intro index targeted
  obtain ⟨samePlace, sameGroup⟩ := same index targeted
  obtain ⟨chosenPlace, group, chosenGroup, stood⟩ :=
    chosen.group index targeted
  refine ⟨?_, group, chosenGroup, ?_⟩
  · change shell.choice.place = after.curSection
    rw [landed.place, samePlace]
    exact chosenPlace
  · change (after.tabs.get after.curSection)[index]? = some group
    rw [landed.tabs, landed.place, samePlace, sameGroup]
    exact stood

/-- A step that is no choice and no frame. -/
theorem faithful_of_landed
    {language : Language}
    {shell : TabShell Version}
    (faithful : shell.Faithful)
    {message : Message Version}
    (undisturbed : shell.undisturbed language message = true)
    {after : App Version}
    (landed : shell.app.Landed after (shell.app.nextTabs language message)
      (shell.app.nextSection message)) :
    Faithful
      { app := after, choice := shell.choice, swaps := shell.swaps } := by
  refine ⟨landed.inRange faithful.inRange, faithful.right, ?_⟩
  intro target waits
  have waited : shell.app.tabSlide = some ⟨target, false⟩ := by
    rw [← landed.slide]
    exact waits
  apply (faithful.waiting target waited).landed landed
  intro index targeted
  rw [targeted] at waited
  exact same_of_undisturbed undisturbed waited

/-- The tab already on screen is applied at once, any other waits for its
slide. -/
theorem faithful_selectGroup
    {language : Language}
    {shell : TabShell Version}
    (faithful : shell.Faithful)
    {group : Option Nat}
    (undisturbed : shell.undisturbed language (.selectGroup group) = true) :
    (shell.next language (.selectGroup group)).Faithful := by
  by_cases same : group = shell.app.curGroup
  · have kept : (shell.next language (.selectGroup group)) =
        { app := shell.app.clampCursors.applyGroup language group
          choice := shell.choice
          swaps := shell.swaps } := by
      have applied : shell.app.update language (.selectGroup group) =
          shell.app.clampCursors.applyGroup language group := by
        change shell.app.clampCursors.selectGroup language group = _
        unfold App.selectGroup
        exact if_pos same
      unfold next
      rw [applied]
      simp [choose, same, shows]
    rw [kept]
    apply faithful_of_landed faithful undisturbed
    unfold App.applyGroup
    refine ⟨App.tabs_listed _ _, App.curSection_listed _ _,
      App.tabSlide_listed _ _, ?_⟩
    intro inRange
    apply App.inRange_of_listed
    intro index shown
    exact inRange index (same.symm.trans shown)
  · have started : (shell.next language (.selectGroup group)) =
        { app := { shell.app.clampCursors with
            tabSlide := some ⟨group, false⟩ }
          choice :=
            { place := shell.app.curSection
              position := group
              group := group.bind fun index => shell.app.strip[index]? }
          swaps := shell.swaps } := by
      have slides : shell.app.update language (.selectGroup group) =
          { shell.app.clampCursors with
            tabSlide := some ⟨group, false⟩ } := by
        change shell.app.clampCursors.selectGroup language group = _
        unfold App.selectGroup
        exact if_neg same
      unfold next
      rw [slides]
      simp [choose, same, shows]
    rw [started]
    refine ⟨faithful.inRange, faithful.right, ?_⟩
    intro target waits
    cases waits
    refine ⟨rfl, ?_⟩
    intro index targeted
    cases targeted
    have inside := lt_of_undisturbed undisturbed
    refine ⟨rfl, shell.app.strip[index], ?_, ?_⟩
    · exact List.getElem?_eq_getElem inside
    · exact List.getElem?_eq_getElem inside

/-- A slide swaps only once. -/
theorem not_swapped_of_swap
    {Target : Type}
    {slide : Slide Target}
    {progress : Progress}
    (swaps : slide.step progress = .swap) :
    slide.swapped = false := by
  unfold Slide.step at swaps
  split at swaps
  case isTrue fresh =>
      simp only [Bool.and_eq_true, Bool.not_eq_true'] at fresh
      exact fresh.1
  case isFalse old =>
      split at swaps
      case isTrue ended => cases swaps
      case isFalse early => cases swaps

/-- The slide that is applied shows the tab chosen. -/
theorem right_of_chosen
    {shell : TabShell Version}
    {target : Option Nat}
    (chosen : shell.Chosen target)
    {after : App Version}
    (same : ∀ index, target = some index →
      after.curSection = shell.app.curSection ∧
        (after.tabs.get after.curSection)[index]? = shell.app.strip[index]?)
    (applied : after.curGroup = target) :
    Shown.right
      { choice := shell.choice
        tabs := after.tabs
        place := after.curSection
        index := after.curGroup } = true := by
  unfold Shown.right
  cases target with
  | none =>
      simp only [applied]
      rw [chosen.position]
      rfl
  | some index =>
      obtain ⟨samePlace, sameGroup⟩ := same index rfl
      obtain ⟨chosenPlace, group, chosenGroup, stood⟩ :=
        chosen.group index rfl
      rw [samePlace] at sameGroup
      simp only [applied, chosenGroup, chosenPlace, samePlace, sameGroup,
        stood]
      simp

/-- A frame applies what waits, and the section before the tab. -/
theorem faithful_animate
    {language : Language}
    {shell : TabShell Version}
    (faithful : shell.Faithful)
    {sectionProgress tabProgress : Progress}
    (undisturbed : shell.undisturbed language
      (.animate sectionProgress tabProgress) = true) :
    (shell.next language
      (.animate sectionProgress tabProgress)).Faithful := by
  let middle := shell.app.clampCursors.advanceSectionSlide language
    sectionProgress
  have moved : shell.app.Landed middle shell.app.tabs
      (shell.app.nextSection (.animate sectionProgress tabProgress)) :=
    (App.landed_advanceSectionSlide language shell.app.clampCursors
      sectionProgress tabProgress).since rfl fun inRange => inRange
  have kept : Faithful
      { app := middle, choice := shell.choice, swaps := shell.swaps } :=
    faithful_of_landed faithful undisturbed moved
  have reached : shell.next language (.animate sectionProgress tabProgress) =
      { app := middle.advanceTabSlide language tabProgress
        choice := shell.choice
        swaps := shell.swaps ++
          if shell.app.swapsTab tabProgress then
            [{ choice := shell.choice
               tabs := (middle.advanceTabSlide language tabProgress).tabs
               place := (middle.advanceTabSlide language
                tabProgress).curSection
               index := (middle.advanceTabSlide language
                tabProgress).curGroup }]
          else
            [] } := rfl
  rw [reached]
  have slides : middle.tabSlide = shell.app.tabSlide := moved.slide
  unfold App.advanceTabSlide App.swapsTab
  rw [slides]
  cases sliding : shell.app.tabSlide with
  | none =>
      simp only [Option.any_none, Bool.false_eq_true, if_false,
        List.append_nil]
      exact kept
  | some slide =>
      simp only [Option.any_some]
      cases stepped : slide.step tabProgress with
      | waiting =>
          simp only [reduceCtorEq, decide_false, Bool.false_eq_true, if_false,
            List.append_nil]
          exact kept
      | done =>
          simp only [reduceCtorEq, decide_false, Bool.false_eq_true, if_false,
            List.append_nil]
          refine ⟨kept.inRange, kept.right, ?_⟩
          intro target waits
          cases waits
      | swap =>
          simp only [decide_true, if_true]
          have waits : shell.app.tabSlide = some ⟨slide.target, false⟩ := by
            rw [sliding, ← not_swapped_of_swap stepped]
          have chosen := faithful.waiting slide.target waits
          -- The strip under the cover is still the one chosen from.
          have same : ∀ index, slide.target = some index →
              middle.curSection = shell.app.curSection ∧
                (middle.tabs.get middle.curSection)[index]? =
                  shell.app.strip[index]? := by
            intro index targeted
            rw [targeted] at waits
            have stays := (same_of_undisturbed undisturbed waits).1
            rw [moved.tabs, moved.place, stays]
            exact ⟨rfl, rfl⟩
          unfold App.applyGroup
          refine ⟨?_, ?_, ?_⟩
          · apply App.inRange_of_listed
            intro index shown
            change slide.target = some index at shown
            obtain ⟨-, group, -, stood⟩ := chosen.group index shown
            have held := (same index shown).2
            rw [stood] at held
            exact (List.getElem?_eq_some_iff.mp held).1
          · intro shown member
            rcases List.mem_append.mp member with earlier | latest
            · exact faithful.right shown earlier
            · rw [List.mem_singleton.mp latest]
              apply right_of_chosen chosen
              · intro index targeted
                rw [App.curSection_listed, App.tabs_listed]
                exact same index targeted
              · rw [App.curGroup_listed]
                rfl
          · intro target waiting
            change (App.listed language _).tabSlide = _ at waiting
            rw [App.tabSlide_listed] at waiting
            cases waiting

/-- A message that disturbs no choice keeps the invariant. -/
theorem Faithful.step
    {language : Language}
    {shell : TabShell Version}
    (faithful : shell.Faithful)
    {message : Message Version}
    (undisturbed : shell.undisturbed language message = true) :
    (shell.next language message).Faithful := by
  by_cases chooses : ∃ group, message = .selectGroup group
  · obtain ⟨group, rfl⟩ := chooses
    exact faithful_selectGroup faithful undisturbed
  by_cases frame : ∃ sectionProgress tabProgress,
      message = .animate sectionProgress tabProgress
  · obtain ⟨sectionProgress, tabProgress, rfl⟩ := frame
    exact faithful_animate faithful undisturbed
  have landed := App.landed_update language shell.app message
    (fun group same => chooses ⟨group, same⟩)
    (fun sectionProgress tabProgress same =>
      frame ⟨sectionProgress, tabProgress, same⟩)
  have choice : shell.choose message = shell.choice := by
    unfold choose
    split
    case h_1 group => exact absurd ⟨group, rfl⟩ chooses
    case h_2 => rfl
  have shows : shell.shows (shell.app.update language message) message =
      [] := by
    unfold TabShell.shows
    split
    case h_1 sectionProgress tabProgress =>
        exact absurd ⟨sectionProgress, tabProgress, rfl⟩ frame
    case h_2 => rfl
  unfold next
  rw [choice, shows, List.append_nil]
  exact faithful_of_landed faithful undisturbed landed

/-- The tab shown is the tab chosen.  In every run in which each tab is chosen
from the strip on screen, and in which no message applies another section or
puts another group at the position of a slide while the slide waits, the tab
on screen is one of its strip, and every slide applied has shown the group
that stood at the position chosen, in the section it was chosen in. -/
theorem tab_shown_is_tab_chosen
    (language : Language)
    (config : AppLibraryConfig)
    (messages : List (Message Version))
    (along : (machine language config).Along
      (fun shell message => shell.undisturbed language message = true)
      messages) :
    let shell := (machine language config).run messages
    (∀ index, shell.app.curGroup = some index →
        index < (shell.app.tabs.get shell.app.curSection).length) ∧
      ∀ shown ∈ shell.swaps, shown.right = true := by
  have faithful : Faithful ((machine language config).run messages) := by
    apply (machine language config).run_induction_along
      (fun shell message => shell.undisturbed language message = true)
      Faithful _ _ messages along
    · refine ⟨?_, ?_, ?_⟩
      · intro index shown
        cases shown
      · intro shown member
        cases member
      · intro target waits
        cases waits
    · intro shell message faithful undisturbed
      exact faithful.step undisturbed
  exact ⟨faithful.inRange, faithful.right⟩

/-- A shell with no settings. -/
def plain : Machine (TabShell Unit) (Message Unit) Effect :=
  machine .ascii
    { desktopInputApps := []
      formOverrides := ∅ }

/-- The library opened on the applications, of which one wants a desktop. -/
def openApplications : List (Message Unit) :=
  [.catalogLoaded 1 (.ok
      [{ LibraryItem.default with
          id := "writer"
          formFactor := some .desktop }]),
    .openLibrary,
    .selectSection .applications,
    .animate .late .early,
    .animate .over .early]

/-- The Desktop tab is chosen, and its slide lands on it. -/
theorem tab_shown_is_tab_chosen_desktop :
    plain.Along
        (fun shell message => shell.undisturbed .ascii message = true)
        (openApplications ++ [.selectGroup (some 0), .animate .early .late]) ∧
      let shell := plain.run
        (openApplications ++ [.selectGroup (some 0), .animate .early .late])
      (∀ index, shell.app.curGroup = some index →
          index < (shell.app.tabs.get shell.app.curSection).length) ∧
        ∀ shown ∈ shell.swaps, shown.right = true := by
  have along : plain.Along
      (fun shell message => shell.undisturbed .ascii message = true)
      (openApplications ++
        [.selectGroup (some 0), .animate .early .late]) := by
    apply Machine.along_of_alongFrom
    refine ⟨?_, ?_, ?_, ?_, ?_, ?_, ?_, trivial⟩
    all_goals decide
  exact ⟨along, tab_shown_is_tab_chosen .ascii _ _ along⟩

/-- The Desktop tab is chosen, and before its slide is applied the PC games
are. -/
def sectionOvertakes : List (Message Unit) :=
  openApplications ++
    [.selectGroup (some 0), .selectSection .pcGames, .animate .late .late]

/-- The first of two platforms is chosen, and before its slide is applied the
daemon reports them in the other order. -/
def platformsRenumbered : List (Message Unit) :=
  [.openLibrary,
    .selectSection .consoleGames,
    .animate .late .early,
    .animate .over .early,
    .consolesLoaded 0 (.ok [(1, "NES"), (2, "SNES")]),
    .selectGroup (some 0),
    .consolesLoaded 0 (.ok [(2, "SNES"), (1, "NES")]),
    .animate .early .late]

/-- A slide applied after its strip has changed shows the first tab of a
section that has none, or another platform's tab. -/
theorem slide_lands_on_another_strip :
    ((plain.run sectionOvertakes).app.curSection = .pcGames ∧
        (plain.run sectionOvertakes).app.curGroup = some 0 ∧
        (plain.run sectionOvertakes).app.tabs.get .pcGames = [] ∧
        ∃ shown ∈ (plain.run sectionOvertakes).swaps,
          shown.right = false) ∧
      (plain.run platformsRenumbered).choice.group.map AppGroup.name =
        some "NES" ∧
      (plain.run platformsRenumbered).app.curGroup = some 0 ∧
      (plain.run platformsRenumbered).app.strip.map AppGroup.name =
        ["SNES", "NES"] ∧
      ∃ shown ∈ (plain.run platformsRenumbered).swaps,
        shown.right = false := by
  decide

end TabShell
end Frontend
end Hearthdeck
