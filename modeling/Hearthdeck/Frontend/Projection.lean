import Hearthdeck.Frontend.App

/-!
# The grid is the projection of the state

The list the grid draws is computed when something it depends on changes, and
kept.  After every message it is the list the state asks for: the records of
the console scope on screen, or the catalog narrowed to what is selected.  The
one exception is a term typed over the console grid, which waits for the user
to stop typing.

A scope of the console cache can be dropped while the grid shows it only if it
is neither a tab nor the most recently used query, so the invariant also says
that the scope on screen is one of these.
-/

namespace Hearthdeck
namespace Frontend

open Foundation

variable {Version : Type}

namespace App

/-! ## What a state shows -/

/-- The list drawn is the one the state asks for, and nothing that is fetched
in the background will drop it. -/
structure Drawn (language : Language) (app : App Version) : Prop where
  shown : app.visible = app.projection language
  steady : app.curSection = .consoleGames →
    app.console.Steady app.consoleScope

/-- The cursor and the menu are on tiles of the grid. -/
structure Pointed (app : App Version) : Prop where
  tile : app.cursors.tile < app.visible.length ∨ app.visible = []
  menu : ∀ target, app.menu.target = some target →
    target < app.visible.length

/-- What a message leaves: the cache in order, the cursors on tiles, and the
list drawn afresh, or drawn if it was before and the search and the section
are still the same. -/
structure Redrawn
    (language : Language)
    (before after : App Version) : Prop where
  orderly : after.console.Orderly
  pointed : after.Pointed
  drawn : after.Drawn language ∨
    (after.curSection = before.curSection ∧
      after.searchValue = before.searchValue ∧
      (before.Drawn language → after.Drawn language))

theorem redrawn_refl
    {language : Language}
    {app : App Version}
    (orderly : app.console.Orderly)
    (pointed : app.Pointed) :
    Redrawn language app app :=
  ⟨orderly, pointed, .inr ⟨rfl, rfl, fun drawn => drawn⟩⟩

theorem Redrawn.trans
    {language : Language}
    {first second third : App Version}
    (earlier : Redrawn language first second)
    (later : Redrawn language second third) :
    Redrawn language first third := by
  refine ⟨later.orderly, later.pointed, ?_⟩
  rcases later.drawn with drawn | ⟨sameSection, sameSearch, kept⟩
  · exact .inl drawn
  · rcases earlier.drawn with
      drawn | ⟨earlierSection, earlierSearch, keptBefore⟩
    · exact .inl (kept drawn)
    · exact .inr ⟨sameSection.trans earlierSection,
        sameSearch.trans earlierSearch,
        fun drawn => kept (keptBefore drawn)⟩

/-- A step that changes nothing the list, the cursors and the menu are about. -/
theorem redrawn_of_same
    {language : Language}
    {before after : App Version}
    (orderly : after.console.Orderly)
    (pointed : after.Pointed)
    (sameSection : after.curSection = before.curSection)
    (sameSearch : after.searchValue = before.searchValue)
    (kept : before.Drawn language → after.Drawn language) :
    Redrawn language before after :=
  ⟨orderly, pointed, .inr ⟨sameSection, sameSearch, kept⟩⟩

/-- Settings, reads on their way, slides and the page are not drawn. -/
theorem redrawn_frame
    {language : Language}
    {app : App Version}
    (orderly : app.console.Orderly)
    (pointed : app.Pointed)
    (config : AppLibraryConfig)
    (catalogRequest : Nat)
    (retryCatalog : Bool)
    (sectionSlide : Option (Slide Section))
    (tabSlide : Option (Slide (Option Nat)))
    (page : ShellPage) :
    Redrawn language app
      { app with
        config := config
        catalogRequest := catalogRequest
        retryCatalog := retryCatalog
        sectionSlide := sectionSlide
        tabSlide := tabSlide
        page := page } := by
  refine redrawn_of_same orderly ⟨pointed.tile, pointed.menu⟩ rfl rfl ?_
  intro drawn
  exact ⟨drawn.shown, drawn.steady⟩

/-! ## Cursors -/

theorem tile_clamp
    (cursors : Cursors)
    (layout : Layout)
    (visible : List LibraryItem)
    (tiles : layout.tiles = visible.length) :
    (cursors.clamp layout).tile < visible.length ∨ visible = [] := by
  cases visible with
  | nil => exact .inr rfl
  | cons entry entries =>
      refine .inl ?_
      unfold Cursors.clamp
      simp only [tiles, List.length_cons]
      omega

theorem Pointed.clampCursors
    {app : App Version}
    (pointed : app.Pointed) :
    app.clampCursors.Pointed :=
  ⟨tile_clamp app.cursors app.layout app.visible rfl, pointed.menu⟩

theorem pointed_refilter
    (language : Language)
    (app : App Version) :
    (app.refilter language).Pointed := by
  constructor
  · exact tile_clamp app.cursors _ _ rfl
  · intro target found
    unfold refilter at found ⊢
    dsimp only at found ⊢
    split at found
    case isTrue past => cases found
    case isFalse inside =>
        rw [found] at inside
        simpa using inside

theorem Pointed.listReplaced
    {app : App Version}
    (pointed : app.Pointed) :
    app.listReplaced.Pointed := by
  refine ⟨?_, pointed.menu⟩
  cases shown : app.visible with
  | nil => exact .inr shown
  | cons entry entries =>
      refine .inl ?_
      change 0 < app.visible.length
      rw [shown]
      exact Nat.succ_pos entries.length

/-- A step inside the grid lands on a tile. -/
theorem lt_of_stepTile
    {tile column tiles columns nextTile nextColumn : Nat}
    {direction : Direction}
    (step : Cursors.stepTile tile column direction tiles columns =
      some (nextTile, nextColumn)) :
    nextTile < tiles := by
  unfold Cursors.stepTile at step
  split at step
  case isTrue empty => cases step
  case isFalse filled =>
      have bound : ∀ index, min index (tiles - 1) < tiles := by
        intro index
        omega
      cases direction with
      | left =>
          dsimp only at step
          split at step
          case isFalse edge => cases step
          case isTrue inner =>
              cases step
              have := bound tile
              omega
      | right =>
          dsimp only at step
          split at step
          case isFalse edge => cases step
          case isTrue inner =>
              cases step
              simp only [Bool.and_eq_true, decide_eq_true_eq] at inner
              omega
      | up =>
          dsimp only at step
          split at step
          case isFalse edge => cases step
          case isTrue inner =>
              cases step
              have rowBound := Nat.div_mul_le_self (min tile (tiles - 1))
                (max columns 1)
              have := bound tile
              omega
      | down =>
          dsimp only at step
          split at step
          case isFalse edge => cases step
          case isTrue inner =>
              cases step
              exact bound _

/-! ## Drawing -/

theorem projection_of_console
    {app : App Version}
    (language : Language)
    (onConsole : app.curSection = .consoleGames) :
    app.projection language = app.console.entries app.consoleScope :=
  if_pos onConsole

theorem projection_of_local
    {app : App Version}
    (language : Language)
    (offConsole : app.curSection ≠ .consoleGames) :
    app.projection language =
      app.tabs.filteredByFacets language app.curSection app.curGroup
        app.searchValue app.catalog.entries app.filters.selected :=
  if_neg offConsole

theorem Drawn.clampCursors
    {language : Language}
    {app : App Version}
    (drawn : app.Drawn language) :
    app.clampCursors.Drawn language :=
  ⟨drawn.shown, drawn.steady⟩

/-- The list just projected is the one the state asks for. -/
theorem drawn_refilter
    (language : Language)
    (app : App Version)
    (steady : app.curSection = .consoleGames →
      app.console.Steady app.consoleScope) :
    (app.refilter language).Drawn language :=
  ⟨rfl, steady⟩

theorem redrawn_refilter
    {language : Language}
    {before app : App Version}
    (orderly : app.console.Orderly)
    (steady : app.curSection = .consoleGames →
      app.console.Steady app.consoleScope) :
    Redrawn language before (app.refilter language) :=
  ⟨orderly, pointed_refilter language app,
    .inl (drawn_refilter language app steady)⟩

/-- Projecting again after a change that leaves the console grid alone. -/
theorem redrawn_refilter_of_same
    {language : Language}
    {before app : App Version}
    (orderly : before.console.Orderly)
    (sameConsole : app.console = before.console)
    (sameSection : app.curSection = before.curSection)
    (sameSearch : app.searchValue = before.searchValue)
    (sameScope : before.curSection = .consoleGames →
      app.consoleScope = before.consoleScope) :
    Redrawn language before (app.refilter language) := by
  apply redrawn_of_same
  · change app.console.Orderly
    rw [sameConsole]
    exact orderly
  · exact pointed_refilter language app
  · exact sameSection
  · exact sameSearch
  · intro drawn
    apply drawn_refilter
    intro onConsole
    rw [sameSection] at onConsole
    rw [sameConsole, sameScope onConsole]
    exact drawn.steady onConsole

theorem Redrawn.listReplaced
    {language : Language}
    {before app : App Version}
    (redrawn : Redrawn language before app) :
    Redrawn language before app.listReplaced := by
  refine ⟨redrawn.orderly, redrawn.pointed.listReplaced, ?_⟩
  rcases redrawn.drawn with drawn | ⟨sameSection, sameSearch, kept⟩
  · exact .inl ⟨drawn.shown, drawn.steady⟩
  · refine .inr ⟨sameSection, sameSearch, ?_⟩
    intro drawn
    exact ⟨(kept drawn).shown, (kept drawn).steady⟩

/-- Showing a console scope draws it, whatever was drawn before. -/
theorem drawn_ensureConsoleScope
    (language : Language)
    {app : App Version}
    (orderly : app.console.Orderly)
    (onConsole : app.curSection = .consoleGames) :
    (app.ensureConsoleScope language).Drawn language := by
  obtain ⟨-, steady, entries⟩ := orderly.ensure app.consoleScope
  refine ⟨?_, fun _ => steady⟩
  change app.projection language = _
  rw [projection_of_console language onConsole,
    projection_of_console language (by exact onConsole)]
  exact entries.symm

theorem pointed_ensureConsoleScope
    (language : Language)
    (app : App Version) :
    (app.ensureConsoleScope language).Pointed := by
  have shown := pointed_refilter language app
  refine ⟨?_, shown.menu⟩
  unfold ensureConsoleScope
  dsimp only
  split
  case isTrue cached => exact shown.listReplaced.tile
  case isFalse fetched => exact shown.tile

theorem redrawn_ensureConsoleScope
    {language : Language}
    {before app : App Version}
    (orderly : app.console.Orderly)
    (onConsole : app.curSection = .consoleGames) :
    Redrawn language before (app.ensureConsoleScope language) :=
  ⟨(orderly.ensure app.consoleScope).1,
    pointed_ensureConsoleScope language app,
    .inl (drawn_ensureConsoleScope language orderly onConsole)⟩

/-- Applying a section or a tab draws its list. -/
theorem redrawn_listed
    {language : Language}
    {before app : App Version}
    (orderly : app.console.Orderly) :
    Redrawn language before (app.listed language) := by
  unfold listed
  split
  case isTrue onConsole =>
      apply redrawn_ensureConsoleScope
      · exact orderly
      · exact onConsole
  case isFalse offConsole =>
      apply Redrawn.listReplaced
      apply redrawn_refilter orderly
      intro onConsole
      exact absurd onConsole offConsole

/-- A change of the cache that leaves the scope on screen alone. -/
theorem Drawn.withConsole
    {language : Language}
    {app : App Version}
    (drawn : app.Drawn language)
    (console : ConsoleScopes LibraryItem Version)
    (steady : app.curSection = .consoleGames →
      console.Steady app.consoleScope)
    (entries : app.curSection = .consoleGames →
      console.entries app.consoleScope =
        app.console.entries app.consoleScope) :
    { app with console := console }.Drawn language := by
  refine ⟨?_, steady⟩
  have shown := drawn.shown
  by_cases onConsole : app.curSection = .consoleGames
  · rw [projection_of_console language onConsole] at shown
    rw [projection_of_console language (by exact onConsole)]
    exact shown.trans (entries onConsole).symm
  · rw [projection_of_local language onConsole] at shown
    rw [projection_of_local language (by exact onConsole)]
    exact shown

/-- Handing out prefetches changes nothing on screen. -/
theorem Redrawn.pumpConsolePrefetch
    {language : Language}
    {before app : App Version}
    (redrawn : Redrawn language before app) :
    Redrawn language before app.pumpConsolePrefetch := by
  have kept : app.Drawn language →
      app.pumpConsolePrefetch.Drawn language := by
    intro drawn
    have spared := fun onConsole =>
      (drawn.steady onConsole).nextPrefetchOf redrawn.orderly.stamped
        app.console.prefetch redrawn.orderly.tabs
    exact drawn.withConsole _ (fun onConsole => (spared onConsole).1)
      (fun onConsole => (spared onConsole).2)
  refine ⟨redrawn.orderly.nextPrefetch,
    ⟨redrawn.pointed.tile, redrawn.pointed.menu⟩, ?_⟩
  rcases redrawn.drawn with drawn | ⟨sameSection, sameSearch, keptBefore⟩
  · exact .inl (kept drawn)
  · exact .inr ⟨sameSection, sameSearch, fun drawn => kept (keptBefore drawn)⟩

/-! ## The catalog -/

/-- The group found again among the tabs is the group selected. -/
theorem getElem_findIdx_of_mem
    {groups : List AppGroup}
    {selected : AppGroup}
    (member : selected ∈ groups) :
    ∃ index, (groups.findIdx? fun group => group = selected) = some index ∧
      groups[index]? = some selected := by
  have found : (groups.findIdx? fun group => group = selected).isSome := by
    rw [List.findIdx?_isSome, List.any_eq_true]
    exact ⟨selected, member, by simp⟩
  obtain ⟨index, position⟩ := Option.isSome_iff_exists.mp found
  obtain ⟨inside, same, -⟩ := List.findIdx?_eq_some_iff_getElem.mp position
  refine ⟨index, position, ?_⟩
  rw [List.getElem?_eq_getElem inside]
  exact congrArg some (of_decide_eq_true same)

/-- The catalog decides no tab of the consoles, so the console scope on screen
outlives a new catalog. -/
theorem consoleScope_syncLocalCatalog
    (language : Language)
    {app : App Version}
    (onConsole : app.curSection = .consoleGames) :
    (app.syncLocalCatalog language).consoleScope = app.consoleScope := by
  have strip : app.strip = app.tabs.consoleGames := by
    unfold App.strip
    rw [onConsole]
    rfl
  have platform : (app.syncLocalCatalog language).consolePlatformId =
      app.consolePlatformId := by
    unfold consolePlatformId syncLocalCatalog
    simp only [onConsole, strip]
    cases app.curGroup with
    | none => rfl
    | some index =>
        simp only [Option.bind_some]
        cases held : app.tabs.consoleGames[index]? with
        | none => rfl
        | some selected =>
            obtain ⟨position, found, same⟩ :=
              getElem_findIdx_of_mem (List.mem_of_getElem? held)
            change ((app.tabs.consoleGames.findIdx?
              fun group => group = selected).bind _) = _
            rw [found]
            simp only [Option.bind_some]
            change (app.tabs.consoleGames[position]?).bind _ = _
            rw [same, Option.bind_some]
  unfold consoleScope
  rw [platform]
  unfold syncLocalCatalog Filters.loadLocalFacets
  simp [onConsole]

theorem redrawn_syncLocalCatalog
    {language : Language}
    {before app : App Version}
    (orderly : before.console.Orderly)
    (sameConsole : app.console = before.console)
    (sameSection : app.curSection = before.curSection)
    (sameSearch : app.searchValue = before.searchValue)
    (sameScope : app.consoleScope = before.consoleScope) :
    Redrawn language before
      ((app.syncLocalCatalog language).refilter language) := by
  refine redrawn_refilter_of_same orderly sameConsole sameSection sameSearch
    ?_
  intro onConsole
  rw [← sameScope]
  exact consoleScope_syncLocalCatalog language (sameSection.trans onConsole)

theorem redrawn_catalogLoaded
    {language : Language}
    {app : App Version}
    (orderly : app.console.Orderly)
    (pointed : app.Pointed)
    (request : Nat)
    (result : Except String (List LibraryItem)) :
    Redrawn language app (app.catalogLoaded language request result) := by
  unfold catalogLoaded
  split
  case isTrue old =>
      exact redrawn_refl orderly pointed
  case isFalse latest =>
      cases result with
      | error message =>
          exact redrawn_frame orderly pointed _ _ _ _ _ _
      | ok entries =>
          dsimp only
          split
          case isTrue changed =>
              apply Redrawn.listReplaced
              exact redrawn_syncLocalCatalog orderly rfl rfl rfl rfl
          case isFalse unchanged =>
              -- Only the records under the user's forms were replaced.
              have sameEntries :
                  (app.catalog.replace entries app.config).1.entries =
                    app.catalog.entries := by
                unfold Catalog.replace Catalog.project at unchanged ⊢
                dsimp only at unchanged ⊢
                split
                case isTrue same => rfl
                case isFalse different =>
                    rw [if_neg different] at unchanged
                    exact absurd rfl unchanged
              refine redrawn_of_same orderly ⟨pointed.tile, pointed.menu⟩ rfl
                rfl ?_
              intro drawn
              refine ⟨?_, drawn.steady⟩
              unfold projection storeCatalog
              dsimp only
              rw [sameEntries]
              exact drawn.shown

theorem redrawn_moveToForm
    {language : Language}
    {app : App Version}
    (orderly : app.console.Orderly)
    (pointed : app.Pointed)
    (index : Nat)
    (form : FormFactor) :
    Redrawn language app (app.moveToForm language index form) := by
  unfold moveToForm
  cases app.visible[index]? with
  | none => exact redrawn_refl orderly pointed
  | some entry =>
      exact redrawn_syncLocalCatalog orderly rfl rfl rfl rfl

theorem redrawn_applyLiveConfig
    {language : Language}
    {app : App Version}
    (orderly : app.console.Orderly)
    (pointed : app.Pointed)
    (config : AppLibraryConfig) :
    Redrawn language app (app.applyLiveConfig language config) := by
  unfold applyLiveConfig
  split
  case isTrue moved =>
      have shown : Redrawn language app
          (((app.projectCatalog config).syncLocalCatalog language).refilter
            language) :=
        redrawn_syncLocalCatalog orderly rfl rfl rfl rfl
      dsimp only
      split
      case isTrue lost => exact shown.listReplaced
      case isFalse kept => exact shown
  case isFalse same =>
      exact redrawn_frame orderly pointed _ _ _ _ _ _

/-! ## The consoles -/

/-- An empty cache has no scope to drop. -/
theorem steady_invalidate
    (console : ConsoleScopes LibraryItem Version)
    (scope : ConsoleScope) :
    console.invalidate.Steady scope := by
  refine .inr ?_
  intro log found
  cases found

/-- Away from the console grid, the consoles' tabs and pages are not drawn. -/
theorem Drawn.withConsoles
    {language : Language}
    {app : App Version}
    (drawn : app.Drawn language)
    (offConsole : app.curSection ≠ .consoleGames)
    (console : ConsoleScopes LibraryItem Version)
    (platforms : List (Int × String)) :
    { app with
      console := console
      tabs := app.tabs.syncConsoleGroups platforms }.Drawn language := by
  refine ⟨?_, fun onConsole => absurd onConsole offConsole⟩
  have shown := drawn.shown
  rw [projection_of_local language offConsole] at shown
  rw [projection_of_local language (by exact offConsole)]
  refine shown.trans ?_
  have sameTabs : (app.tabs.syncConsoleGroups platforms).get app.curSection =
      app.tabs.get app.curSection := by
    cases place : app.curSection with
    | pcGames => rfl
    | applications => rfl
    | consoleGames => exact absurd place offConsole
  unfold Sections.filteredByFacets
  dsimp only
  rw [sameTabs]

theorem redrawn_invalidateConsoleSource
    {language : Language}
    {app : App Version}
    (pointed : app.Pointed) :
    Redrawn language app (app.invalidateConsoleSource language) := by
  unfold invalidateConsoleSource
  split
  case isTrue onConsole =>
      apply redrawn_refilter
      · exact ConsoleScopes.Orderly.invalidate
      · intro _
        exact steady_invalidate app.console _
  case isFalse offConsole =>
      refine redrawn_of_same ConsoleScopes.Orderly.invalidate
        ⟨pointed.tile, pointed.menu⟩ rfl rfl ?_
      intro drawn
      exact drawn.withConsole _
        (fun onConsole => absurd onConsole offConsole)
        (fun onConsole => absurd onConsole offConsole)

theorem redrawn_rommConnectionChanged
    {language : Language}
    {app : App Version}
    (pointed : app.Pointed) :
    Redrawn language app (app.rommConnectionChanged language) := by
  unfold rommConnectionChanged invalidateConsoleSource
  split
  case isTrue onConsole =>
      apply redrawn_refilter
      · exact ConsoleScopes.Orderly.invalidate
      · intro _
        exact steady_invalidate app.console _
  case isFalse offConsole =>
      refine redrawn_of_same ConsoleScopes.Orderly.invalidate
        ⟨pointed.tile, pointed.menu⟩ rfl rfl ?_
      intro drawn
      exact drawn.withConsoles offConsole app.console.invalidate []

theorem redrawn_daemonChanged
    {language : Language}
    {app : App Version}
    (orderly : app.console.Orderly)
    (pointed : app.Pointed)
    (event : FeedEvent) :
    Redrawn language app (app.daemonChanged language event) := by
  have read : Redrawn language app
      (if event.stalesCatalog && !app.retryCatalog then app.loadCatalog
        else app) := by
    split
    case isTrue stale =>
        exact redrawn_frame orderly pointed _ _ _ _ _ _
    case isFalse fresh =>
        exact redrawn_refl orderly pointed
  unfold daemonChanged
  dsimp only
  by_cases resumed : event = .resumed
  · rw [if_pos resumed]
    exact read.trans (redrawn_invalidateConsoleSource read.pointed)
  · rw [if_neg resumed]
    exact read

theorem orderly_syncConsoles
    {app : App Version}
    (orderly : app.console.Orderly)
    (platforms : List (Int × String)) :
    (app.syncConsoles platforms).console.Orderly :=
  (orderly.queuePrefetch _).nextPrefetch

theorem redrawn_consolesLoaded
    {language : Language}
    {app : App Version}
    (orderly : app.console.Orderly)
    (pointed : app.Pointed)
    (source : Nat)
    (result : Except String (List (Int × String))) :
    Redrawn language app (app.consolesLoaded language source result) := by
  unfold consolesLoaded
  split
  case isTrue old =>
      exact redrawn_refl orderly pointed
  case isFalse current =>
      cases result with
      | error message =>
          exact redrawn_refl orderly pointed
      | ok platforms =>
          dsimp only
          split
          case isTrue onConsole =>
              have synced := orderly_syncConsoles orderly platforms
              apply redrawn_ensureConsoleScope
              · unfold reselectPlatform
                dsimp only
                split
                case isTrue lost => exact synced
                case isFalse kept => exact synced
              · unfold reselectPlatform
                dsimp only
                split
                case isTrue lost => exact onConsole
                case isFalse kept => exact onConsole
          case isFalse offConsole =>
              refine redrawn_of_same (orderly_syncConsoles orderly platforms)
                ⟨pointed.tile, pointed.menu⟩ rfl rfl ?_
              intro drawn
              exact drawn.withConsoles offConsole _ platforms

/-- A page that was refused changes nothing, and one that was accepted marks
no scope as used. -/
theorem used_apply
    (generation : Nat)
    (page : Page LibraryItem Version)
    (log : ConsoleListing LibraryItem Version) :
    (log.apply generation page).1.used = log.used := by
  unfold ConsoleListing.apply
  split
  case isTrue stale => rfl
  case isFalse current => rfl

theorem used_failed
    (generation : Nat)
    (log : ConsoleListing LibraryItem Version) :
    (log.failed generation).1.used = log.used := by
  unfold ConsoleListing.failed
  split
  case isTrue stale => rfl
  case isFalse current => rfl

/-- A page that is not accepted for a scope leaves its records alone. -/
theorem entries_apply_of_refused
    (console : ConsoleScopes LibraryItem Version)
    {scope shown : ConsoleScope}
    {generation : Nat}
    {page : Page LibraryItem Version}
    (refused : (console.apply scope generation page).2 = false ∨
      scope ≠ shown) :
    (console.apply scope generation page).1.entries shown =
      console.entries shown := by
  apply ConsoleScopes.entries_eq_of_lookup
  change (console.adjust scope _).scopes.lookup shown = _
  rw [ConsoleScopes.lookup_adjust]
  cases found : console.scopes.lookup shown with
  | none => rfl
  | some log =>
      rw [Option.map_some]
      split
      case isFalse other => rfl
      case isTrue same =>
          rcases refused with stale | different
          · change (console.scopes.lookup scope).any _ = false at stale
            rw [← same, found, Option.any_some] at stale
            unfold ConsoleListing.apply at stale ⊢
            split at stale
            case isTrue old => rw [if_pos old]
            case isFalse current => cases stale
          · exact absurd same.symm different

theorem entries_failed
    (console : ConsoleScopes LibraryItem Version)
    (scope shown : ConsoleScope)
    (generation : Nat) :
    (console.failed scope generation).1.entries shown =
      console.entries shown := by
  unfold ConsoleScopes.entries ConsoleScopes.failed
  dsimp only
  rw [ConsoleScopes.lookup_adjust]
  cases console.scopes.lookup shown with
  | none => rfl
  | some log =>
      rw [Option.map_some]
      dsimp only
      split
      case isFalse other => rfl
      case isTrue same =>
          unfold ConsoleListing.failed
          split
          case isTrue stale => rfl
          case isFalse current => rfl

theorem redrawn_consolePageLoaded
    {language : Language}
    {app : App Version}
    (orderly : app.console.Orderly)
    (pointed : app.Pointed)
    (scope : ConsoleScope)
    (generation : Nat)
    (result : Except String (Page LibraryItem Version)) :
    Redrawn language app
      (app.consolePageLoaded language scope generation result) := by
  unfold consolePageLoaded
  cases result with
  | error message =>
      apply Redrawn.pumpConsolePrefetch
      refine redrawn_of_same
        (orderly.adjust scope _ (used_failed generation))
        ⟨pointed.tile, pointed.menu⟩ rfl rfl ?_
      intro drawn
      exact drawn.withConsole _
        (fun onConsole =>
          (drawn.steady onConsole).adjust scope _ (used_failed generation))
        (fun _ => entries_failed app.console scope _ generation)
  | ok page =>
      have applied := orderly.adjust scope
        (fun log => (log.apply generation page).1) (used_apply generation page)
      have steady := fun (drawn : app.Drawn language) onConsole =>
        (drawn.steady onConsole).adjust scope
          (fun log => (log.apply generation page).1)
          (used_apply generation page)
      dsimp only
      split
      case isTrue onScreen =>
          -- The page belongs to the scope on screen, which is projected anew.
          have merged : Redrawn language app
              ({ app with
                  console := (app.console.apply scope generation page).1
                }.refilter language) := by
            refine redrawn_of_same applied (pointed_refilter language _) rfl
              rfl ?_
            intro drawn
            exact drawn_refilter language _ (steady drawn)
          split
          case isTrue first =>
              exact merged.listReplaced.pumpConsolePrefetch
          case isFalse later => exact merged.pumpConsolePrefetch
      case isFalse elsewhere =>
          apply Redrawn.pumpConsolePrefetch
          refine redrawn_of_same applied ⟨pointed.tile, pointed.menu⟩ rfl rfl
            ?_
          intro drawn
          refine drawn.withConsole _ (steady drawn) ?_
          intro onConsole
          apply entries_apply_of_refused
          simp only [onConsole, Bool.and_eq_true, decide_eq_true_eq,
            and_true, not_and, decide_true] at elsewhere
          by_cases accepted :
              (app.console.apply scope generation page).2 = true
          · exact .inr (elsewhere accepted)
          · exact .inl (Bool.eq_false_iff.mpr accepted)

theorem redrawn_gridScrolled
    {language : Language}
    {app : App Version}
    (orderly : app.console.Orderly)
    (pointed : app.Pointed)
    (endOnScreen : Nat → Bool) :
    Redrawn language app (app.gridScrolled endOnScreen) := by
  have unchanged : Redrawn language app app :=
    redrawn_refl orderly pointed
  unfold gridScrolled
  split
  case isFalse offConsole => exact unchanged
  case isTrue onConsole =>
      cases extends_ : app.console.extendOffset app.consoleScope
          endOnScreen with
      | none => exact unchanged
      | some next =>
          have idle : (app.console.log app.consoleScope).pending = none := by
            unfold ConsoleScopes.extendOffset at extends_
            obtain ⟨log, found, extended⟩ :=
              Option.bind_eq_some_iff.mp extends_
            unfold ConsoleScopes.log
            rw [found, Option.getD_some]
            unfold ConsoleListing.extendOffset at extended
            split at extended
            case h_1 ended => cases extended
            case h_2 offset more =>
                split at extended
                case isTrue busy => cases extended
                case isFalse free =>
                    exact Option.not_isSome_iff_eq_none.mp free
          obtain ⟨generation, -, begun⟩ :=
            app.console.begin_spec app.consoleScope next (.inr idle)
          refine redrawn_of_same (orderly.begun begun)
            ⟨pointed.tile, pointed.menu⟩ rfl rfl ?_
          intro drawn
          exact drawn.withConsole _
            (fun _ => ConsoleScopes.steady_of_begun orderly.stamped begun)
            (fun _ => ConsoleScopes.entries_begun begun)

theorem redrawn_facetsLoaded
    {language : Language}
    {app : App Version}
    (orderly : app.console.Orderly)
    (pointed : app.Pointed)
    (source : Nat)
    (platform : Option Int)
    (result : Except String (List Facet)) :
    Redrawn language app
      (app.facetsLoaded language source platform result) := by
  unfold facetsLoaded
  split
  case isTrue old =>
      exact redrawn_refl orderly pointed
  case isFalse current =>
      cases result with
      | error message =>
          exact redrawn_refl orderly pointed
      | ok facets =>
          refine redrawn_of_same orderly
            ⟨tile_clamp _ _ app.visible rfl, pointed.menu⟩ rfl rfl ?_
          intro drawn
          exact ⟨drawn.shown, drawn.steady⟩

/-! ## The user -/

theorem redrawn_selectSection
    {language : Language}
    {app : App Version}
    (orderly : app.console.Orderly)
    (pointed : app.Pointed)
    (target : Section) :
    Redrawn language app (app.selectSection language target) := by
  unfold selectSection
  dsimp only
  split
  case isTrue atOnce => exact redrawn_listed orderly
  case isFalse slides =>
      exact redrawn_frame orderly pointed _ _ _ _ _ _

theorem redrawn_selectGroup
    {language : Language}
    {app : App Version}
    (orderly : app.console.Orderly)
    (pointed : app.Pointed)
    (group : Option Nat) :
    Redrawn language app (app.selectGroup language group) := by
  unfold selectGroup
  split
  case isTrue atOnce => exact redrawn_listed orderly
  case isFalse slides =>
      exact redrawn_frame orderly pointed _ _ _ _ _ _

theorem redrawn_advanceSectionSlide
    {language : Language}
    {app : App Version}
    (orderly : app.console.Orderly)
    (pointed : app.Pointed)
    (progress : Progress) :
    Redrawn language app (app.advanceSectionSlide language progress) := by
  unfold advanceSectionSlide
  split
  case h_1 still =>
      exact redrawn_refl orderly pointed
  case h_2 slide moving =>
      split
      case h_1 swap => exact redrawn_listed orderly
      case h_2 done =>
          exact redrawn_frame orderly pointed _ _ _ _ _ _
      case h_3 waiting =>
          exact redrawn_refl orderly pointed

theorem redrawn_advanceTabSlide
    {language : Language}
    {app : App Version}
    (orderly : app.console.Orderly)
    (pointed : app.Pointed)
    (progress : Progress) :
    Redrawn language app (app.advanceTabSlide language progress) := by
  unfold advanceTabSlide
  split
  case h_1 still =>
      exact redrawn_refl orderly pointed
  case h_2 slide moving =>
      split
      case h_1 swap => exact redrawn_listed orderly
      case h_2 done =>
          exact redrawn_frame orderly pointed _ _ _ _ _ _
      case h_3 waiting =>
          exact redrawn_refl orderly pointed

/-- A change of the drawer that asks for no new list selects nothing new. -/
theorem selected_update_of_none
    {filters : Filters}
    {message : FilterMessage}
    (quiet : (filters.update message).2 = .none) :
    (filters.update message).1.selected = filters.selected := by
  cases message with
  | select facet value => cases quiet
  | clear => cases quiet
  | toggle => rfl
  | close => rfl
  | cycle row delta =>
      unfold Filters.update at quiet ⊢
      cases found : filters.facets[row]? with
      | none => simp only [found]
      | some facet =>
          simp only [found] at quiet
          cases quiet

theorem redrawn_updateFilters
    {language : Language}
    {app : App Version}
    (orderly : app.console.Orderly)
    (pointed : app.Pointed)
    (message : FilterMessage) :
    Redrawn language app (app.updateFilters language message) := by
  unfold updateFilters
  dsimp only
  split
  case h_1 quiet =>
      have same := selected_update_of_none quiet
      refine redrawn_of_same orderly ⟨pointed.tile, pointed.menu⟩ rfl rfl ?_
      intro drawn
      constructor
      · unfold projection consoleScope
        dsimp only
        rw [same]
        exact drawn.shown
      · unfold consoleScope
        dsimp only
        rw [same]
        exact drawn.steady
  case h_2 changed =>
      split
      case isTrue onConsole =>
          exact redrawn_ensureConsoleScope orderly onConsole
      case isFalse offConsole =>
          apply Redrawn.listReplaced
          apply redrawn_refilter
          · exact orderly
          · intro onConsole
            exact absurd onConsole offConsole

theorem redrawn_toggleControllerCompatibility
    {language : Language}
    {app : App Version}
    (orderly : app.console.Orderly)
    (pointed : app.Pointed)
    (index : Nat) :
    Redrawn language app (app.toggleControllerCompatibility index) := by
  unfold toggleControllerCompatibility
  split
  case h_1 entry found =>
      exact redrawn_frame orderly pointed _ _ _ _ _ _
  case h_2 missing =>
      exact redrawn_refl orderly pointed

theorem redrawn_tileContext
    {language : Language}
    {app : App Version}
    (orderly : app.console.Orderly)
    (pointed : app.Pointed)
    {index : Nat}
    (inside : index < app.visible.length) :
    Redrawn language app { app with menu := app.menu.toggle index } := by
  refine redrawn_of_same orderly ⟨pointed.tile, ?_⟩ rfl rfl ?_
  · intro target opened
    change (app.menu.toggle index).target = some target at opened
    unfold Menu.toggle at opened
    split at opened
    case isTrue wasOpen => cases opened
    case isFalse wasClosed =>
        cases opened
        exact inside
  · intro drawn
    exact ⟨drawn.shown, drawn.steady⟩

theorem redrawn_moveMenu
    {language : Language}
    {app : App Version}
    (orderly : app.console.Orderly)
    (pointed : app.Pointed)
    (direction : Direction) :
    Redrawn language app (app.moveMenu direction) := by
  have moved : ∀ delta, Redrawn language app
      { app with menu := app.menu.moveSelection delta app.menuRows } := by
    intro delta
    refine redrawn_of_same orderly ⟨pointed.tile, ?_⟩ rfl rfl ?_
    · intro target opened
      apply pointed.menu target
      change (app.menu.moveSelection delta app.menuRows).target = _ at opened
      unfold Menu.moveSelection at opened
      split at opened
      case isTrue bare => exact opened
      case isFalse rows => exact opened
    · intro drawn
      exact ⟨drawn.shown, drawn.steady⟩
  have unchanged : Redrawn language app app :=
    redrawn_refl orderly pointed
  cases direction with
  | up => exact moved (-1)
  | down => exact moved 1
  | left => exact unchanged
  | right => exact unchanged

theorem redrawn_closeMenu
    {language : Language}
    {app : App Version}
    (orderly : app.console.Orderly)
    (pointed : app.Pointed) :
    Redrawn language app { app with menu := .closed } := by
  refine redrawn_of_same orderly ⟨pointed.tile, ?_⟩ rfl rfl ?_
  · intro target opened
    cases opened
  · intro drawn
    exact ⟨drawn.shown, drawn.steady⟩

theorem redrawn_clampCursors
    {language : Language}
    {app : App Version}
    (orderly : app.console.Orderly)
    (pointed : app.Pointed) :
    Redrawn language app app.clampCursors :=
  redrawn_of_same orderly pointed.clampCursors rfl rfl fun drawn =>
    drawn.clampCursors

theorem redrawn_activateMenuRow
    {language : Language}
    {app : App Version}
    (orderly : app.console.Orderly)
    (pointed : app.Pointed) :
    Redrawn language app (app.activateMenuRow language) := by
  have closed : Redrawn language app { app with menu := .closed } :=
    redrawn_closeMenu orderly pointed
  unfold activateMenuRow
  split
  case h_1 shut =>
      exact redrawn_refl orderly pointed
  case h_2 opened =>
      dsimp only
      split
      case h_2 bare => exact closed
      case h_1 target action found =>
          have clamped := closed.trans
            (redrawn_clampCursors closed.orderly closed.pointed)
          refine clamped.trans ?_
          cases action with
          | run =>
              exact redrawn_refl clamped.orderly clamped.pointed
          | toggleControllerCompatibility =>
              exact redrawn_toggleControllerCompatibility clamped.orderly
                clamped.pointed target
          | moveToForm form =>
              exact redrawn_moveToForm clamped.orderly clamped.pointed target
                form

/-- Cursors that stay on a tile. -/
theorem redrawn_cursors
    {language : Language}
    {app : App Version}
    (orderly : app.console.Orderly)
    (pointed : app.Pointed)
    (cursors : Cursors)
    (page : ShellPage)
    (inside : cursors.tile < app.visible.length ∨ app.visible = []) :
    Redrawn language app
      { app with
        cursors := cursors
        page := page } := by
  refine redrawn_of_same orderly ⟨inside, pointed.menu⟩ rfl rfl ?_
  intro drawn
  exact ⟨drawn.shown, drawn.steady⟩

theorem redrawn_stepFocus
    {language : Language}
    {app : App Version}
    (orderly : app.console.Orderly)
    (pointed : app.Pointed)
    (direction : Direction)
    (columns : Nat) :
    Redrawn language app (app.stepFocus language direction columns) := by
  have content : Redrawn language app
      { app with cursors := { app.cursors with ring := none } } :=
    redrawn_cursors orderly pointed { app.cursors with ring := none } app.page
      pointed.tile
  unfold stepFocus
  dsimp only
  split
  case isTrue drawer =>
      cases direction with
      | up => exact redrawn_cursors orderly pointed _ app.page pointed.tile
      | down => exact redrawn_cursors orderly pointed _ app.page pointed.tile
      | left =>
          exact content.trans
            (redrawn_updateFilters content.orderly content.pointed _)
      | right =>
          exact content.trans
            (redrawn_updateFilters content.orderly content.pointed _)
  case isFalse grid =>
      split
      case h_1 tile column lands =>
          exact redrawn_cursors orderly pointed _ app.page
            (.inl (lt_of_stepTile lands))
      case h_2 stays => exact content

theorem redrawn_openDetails
    {language : Language}
    {app : App Version}
    (orderly : app.console.Orderly)
    (pointed : app.Pointed)
    (index : Nat) :
    Redrawn language app (app.openDetails index) := by
  have unchanged : Redrawn language app app :=
    redrawn_refl orderly pointed
  unfold openDetails
  split
  case h_1 entry found =>
      split
      case isTrue game =>
          exact redrawn_cursors orderly pointed app.cursors .details
            pointed.tile
      case isFalse other => exact unchanged
  case h_2 missing => exact unchanged

theorem redrawn_closeDetails
    {language : Language}
    {app : App Version}
    (orderly : app.console.Orderly)
    (pointed : app.Pointed)
    (origin : Nat) :
    Redrawn language app (app.closeDetails origin) := by
  apply redrawn_cursors orderly pointed
  cases shown : app.visible with
  | nil => exact .inr rfl
  | cons entry entries =>
      refine .inl ?_
      simp only [List.length_cons]
      omega

theorem redrawn_restoreDashboard
    {language : Language}
    {app : App Version}
    (orderly : app.console.Orderly)
    (pointed : app.Pointed) :
    Redrawn language app app.restoreDashboard := by
  have left : Redrawn language app (app.leaveRing .dashboard) :=
    redrawn_cursors orderly pointed _ .dashboard pointed.tile
  unfold restoreDashboard
  dsimp only
  split
  case isTrue retrying => exact left
  case isFalse idle =>
      refine left.trans ?_
      exact redrawn_frame left.orderly left.pointed _ _ _ _ _ _

/-! ## Every message -/

/-- The end of a wait shows the scope of the term, if the term is still in the
field of the console grid, and does nothing otherwise. -/
theorem consoleSearchSettled_cases
    (language : Language)
    (app : App Version)
    (value : String) :
    ((value = app.searchValue ∧ app.curSection = .consoleGames) ∧
        app.consoleSearchSettled language value =
          app.ensureConsoleScope language) ∨
      (¬(value = app.searchValue ∧ app.curSection = .consoleGames) ∧
        app.consoleSearchSettled language value = app) := by
  unfold consoleSearchSettled
  by_cases current : value = app.searchValue ∧
      app.curSection = .consoleGames
  · refine .inl ⟨current, if_neg ?_⟩
    simp [current]
  · refine .inr ⟨current, if_pos ?_⟩
    rw [Classical.not_and_iff_not_or_not] at current
    simpa using current

/-- Every message but a typed term leaves the list drawn if it was.  A term
typed over a local section draws it too. -/
theorem redrawn_handle
    {language : Language}
    {app : App Version}
    (orderly : app.console.Orderly)
    (pointed : app.Pointed)
    (message : Message Version)
    (untyped : ∀ value, message = .inputChanged value →
      app.curSection ≠ .consoleGames) :
    Redrawn language app (app.handle language message) := by
  cases message with
  | catalogLoaded request result =>
      exact redrawn_catalogLoaded orderly pointed request result
  | consolesLoaded source result =>
      exact redrawn_consolesLoaded orderly pointed source result
  | consolePageLoaded scope generation result =>
      exact redrawn_consolePageLoaded orderly pointed scope generation result
  | gridScrolled endOnScreen =>
      exact redrawn_gridScrolled orderly pointed endOnScreen
  | consoleSearchSettled value =>
      change Redrawn language app (app.consoleSearchSettled language value)
      rcases consoleSearchSettled_cases language app value with
        ⟨settled, same⟩ | ⟨superseded, same⟩
      · rw [same]
        exact redrawn_ensureConsoleScope orderly settled.2
      · rw [same]
        exact redrawn_refl orderly pointed
  | daemonChanged event => exact redrawn_daemonChanged orderly pointed event
  | facetsLoaded source platform result =>
      exact redrawn_facetsLoaded orderly pointed source platform result
  | selectSection target => exact redrawn_selectSection orderly pointed target
  | consolePressed platformId =>
      change Redrawn language app (app.consolePressed language platformId)
      unfold consolePressed applySectionWithGroup
      apply redrawn_listed
      exact orderly
  | selectGroup group => exact redrawn_selectGroup orderly pointed group
  | inputChanged value =>
      have offConsole := untyped value rfl
      change Redrawn language app (app.inputChanged language value)
      rw [inputChanged, if_neg offConsole]
      apply Redrawn.listReplaced
      apply redrawn_refilter
      · exact orderly
      · intro onConsole
        exact absurd onConsole offConsole
  | filters message => exact redrawn_updateFilters orderly pointed message
  | activate index => exact redrawn_refl orderly pointed
  | toggleControllerCompatibility index =>
      exact redrawn_toggleControllerCompatibility orderly pointed index
  | moveToForm index form =>
      exact redrawn_moveToForm orderly pointed index form
  | tileContext index =>
      change Redrawn language app
        (if index < app.visible.length then
          { app with menu := app.menu.toggle index }
        else app)
      split
      case isTrue inside => exact redrawn_tileContext orderly pointed inside
      case isFalse past => exact redrawn_refl orderly pointed
  | closeMenu => exact redrawn_closeMenu orderly pointed
  | moveMenu direction => exact redrawn_moveMenu orderly pointed direction
  | activateMenuRow => exact redrawn_activateMenuRow orderly pointed
  | stepFocus direction columns =>
      exact redrawn_stepFocus orderly pointed direction columns
  | walkRing backwards =>
      exact redrawn_cursors orderly pointed _ app.page pointed.tile
  | openDetails index => exact redrawn_openDetails orderly pointed index
  | closeDetails origin => exact redrawn_closeDetails orderly pointed origin
  | appConfigLoaded config =>
      exact redrawn_applyLiveConfig orderly pointed config
  | rommConnectionChanged => exact redrawn_rommConnectionChanged pointed
  | openDashboard =>
      exact redrawn_cursors orderly pointed _ .dashboard pointed.tile
  | restoreDashboard => exact redrawn_restoreDashboard orderly pointed
  | openLibrary => exact redrawn_frame orderly pointed _ _ _ _ _ _
  | openSearch =>
      exact redrawn_cursors orderly pointed _ .library pointed.tile
  | openSettings =>
      exact redrawn_cursors orderly pointed _ .settings pointed.tile
  | animate sectionProgress tabProgress =>
      have slid : Redrawn language app
          (app.advanceSectionSlide language sectionProgress) :=
        redrawn_advanceSectionSlide orderly pointed sectionProgress
      exact slid.trans
        (redrawn_advanceTabSlide slid.orderly slid.pointed tabProgress)

end App

/-! ## Every run -/

/-- The shell, and the term typed last over the console grid whose wait has
not run out. -/
structure TypedShell (Version : Type) where
  app : App Version
  waiting : Option String

namespace TypedShell

/-- A typed search that has not settled: the term in the field of the console
grid still waits. -/
def Unsettled (shell : TypedShell Version) : Prop :=
  shell.app.curSection = .consoleGames ∧
    shell.waiting = some shell.app.searchValue

/-- The term that waits after a message. -/
def await
    (shell : TypedShell Version) : Message Version → Option String
  | .inputChanged value =>
      if shell.app.curSection = .consoleGames then
        some value
      else
        shell.waiting
  | .consoleSearchSettled value =>
      if shell.waiting = some value then none else shell.waiting
  | _ => shell.waiting

/-- The shell from its start, message by message. -/
def machine
    (language : Language)
    (config : AppLibraryConfig) :
    Machine (TypedShell Version) (Message Version) Effect where
  start :=
    { app := .init config
      waiting := none }
  step shell message :=
    ({ app := shell.app.update language message
       waiting := shell.await message },
      shell.app.effects message)

/-- The invariant of every run. -/
structure Sound
    (language : Language)
    (shell : TypedShell Version) : Prop where
  orderly : shell.app.console.Orderly
  pointed : shell.app.Pointed
  drawn : shell.Unsettled ∨ shell.app.Drawn language

theorem sound_start
    (language : Language)
    (config : AppLibraryConfig) :
    Sound language
      { app := App.init config
        waiting := none : TypedShell Version } := by
  refine ⟨ConsoleScopes.orderly_new, ⟨.inr rfl, ?_⟩, .inr ⟨rfl, ?_⟩⟩
  · intro target opened
    cases opened
  · intro onConsole
    cases onConsole

/-- What waits is not touched by a message that is neither typed nor the end
of a wait. -/
theorem sound_of_redrawn
    {language : Language}
    {shell : TypedShell Version}
    {app : App Version}
    (sound : shell.Sound language)
    (redrawn : shell.app.Redrawn language app) :
    Sound language { app := app, waiting := shell.waiting } := by
  refine ⟨redrawn.orderly, redrawn.pointed, ?_⟩
  rcases redrawn.drawn with drawn | ⟨sameSection, sameSearch, kept⟩
  · exact .inr drawn
  · rcases sound.drawn with ⟨onConsole, waits⟩ | drawn
    · refine .inl ⟨sameSection.trans onConsole, ?_⟩
      rw [sameSearch]
      exact waits
    · exact .inr (kept drawn)

/-- The end of a wait draws the term it was for, if that is still in the
field. -/
theorem sound_settled
    {language : Language}
    {shell : TypedShell Version}
    (sound : shell.Sound language)
    (value : String) :
    Sound language
      { app := shell.app.update language (.consoleSearchSettled value)
        waiting := shell.await (.consoleSearchSettled value) } := by
  have clamped : shell.app.Redrawn language shell.app.clampCursors :=
    App.redrawn_clampCursors sound.orderly sound.pointed
  change Sound language
    { app := shell.app.clampCursors.consoleSearchSettled language value
      waiting := if shell.waiting = some value then none
        else shell.waiting }
  rcases App.consoleSearchSettled_cases language shell.app.clampCursors value
    with ⟨settled, same⟩ | ⟨superseded, same⟩
  · rw [same]
    exact ⟨(clamped.orderly.ensure _).1,
      App.pointed_ensureConsoleScope language _,
      .inr (App.drawn_ensureConsoleScope language clamped.orderly
        settled.2)⟩
  · rw [same]
    split
    case isFalse other => exact sound_of_redrawn sound clamped
    case isTrue awaited =>
        -- The term that waited is not the one in the field.
        refine ⟨clamped.orderly, clamped.pointed, .inr ?_⟩
        rcases sound.drawn with ⟨onConsole, waits⟩ | drawn
        · rw [awaited] at waits
          exact absurd ⟨Option.some.inj waits, onConsole⟩ superseded
        · exact drawn.clampCursors

/-- A term typed over the console grid waits, and one typed over a local
section is drawn. -/
theorem sound_inputChanged
    {language : Language}
    {shell : TypedShell Version}
    (sound : shell.Sound language)
    (value : String) :
    Sound language
      { app := shell.app.update language (.inputChanged value)
        waiting := shell.await (.inputChanged value) } := by
  have clamped : shell.app.Redrawn language shell.app.clampCursors :=
    App.redrawn_clampCursors sound.orderly sound.pointed
  change Sound language
    { app := shell.app.clampCursors.inputChanged language value
      waiting := if shell.app.curSection = .consoleGames then some value
        else shell.waiting }
  split
  case isTrue onConsole =>
      rw [App.inputChanged, if_pos (by exact onConsole)]
      exact ⟨clamped.orderly, ⟨clamped.pointed.tile, clamped.pointed.menu⟩,
        .inl ⟨onConsole, rfl⟩⟩
  case isFalse offConsole =>
      apply sound_of_redrawn sound
      apply clamped.trans
      apply App.redrawn_handle clamped.orderly clamped.pointed
        (.inputChanged value)
      intro _ _
      exact offConsole

/-- A message keeps the invariant. -/
theorem Sound.step
    {language : Language}
    {shell : TypedShell Version}
    (sound : shell.Sound language)
    (message : Message Version) :
    Sound language
      { app := shell.app.update language message
        waiting := shell.await message } := by
  have clamped : shell.app.Redrawn language shell.app.clampCursors :=
    App.redrawn_clampCursors sound.orderly sound.pointed
  by_cases typed : ∃ value, message = .inputChanged value
  · obtain ⟨value, rfl⟩ := typed
    exact sound_inputChanged sound value
  by_cases settled : ∃ value, message = .consoleSearchSettled value
  · obtain ⟨value, rfl⟩ := settled
    exact sound_settled sound value
  have waits : shell.await message = shell.waiting := by
    unfold await
    split
    case h_1 value => exact absurd ⟨value, rfl⟩ typed
    case h_2 value => exact absurd ⟨value, rfl⟩ settled
    case h_3 => rfl
  rw [waits]
  apply sound_of_redrawn sound
  apply clamped.trans
  apply App.redrawn_handle clamped.orderly clamped.pointed message
  intro value same
  exact absurd ⟨value, same⟩ typed

/-- The grid is the projection of the state.  After every run of messages, in
any order and with any answers, unless a search typed over the console grid
has not settled yet, the list drawn is the records of the console scope on
screen, or the catalog narrowed to the section, tab, search and facets.  The
pad is on a tile if there is one, and an open menu is on a tile. -/
theorem grid_is_the_projection
    (language : Language)
    (config : AppLibraryConfig)
    (messages : List (Message Version)) :
    let shell := (machine language config).run messages
    let app := shell.app
    (¬shell.Unsettled →
        app.visible =
          if app.curSection = .consoleGames then
            app.console.entries app.consoleScope
          else
            app.tabs.filteredByFacets language app.curSection app.curGroup
              app.searchValue app.catalog.entries app.filters.selected) ∧
      (app.cursors.tile < app.visible.length ∨ app.visible = []) ∧
      ∀ target, app.menu.target = some target →
        target < app.visible.length := by
  have sound : Sound language ((machine language config).run messages) :=
    (machine language config).run_induction (Sound language)
      (sound_start language config)
      (fun _ message sound => sound.step message) messages
  refine ⟨?_, sound.pointed.tile, sound.pointed.menu⟩
  intro settled
  rcases sound.drawn with unsettled | drawn
  · exact absurd unsettled settled
  · exact drawn.shown

end TypedShell
end Frontend
end Hearthdeck
