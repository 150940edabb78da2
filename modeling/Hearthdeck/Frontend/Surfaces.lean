import Hearthdeck.Frontend.AccountLinks
import Hearthdeck.Frontend.Details
import Hearthdeck.Frontend.Frames
import Hearthdeck.Frontend.InputOwnership

/-!
# The shell and its surfaces

Beside the library there are the surfaces that open over it: the caret of a
text field, the dialog that signs in to RomM, the launch layer, the details
screen with its picker of files, and the cursor on the top bar.  This module
puts them together with the library into one state, and follows every message
that reaches them.

The clock is read once for every message: a message says whether the fade of
the page is over by then.  The pad's confirm button sends the messages the
controls send, and is not modelled on its own.
-/

namespace Hearthdeck
namespace Frontend

open Foundation

/-- `Field`: a text field the pad can put the caret in. -/
inductive Field
  | search
  | rommUrl
  | rommUsername
  | rommPassword
  deriving DecidableEq, Repr

/-! ## The top bar -/

namespace TopBar

/-- The buttons of the bar: the dashboard, the library, search and the
settings. -/
def destinations : Nat := 4

/-- `Destination::Dashboard.index`. -/
def dashboardIndex : Nat := 0

/-- `Destination::Settings.index`. -/
def settingsIndex : Nat := 3

/-- `top_bar::stepped`. -/
def stepped (index : Nat) (backwards : Bool) : Option Nat :=
  let last := destinations - 1
  let origin := min index last
  let target := if backwards then origin - 1 else min (origin + 1) last
  if target = origin then none else some target

/-- `top_bar::ring_step`. -/
def ringStep (ring : Option Nat) (backwards : Bool) : Option Nat :=
  let last := destinations - 1
  match ring with
  | none => some (if backwards then last else 0)
  | some index =>
      let index := min index last
      if backwards then
        if index = 0 then none else some (index - 1)
      else if index < last then
        some (index + 1)
      else
        none

end TopBar

/-! ## The state -/

/-- The shell: the library, and what opens over it. -/
structure AppShell where
  app : App RomVersion
  /-- Whether a change of page is still fading. -/
  fading : Bool
  details : Option Details
  /-- The field that owns the caret. -/
  textEntry : Option Field
  /-- The RomM form, and its requests on their way. -/
  links : RommLinks
  /-- Who owns the pad, and the launch layer. -/
  session : Shell
  barCursor : Option Nat

/-- What the shell reacts to. -/
inductive AppMessage
  /-- A message of the library that the shell adds nothing of its own to. -/
  | library (message : Message RomVersion)
  | openDetails (index : Nat)
  | details (message : DetailsMessage)
  | openSearch
  /-- The settings open as a page of the shell, or in a window of their
  own. -/
  | openSettings (inApp : Bool)
  | romm (message : RommMessage)
  | textFieldFocused (field : Field)
  | textFieldBlurred (field : Field)
  | textFieldSubmitted (field : Field)
  /-- A card of the dashboard. -/
  | cardPressed (title : String)
  /-- The results of launches, the poll of the session, the focus of the
  window. -/
  | session (step : ShellStep)
  /-- A step of the pad, on a grid so many tiles wide; `atTop` says that the
  cursor of the dashboard cannot go further. -/
  | stepFocus (direction : Direction) (columns : Nat) (atTop : Bool)
  /-- The ring's stop at the search box is pressed. -/
  | searchPressed
  | walkRing (backwards : Bool)
  | back

/-- The messages of the library that reach the shell in another form. -/
def Message.reachesShell {Version : Type} : Message Version → Bool
  | .openDetails _ => true
  | .closeDetails _ => true
  | .openSearch => true
  | .openSettings => true
  | .rommConnectionChanged => true
  | .stepFocus _ _ => true
  | .walkRing _ => true
  | _ => false

/-- The page a message of the library goes to. -/
def Message.destination {Version : Type} :
    Message Version → Option ShellPage
  | .selectSection _ => some .library
  | .consolePressed _ => some .library
  | .openLibrary => some .library
  | .openDashboard => some .dashboard
  | .restoreDashboard => some .dashboard
  | _ => none

namespace AppShell

/-- The shell at start, with the settings it read. -/
def init (config : AppLibraryConfig) : AppShell where
  app := .init config
  fading := false
  details := none
  textEntry := none
  links := RommLinks.machine.start
  session := .new
  barCursor := none

/-- The details screen, with the page it is on. -/
def screen (shell : AppShell) : DetailsScreen where
  page := shell.app.page
  fading := shell.fading
  details := shell.details

/-- `expire_page_fade`. -/
def expirePageFade (shell : AppShell) (faded : Bool) : AppShell :=
  if faded then
    { shell with
      fading := shell.screen.expirePageFade.fading
      details := shell.screen.expirePageFade.details }
  else
    shell

/-- What `update` does before it looks at the message. -/
def repair (shell : AppShell) (faded : Bool) : AppShell :=
  let expired := shell.expirePageFade faded
  { expired with app := expired.app.clampCursors }

/-- `switch_page`, to the page of another state of the library.  A page that
is left takes its caret with it. -/
def switchPage (shell : AppShell) (app : App RomVersion) : AppShell :=
  if shell.app.page = app.page then
    { shell with
      app := app
      fading := false }
  else
    { shell with
      app := app
      fading := true
      textEntry := none }

/-- Go to another page with the cursor off the top bar. -/
def land (shell : AppShell) (app : App RomVersion) : AppShell :=
  { shell.switchPage app with barCursor := none }

/-- `end_text_entry`. -/
def endTextEntry (shell : AppShell) : AppShell :=
  { shell with textEntry := none }

/-- `focus_search`. -/
def focusSearch (shell : AppShell) : AppShell :=
  { shell with
    app := { shell.app with cursors := { shell.app.cursors with ring := none } }
    barCursor := none
    textEntry := some .search }

/-- `launch_managed`. -/
def launch (shell : AppShell) (title : String) : AppShell :=
  { shell with session := shell.session.step (.launch title) }

/-- What a message did to an entry, as far as the shell goes by it. -/
def perform (shell : AppShell) : Effect → AppShell
  | .launchManaged _ title => shell.launch title
  | .toggleDesktopInput _ => shell
  | .setFormOverride _ _ => shell

/-- The messages of the library. -/
def library
    (language : Language)
    (shell : AppShell)
    (message : Message RomVersion) : AppShell :=
  if message.reachesShell then
    shell
  else
    match message.destination with
    | some _ => shell.land (shell.app.handle language message)
    | none =>
        (shell.app.effects message).foldl perform
          { shell with app := shell.app.handle language message }

/-! ## Details -/

/-- `open_details`. -/
def openDetails (shell : AppShell) (index : Nat) : AppShell :=
  match shell.app.visible[index]? with
  | none => shell
  | some entry =>
      match (stripped "romm:" entry.id).bind parseI64 with
      | none => shell
      | some romId =>
          { shell with
            details := some (.new romId entry.name
              (shell.app.console.versions shell.app.consoleScope entry.id)
              index) }.switchPage (shell.app.openDetails index)

/-- `close_details`. -/
def closeDetails (shell : AppShell) : AppShell :=
  match shell.details with
  | none => shell
  | some details =>
      shell.switchPage (shell.app.closeDetails details.originIndex)

/-- `update_details`. -/
def updateDetails (shell : AppShell) (message : DetailsMessage) : AppShell :=
  let updated := shell.screen.updateDetails message
  let shown := { shell with details := updated.1.details }
  match updated.2 with
  | .close => shown.closeDetails
  | .launch _ title => shown.launch title
  | _ => shown

/-! ## RomM -/

/-- `run_romm_effect`, as far as it changes the shell. -/
def runRommEffect
    (language : Language)
    (shell : AppShell) : RommEffect → AppShell
  | .focusUsername => { shell with textEntry := some .rommUsername }
  | .focusPassword => { shell with textEntry := some .rommPassword }
  | .endTextEntry => shell.endTextEntry
  | .releaseTextEntry => shell.endTextEntry
  | .signIn _ _ _ => shell.endTextEntry
  | .signInSucceeded =>
      { shell.endTextEntry with
        app := shell.app.rommConnectionChanged language }
  | .connectionChanged =>
      { shell with app := shell.app.rommConnectionChanged language }
  | _ => shell

/-- `update_romm`.  An answer arrives only while its request is on its way. -/
def updateRomm
    (language : Language)
    (shell : AppShell)
    (message : RommMessage) : AppShell :=
  if shell.links.due message then
    { shell with links := shell.links.step message }.runRommEffect language
      (shell.links.form.update message).2
  else
    shell

/-! ## Text fields -/

/-- `TextEntry::blur`: only the field that has the caret can give it up. -/
def blur (shell : AppShell) (field : Field) : AppShell :=
  if shell.textEntry = some field then shell.endTextEntry else shell

/-- `submit_text_field`. -/
def submitTextField
    (language : Language)
    (shell : AppShell) : Field → AppShell
  | .search => shell.endTextEntry
  | .rommUrl => shell.endTextEntry
  | .rommUsername =>
      if shell.links.form.signIn.isNone then
        shell
      else
        { shell with textEntry := some .rommPassword }
  | .rommPassword =>
      if shell.links.form.canSignIn then
        shell.endTextEntry.updateRomm language .signInPressed
      else
        shell.endTextEntry

/-! ## The pad -/

/-- Whether a step of the pad reaches the pages. -/
def padReachesPages (shell : AppShell) : Bool :=
  shell.textEntry.isNone && shell.links.form.signIn.isNone &&
    shell.session.hasControl && shell.app.page ≠ .details

/-- `menu_is_up`. -/
def menuIsUp (shell : AppShell) : Bool :=
  shell.app.menu.target.isSome && 0 < shell.app.menuRows

/-- `step_bar`, from the button of the index. -/
def stepBar
    (shell : AppShell)
    (index : Nat)
    (direction : Direction) : AppShell :=
  match direction with
  | .left =>
      { shell with barCursor := (TopBar.stepped index true).or (some index) }
  | .right =>
      { shell with barCursor := (TopBar.stepped index false).or (some index) }
  | .down =>
      if shell.app.page = .dashboard then
        { shell with barCursor := none }
      else
        shell
  | .up => shell

/-- `step_focus`. -/
def stepFocus
    (language : Language)
    (shell : AppShell)
    (direction : Direction)
    (columns : Nat)
    (atTop : Bool) : AppShell :=
  if shell.menuIsUp then
    { shell with app := shell.app.moveMenu direction }
  else
    match shell.barCursor with
    | some index => shell.stepBar index direction
    | none =>
        match shell.app.page with
        | .dashboard =>
            if atTop && direction = .up then
              { shell with barCursor := some TopBar.dashboardIndex }
            else
              shell
        | .settings => { shell with barCursor := some TopBar.settingsIndex }
        | _ =>
            { shell with app := shell.app.stepFocus language direction columns }

/-- Whether the ring stops at the search box. -/
def ringAtSearch (app : App RomVersion) : Bool :=
  app.cursors.ring = some app.layout.sections

/-- `walk_ring`. -/
def walkRing (shell : AppShell) (backwards : Bool) : AppShell :=
  if !shell.session.hasControl then
    shell
  else if shell.app.page = .library then
    let walked := shell.app.walkRing backwards
    { shell with
      app := walked
      textEntry := if ringAtSearch walked then some .search else none }
  else
    { shell with barCursor := TopBar.ringStep shell.barCursor backwards }

/-- Whether the launch layer shows a failure. -/
def launchFailed (shell : AppShell) : Bool :=
  match shell.session.launchState with
  | .failed _ _ => true
  | _ => false

/-- Whether a launch is in flight. -/
def launchInFlight (shell : AppShell) : Bool :=
  match shell.session.launchState with
  | .launching _ => true
  | _ => false

/-- `back`: what leaves the screen, innermost surface first. -/
def back
    (language : Language)
    (shell : AppShell)
    (faded : Bool) : AppShell :=
  if shell.textEntry.isSome then
    shell.endTextEntry
  else if shell.links.form.signIn.isSome then
    (shell.repair faded).updateRomm language .signInClosed
  else if shell.launchFailed then
    let repaired := shell.repair faded
    { repaired with session := repaired.session.step .dismissFailure }
  else if shell.launchInFlight then
    shell
  else if shell.app.menu.target.isSome then
    { shell with app := { shell.app with menu := .closed } }
  else if shell.app.filters.isOpen then
    { shell with app := shell.app.updateFilters language .close }
  else if shell.app.page = .details then
    if shell.details.any Details.discPicker then
      (shell.repair faded).updateDetails .discPickerPressed
    else
      (shell.repair faded).updateDetails .backPressed
  else if shell.barCursor.isSome && shell.app.page = .dashboard then
    { shell with barCursor := none }
  else if shell.app.cursors.ring.isSome then
    { shell with
      app := { shell.app with
        cursors := { shell.app.cursors with ring := none } } }
  else if shell.app.page ≠ .dashboard then
    shell.land (shell.app.leaveRing .dashboard)
  else
    shell

/-- Whether the Back button reaches `back`. -/
def backReaches (shell : AppShell) : Bool :=
  shell.textEntry.isSome || shell.links.form.signIn.isSome ||
    shell.session.hasControl

/-! ## Messages -/

/-- The settings as a page of the shell, with their connection read again. -/
def openSettings (language : Language) (shell : AppShell) : AppShell :=
  (shell.land (shell.app.leaveRing .settings)).updateRomm language
    .refreshPressed

/-- The arms of `update`. -/
def handle
    (language : Language)
    (shell : AppShell)
    (faded : Bool) : AppMessage → AppShell
  | .library message => shell.library language message
  | .openDetails index => shell.openDetails index
  | .details message => shell.updateDetails message
  | .openSearch => (shell.switchPage (shell.app.leaveRing .library)).focusSearch
  | .openSettings inApp => if inApp then shell.openSettings language else shell
  | .romm message => shell.updateRomm language message
  | .textFieldFocused field => { shell with textEntry := some field }
  | .textFieldBlurred field => shell.blur field
  | .textFieldSubmitted field => shell.submitTextField language field
  | .cardPressed title => shell.launch title
  | .session step => { shell with session := shell.session.step step }
  | .stepFocus direction columns atTop =>
      if shell.padReachesPages then
        shell.stepFocus language direction columns atTop
      else
        shell
  | .searchPressed =>
      if shell.padReachesPages then shell.focusSearch else shell
  | .walkRing backwards => shell.walkRing backwards
  | .back => if shell.backReaches then shell.back language faded else shell

/-- `update`: a fade that is over goes, and the cursors are repaired. -/
def update
    (language : Language)
    (shell : AppShell)
    (faded : Bool)
    (message : AppMessage) : AppShell :=
  (shell.repair faded).handle language faded message

/-- The shell, driven by its messages. -/
def machine
    (language : Language)
    (config : AppLibraryConfig) :
    Machine AppShell (Bool × AppMessage) Unit where
  start := .init config
  step := fun shell step => (shell.update language step.1 step.2, [])

end AppShell

/-! ## The page of the library -/

namespace App

variable {Version : Type}

theorem not_turnsPage_of_destination_eq_none
    {message : Message Version}
    (own : message.reachesShell = false)
    (stays : message.destination = none) :
    message.turnsPage = false := by
  unfold Message.turnsPage
  split
  case h_1 | h_2 => cases stays
  case h_3 | h_4 | h_5 => cases own
  case h_6 | h_7 | h_8 => cases stays
  case h_9 | h_10 => cases own
  case h_11 => rfl

/-- A message of the library goes to its page, or leaves the page alone. -/
theorem page_handle
    (language : Language)
    (app : App Version)
    (message : Message Version)
    (own : message.reachesShell = false) :
    (app.handle language message).page =
      message.destination.getD app.page := by
  cases goes : message.destination with
  | none =>
      exact (leaves_handle language app message).page
        (not_turnsPage_of_destination_eq_none own goes)
  | some page =>
      unfold Message.destination at goes
      split at goes
      case h_1 target =>
          cases goes
          exact congrArg Standing.page
            (standing_selectSection language app target)
      case h_2 platformId =>
          cases goes
          exact congrArg Standing.page
            (standing_consolePressed language app platformId)
      case h_3 =>
          cases goes
          rfl
      case h_4 =>
          cases goes
          rfl
      case h_5 =>
          cases goes
          exact congrArg Standing.page (standing_restoreDashboard app)
      case h_6 => cases goes

end App
end Frontend
end Hearthdeck
