import Hearthdeck.Foundation.Unwind
import Hearthdeck.Frontend.Surfaces

/-!
# Back leads home

Back closes the innermost open surface.  Closing a surface takes a message of
its own, and some of these messages do nothing while a condition fails: the
details screen closes only while there is one, the picker only for a game of
several files, the dialog only while no request is on its way.  These
conditions hold in every reachable state, so Back is never swallowed.
-/

namespace Hearthdeck
namespace Frontend

open Foundation

/-! ## Requests of the RomM form -/

namespace RommForm

theorem busy_linkPolled
    {form : RommForm}
    {result : Except String RommLink}
    (busy : (form.linkPolled result).1.busy = true) :
    form.busy = true := by
  unfold linkPolled at busy
  split at busy
  case h_1 code link secondsLeft =>
      split at busy
      case h_1 pending shown => exact busy
      case h_2 gone => exact busy
  case h_2 settings => cases busy
  case h_3 => exact busy
  case h_4 => exact busy
  case h_5 => exact busy
  case h_6 reason => exact busy

theorem not_busy_of_answers
    (form : RommForm)
    {message : RommMessage}
    {request : RommRequest}
    (answers : message.answers = some request) :
    (form.update message).1.busy = false := by
  unfold RommMessage.answers at answers
  split at answers
  case h_1 result => cases result <;> rfl
  case h_2 result => cases result <;> rfl
  case h_3 result => cases result <;> rfl
  case h_4 result => cases result <;> rfl
  case h_5 => cases answers

/-- A message that leaves the form busy found it busy, or sends a request. -/
theorem busy_update
    (form : RommForm)
    (message : RommMessage)
    (busy : (form.update message).1.busy = true) :
    (form.busy = true ∧ message.answers = none) ∨
      (form.update message).2.request.isSome = true := by
  cases answers : message.answers with
  | some request =>
      rw [not_busy_of_answers form answers] at busy
      cases busy
  | none =>
      by_cases polled : ∃ result, message = .linkPolled result
      · obtain ⟨result, rfl⟩ := polled
        exact Or.inl ⟨busy_linkPolled busy, rfl⟩
      · have pressed := form.pressed_update answers fun result same =>
          polled ⟨result, same⟩
        generalize form.update message = updated at busy pressed ⊢
        cases pressed with
        | kept next effect held => exact Or.inl ⟨held.symm.trans busy, rfl⟩
        | begun next effect request free still held polling pending asks =>
            right
            change effect.request.isSome = true
            rw [asks]
            rfl

end RommForm

namespace RommLinks

/-- A busy form has a request on its way, whatever the polls say. -/
theorem requests_ne_nil_step
    (links : RommLinks)
    (message : RommMessage)
    (before : links.form.busy = true → links.requests ≠ [])
    (busy : (links.step message).form.busy = true) :
    (links.step message).requests ≠ [] := by
  by_cases due : links.due message = true
  · rw [step_of_due due] at busy ⊢
    rcases links.form.busy_update message busy with ⟨held, asks⟩ | sends
    · refine List.append_ne_nil_of_left_ne_nil ?_ _
      unfold waiting
      rw [asks]
      exact before held
    · refine List.append_ne_nil_of_right_ne_nil _ ?_
      obtain ⟨request, sent⟩ := Option.isSome_iff_exists.mp sends
      rw [sent]
      exact List.cons_ne_nil request []
  · unfold step at busy ⊢
    rw [if_neg due] at busy ⊢
    exact before busy

/-- The dialog closes while no request is on its way. -/
theorem step_signInClosed
    {links : RommLinks}
    (free : links.form.busy = false) :
    links.step .signInClosed =
      { links with form := { links.form with signIn := none } } := by
  have updated : links.form.update .signInClosed =
      ({ links.form with signIn := none }, .endTextEntry) := by
    have idle : ¬ links.form.busy = true := by
      rw [free]
      exact Bool.false_ne_true
    change (if links.form.busy then links.form else _, _) = _
    rw [if_neg idle]
  rw [step_of_due rfl]
  unfold forgets
  rw [updated]
  unfold waiting
  dsimp only [RommMessage.answers, RommEffect.request]
  rw [Option.toList_none, List.append_nil]
  rfl

end RommLinks

/-! ## The picker -/

namespace Details

/-- An open picker has files to pick from. -/
def PickerFits (details : Details) : Prop :=
  details.discPicker = true → 2 ≤ details.versions.length

theorem PickerFits.togglePicker
    {details : Details}
    (fits : details.PickerFits) :
    details.togglePicker.PickerFits := by
  unfold Details.togglePicker
  split
  case isTrue single => exact fits
  case isFalse several =>
      intro shown
      exact Nat.not_lt.mp several

theorem pickerFits_selectDisc
    (details : Details)
    (romId : Int) :
    (details.selectDisc romId).PickerFits := by
  intro shown
  unfold selectDisc at shown
  dsimp only at shown
  split at shown
  case isTrue other => cases shown
  case isFalse same => cases shown

/-- What leaves the picker and the files alone. -/
theorem PickerFits.of_eq
    {details next : Details}
    (fits : details.PickerFits)
    (picker : next.discPicker = details.discPicker)
    (versions : next.versions = details.versions) :
    next.PickerFits := by
  unfold PickerFits
  rw [picker, versions]
  exact fits

theorem PickerFits.toggleFlag
    {details : Details}
    (fits : details.PickerFits)
    (flag : Flag) :
    (details.toggleFlag flag).1.PickerFits := by
  unfold Details.toggleFlag
  split
  case isTrue pending => exact fits
  case isFalse free =>
      cases flag with
      | favorite => exact fits.of_eq rfl rfl
      | backlog => exact fits.of_eq rfl rfl

theorem PickerFits.settleFlag
    {details : Details}
    (fits : details.PickerFits)
    (romId : Int)
    (flag : Flag)
    (previous : Option Bool)
    (result : Except String Bool) :
    (details.settleFlag romId flag previous result).1.PickerFits := by
  unfold Details.settleFlag
  dsimp only
  split
  case isTrue other => exact fits.of_eq rfl rfl
  case isFalse same =>
      cases result with
      | ok state =>
          cases flag with
          | favorite => exact fits.of_eq rfl rfl
          | backlog => exact fits.of_eq rfl rfl
      | error reason =>
          cases flag with
          | favorite => exact fits.of_eq rfl rfl
          | backlog => exact fits.of_eq rfl rfl

theorem PickerFits.load
    {details : Details}
    (fits : details.PickerFits)
    (romId : Int)
    (result : Except String RetroDetails) :
    (details.load romId result).PickerFits := by
  unfold Details.load
  split
  case isTrue other => exact fits
  case isFalse same =>
      cases result with
      | ok loaded => exact fits.of_eq rfl rfl
      | error reason => exact fits.of_eq rfl rfl

theorem PickerFits.update
    {details : Details}
    (fits : details.PickerFits)
    (message : DetailsMessage) :
    (details.update message).1.PickerFits := by
  cases message with
  | backPressed => exact fits
  | playPressed => exact fits
  | screenshotSelected index =>
      change (details.selectShot index).PickerFits
      unfold selectShot
      split
      case isTrue inside => exact fits.of_eq rfl rfl
      case isFalse outside => exact fits
  | flagPressed flag =>
      rw [(update_flagPressed details flag).1]
      exact fits.toggleFlag flag
  | discPickerPressed => exact fits.togglePicker
  | discSelected romId => exact pickerFits_selectDisc details romId
  | loaded romId result => exact fits.load romId result
  | flagWritten romId flag previous result =>
      rw [update_flagWritten]
      exact fits.settleFlag romId flag previous result

end Details

/-! ## Every reachable state -/

namespace AppShell

/-- What the closing of the surfaces relies on. -/
structure Sound (shell : AppShell) : Prop where
  details : shell.app.page = .details → shell.details.isSome = true
  picker : ∀ details, shell.details = some details → details.PickerFits
  busy : shell.links.form.busy = true → shell.links.requests ≠ []

theorem sound_init
    (config : AppLibraryConfig) :
    (init config).Sound where
  details := by
    intro onPage
    cases onPage
  picker := by
    intro details shown
    cases shown
  busy := by
    intro busy
    cases busy

/-- A message that opens no details screen and does not reach the form. -/
theorem Sound.of_eq
    {shell next : AppShell}
    (sound : shell.Sound)
    (page : next.app.page = shell.app.page)
    (details : next.details = shell.details)
    (links : next.links = shell.links) :
    next.Sound where
  details := by
    rw [page, details]
    exact sound.details
  picker := by
    rw [details]
    exact sound.picker
  busy := by
    rw [links]
    exact sound.busy

theorem Sound.repair
    {shell : AppShell}
    (sound : shell.Sound)
    (faded : Bool) :
    (shell.repair faded).Sound := by
  cases faded with
  | false => exact sound.of_eq rfl rfl rfl
  | true =>
      refine ⟨?_, ?_, sound.busy⟩
      · intro onPage
        change shell.app.page = .details at onPage
        change (shell.screen.expirePageFade).details.isSome = true
        unfold DetailsScreen.expirePageFade
        split
        case isTrue fading =>
            change (if shell.app.page ≠ .details then none
              else shell.details).isSome = true
            rw [if_neg (not_not.mpr onPage)]
            exact sound.details onPage
        case isFalse still => exact sound.details onPage
      · intro details shown
        change (shell.screen.expirePageFade).details = some details at shown
        unfold DetailsScreen.expirePageFade at shown
        split at shown
        case isTrue fading =>
            change (if shell.app.page ≠ .details then none
              else shell.details) = some details at shown
            split at shown
            case isTrue elsewhere => cases shown
            case isFalse onPage => exact sound.picker details shown
        case isFalse still => exact sound.picker details shown

/-! ### What the operations leave alone -/

@[simp] theorem app_switchPage
    (shell : AppShell)
    (app : App RomVersion) :
    (shell.switchPage app).app = app := by
  unfold switchPage
  split
  case isTrue same => rfl
  case isFalse other => rfl

@[simp] theorem details_switchPage
    (shell : AppShell)
    (app : App RomVersion) :
    (shell.switchPage app).details = shell.details := by
  unfold switchPage
  split
  case isTrue same => rfl
  case isFalse other => rfl

@[simp] theorem links_switchPage
    (shell : AppShell)
    (app : App RomVersion) :
    (shell.switchPage app).links = shell.links := by
  unfold switchPage
  split
  case isTrue same => rfl
  case isFalse other => rfl

@[simp] theorem session_switchPage
    (shell : AppShell)
    (app : App RomVersion) :
    (shell.switchPage app).session = shell.session := by
  unfold switchPage
  split
  case isTrue same => rfl
  case isFalse other => rfl

/-- A change to a page that is not the details screen. -/
theorem Sound.switchPage
    {shell : AppShell}
    (sound : shell.Sound)
    {app : App RomVersion}
    (elsewhere : app.page ≠ .details) :
    (shell.switchPage app).Sound where
  details := by
    intro onPage
    rw [app_switchPage] at onPage
    exact absurd onPage elsewhere
  picker := by
    rw [details_switchPage]
    exact sound.picker
  busy := by
    rw [links_switchPage]
    exact sound.busy

theorem Sound.land
    {shell : AppShell}
    (sound : shell.Sound)
    {app : App RomVersion}
    (elsewhere : app.page ≠ .details) :
    (shell.land app).Sound :=
  (sound.switchPage elsewhere).of_eq rfl rfl rfl

/-- The effects of a message only reach the launch layer. -/
theorem Sound.perform
    {shell : AppShell}
    (sound : shell.Sound)
    (effects : List Effect) :
    (effects.foldl AppShell.perform shell).Sound := by
  induction effects generalizing shell with
  | nil => exact sound
  | cons effect later inductionHypothesis =>
      apply inductionHypothesis
      cases effect with
      | launchManaged id title =>
          exact sound.of_eq rfl rfl rfl
      | toggleDesktopInput id => exact sound
      | setFormOverride id form => exact sound

theorem destination_ne_details
    {Version : Type}
    {message : Message Version}
    {page : ShellPage}
    (goes : message.destination = some page) :
    page ≠ .details := by
  rintro rfl
  unfold Message.destination at goes
  split at goes <;> cases goes

theorem Sound.library
    (language : Language)
    {shell : AppShell}
    (sound : shell.Sound)
    (message : Message RomVersion) :
    (shell.library language message).Sound := by
  unfold AppShell.library
  cases own : message.reachesShell with
  | true => exact sound
  | false =>
      have page := App.page_handle language shell.app message own
      cases goes : message.destination with
      | some target =>
          rw [goes] at page
          apply sound.land
          rw [page]
          exact destination_ne_details goes
      | none =>
          rw [goes] at page
          apply Sound.perform
          exact sound.of_eq page rfl rfl

/-! ### What the messages preserve -/

/-- The details screen opens on its page, with a shut picker. -/
theorem Sound.openDetails
    {shell : AppShell}
    (sound : shell.Sound)
    (index : Nat) :
    (shell.openDetails index).Sound := by
  unfold AppShell.openDetails
  cases shell.app.visible[index]? with
  | none => exact sound
  | some entry =>
      dsimp only
      cases (stripped "romm:" entry.id).bind parseI64 with
      | none => exact sound
      | some romId =>
          dsimp only
          refine ⟨?_, ?_, ?_⟩
          · intro onPage
            rw [details_switchPage]
            rfl
          · intro details shown
            rw [details_switchPage] at shown
            cases shown
            intro shut
            cases shut
          · rw [links_switchPage]
            exact sound.busy

theorem Sound.closeDetails
    {shell : AppShell}
    (sound : shell.Sound) :
    shell.closeDetails.Sound := by
  unfold AppShell.closeDetails
  cases shell.details with
  | none => exact sound
  | some details =>
      apply sound.switchPage
      intro onPage
      cases onPage

/-- A message of the details screen leaves a screen where there was one. -/
theorem Sound.shown
    {shell : AppShell}
    (sound : shell.Sound)
    (message : DetailsMessage) :
    { shell with
      details := (shell.screen.updateDetails message).1.details }.Sound := by
  cases current : shell.details with
  | none =>
      refine sound.of_eq rfl ?_ rfl
      change (shell.screen.updateDetails message).1.details = shell.details
      rw [DetailsScreen.updateDetails_none (by exact current)]
      rfl
  | some details =>
      by_cases late : shell.screen.isLate message = true
      · refine sound.of_eq rfl ?_ rfl
        change (shell.screen.updateDetails message).1.details = shell.details
        unfold DetailsScreen.updateDetails
        rw [if_pos late]
        rfl
      · have updated : (shell.screen.updateDetails message).1.details =
            some (details.update message).1 :=
          (DetailsScreen.updateDetails_some (by exact current) message
            (DetailsScreen.current_of_not_isLate late)).1
        refine ⟨?_, ?_, sound.busy⟩
        · intro onPage
          change (shell.screen.updateDetails message).1.details.isSome = true
          rw [updated]
          rfl
        · intro other shown
          change (shell.screen.updateDetails message).1.details = some other
            at shown
          rw [updated] at shown
          cases shown
          exact (sound.picker details current).update message

theorem Sound.updateDetails
    {shell : AppShell}
    (sound : shell.Sound)
    (message : DetailsMessage) :
    (shell.updateDetails message).Sound := by
  have shown := sound.shown message
  unfold AppShell.updateDetails
  dsimp only
  split
  case h_1 closes => exact shown.closeDetails
  case h_2 id title launches => exact shown.of_eq rfl rfl rfl
  case h_3 => exact shown

theorem Sound.runRommEffect
    (language : Language)
    {shell : AppShell}
    (sound : shell.Sound)
    (effect : RommEffect) :
    (shell.runRommEffect language effect).Sound := by
  have page := congrArg Standing.page
    (App.standing_rommConnectionChanged language shell.app)
  unfold AppShell.runRommEffect
  split
  case h_6 =>
      exact sound.of_eq page rfl rfl
  case h_7 =>
      exact sound.of_eq page rfl rfl
  all_goals exact sound.of_eq rfl rfl rfl

theorem Sound.updateRomm
    (language : Language)
    {shell : AppShell}
    (sound : shell.Sound)
    (message : RommMessage) :
    (shell.updateRomm language message).Sound := by
  unfold AppShell.updateRomm
  split
  case isFalse early => exact sound
  case isTrue due =>
      apply Sound.runRommEffect
      refine ⟨sound.details, sound.picker, ?_⟩
      exact shell.links.requests_ne_nil_step message sound.busy

theorem Sound.submitTextField
    (language : Language)
    {shell : AppShell}
    (sound : shell.Sound)
    (field : Field) :
    (shell.submitTextField language field).Sound := by
  have ended : shell.endTextEntry.Sound :=
    sound.of_eq rfl rfl rfl
  cases field with
  | search => exact ended
  | rommUrl => exact ended
  | rommUsername =>
      unfold AppShell.submitTextField
      dsimp only
      split
      case isTrue shut => exact sound
      case isFalse shown => exact sound.of_eq rfl rfl rfl
  | rommPassword =>
      unfold AppShell.submitTextField
      dsimp only
      split
      case isTrue able => exact ended.updateRomm language .signInPressed
      case isFalse unable => exact ended

theorem Sound.stepBar
    {shell : AppShell}
    (sound : shell.Sound)
    (index : Nat)
    (direction : Direction) :
    (shell.stepBar index direction).Sound := by
  cases direction with
  | up => exact sound
  | left => exact sound.of_eq rfl rfl rfl
  | right => exact sound.of_eq rfl rfl rfl
  | down =>
      unfold AppShell.stepBar
      dsimp only
      split
      case isTrue home => exact sound.of_eq rfl rfl rfl
      case isFalse elsewhere => exact sound

theorem Sound.stepFocus
    (language : Language)
    {shell : AppShell}
    (sound : shell.Sound)
    (direction : Direction)
    (columns : Nat)
    (atTop : Bool) :
    (shell.stepFocus language direction columns atTop).Sound := by
  unfold AppShell.stepFocus
  split
  case isTrue menu =>
      exact sound.of_eq (congrArg Standing.page
        (App.standing_moveMenu shell.app direction)) rfl rfl
  case isFalse noMenu =>
      split
      case h_1 index onBar => exact sound.stepBar index direction
      case h_2 offBar =>
          split
          case h_1 =>
              split
              case isTrue leaves =>
                  exact sound.of_eq rfl rfl rfl
              case isFalse stays => exact sound
          case h_2 => exact sound.of_eq rfl rfl rfl
          case h_3 =>
              exact sound.of_eq (congrArg Standing.page
                (App.standing_stepFocus language shell.app direction columns))
                rfl rfl

theorem Sound.walkRing
    {shell : AppShell}
    (sound : shell.Sound)
    (backwards : Bool) :
    (shell.walkRing backwards).Sound := by
  unfold AppShell.walkRing
  split
  case isTrue elsewhere => exact sound
  case isFalse owner =>
      split
      case isTrue library => exact sound.of_eq rfl rfl rfl
      case isFalse other => exact sound.of_eq rfl rfl rfl

end AppShell

/-! ## Surfaces -/

/-- What Back leaves. -/
inductive Surface
  | textCaret
  | signInDialog
  | failedLaunch
  | tileMenu
  | filterDrawer
  | discPicker
  | detailsPage
  | topBar
  | ring
  | page
  deriving DecidableEq, Repr

/-- The surfaces as they stack, innermost first. -/
def Surface.order : List Surface :=
  [.textCaret, .signInDialog, .failedLaunch, .tileMenu, .filterDrawer,
    .discPicker, .detailsPage, .topBar, .ring, .page]

namespace AppShell

/-- Whether a surface is open.  The picker is open on the page of its screen,
and the top bar is a surface on the dashboard. -/
def isOpen (shell : AppShell) : Surface → Bool
  | .textCaret => shell.textEntry.isSome
  | .signInDialog => shell.links.form.signIn.isSome
  | .failedLaunch => shell.launchFailed
  | .tileMenu => shell.app.menu.target.isSome
  | .filterDrawer => shell.app.filters.isOpen
  | .discPicker =>
      shell.app.page = .details && shell.details.any Details.discPicker
  | .detailsPage => shell.app.page = .details
  | .topBar => shell.barCursor.isSome && shell.app.page = .dashboard
  | .ring => shell.app.cursors.ring.isSome
  | .page => shell.app.page ≠ .dashboard

/-- The number of open surfaces. -/
def openCount (shell : AppShell) : Nat :=
  Surface.order.countP shell.isOpen

/-- Neither a launch nor a request of the RomM form is in flight. -/
structure Quiet (shell : AppShell) : Prop where
  launch : shell.launchInFlight = false
  requests : shell.links.requests = []

/-- The clamped ring is on a stop exactly when the ring was. -/
theorem isSome_ring_clamp
    (cursors : Cursors)
    (layout : Layout) :
    (cursors.clamp layout).ring.isSome = cursors.ring.isSome := by
  have stops : 0 < layout.ringLen := by
    unfold Layout.ringLen
    omega
  unfold Cursors.clamp
  cases cursors.ring with
  | none => rfl
  | some index =>
      dsimp only
      rw [Option.map_some, Option.filter_some, decide_eq_true stops]
      rfl

/-- The page keeps its details screen when a fade ends. -/
theorem details_repair
    {shell : AppShell}
    (onPage : shell.app.page = .details)
    (faded : Bool) :
    (shell.repair faded).details = shell.details := by
  cases faded with
  | false => rfl
  | true =>
      change (shell.screen.expirePageFade).details = shell.details
      unfold DetailsScreen.expirePageFade
      split
      case isTrue fading =>
          change (if shell.app.page ≠ .details then none
            else shell.details) = shell.details
          rw [if_neg (not_not.mpr onPage)]
      case isFalse still => rfl

/-- What every message does first opens and closes nothing. -/
theorem isOpen_repair
    (shell : AppShell)
    (faded : Bool) :
    (shell.repair faded).isOpen = shell.isOpen := by
  have app : (shell.repair faded).app = shell.app.clampCursors := by
    cases faded with
    | false => rfl
    | true => rfl
  funext surface
  cases surface with
  | discPicker =>
      unfold isOpen
      rw [app]
      change (decide (shell.app.page = .details) && _) = _
      by_cases onPage : shell.app.page = .details
      · rw [details_repair onPage]
      · rw [decide_eq_false onPage]
        rfl
  | ring =>
      unfold isOpen
      rw [app]
      exact isSome_ring_clamp _ _
  | textCaret => cases faded <;> rfl
  | signInDialog => cases faded <;> rfl
  | failedLaunch => cases faded <;> rfl
  | tileMenu => cases faded <;> rfl
  | filterDrawer => cases faded <;> rfl
  | detailsPage => cases faded <;> rfl
  | topBar => cases faded <;> rfl
  | page => cases faded <;> rfl

theorem updateRomm_signInClosed
    (language : Language)
    (shell : AppShell) :
    shell.updateRomm language .signInClosed =
      { shell with
        links := shell.links.step .signInClosed
        textEntry := none } := rfl

theorem updateDetails_discPickerPressed
    {shell : AppShell}
    {details : Details}
    (shown : shell.details = some details) :
    shell.updateDetails .discPickerPressed =
      { shell with details := some details.togglePicker } := by
  obtain ⟨app, fading, current, textEntry, links, session, barCursor⟩ := shell
  cases shown
  rfl

theorem updateDetails_backPressed
    {shell : AppShell}
    {details : Details}
    (shown : shell.details = some details) :
    shell.updateDetails .backPressed =
      shell.switchPage (shell.app.closeDetails details.originIndex) := by
  have updated : (shell.screen.updateDetails .backPressed).1.details =
        shell.details ∧
      (shell.screen.updateDetails .backPressed).2 = .close := by
    rw [shown]
    apply DetailsScreen.updateDetails_some (by exact shown)
    exact Or.inr fun romId result => DetailsMessage.noConfusion
  unfold updateDetails
  dsimp only
  rw [updated.2, updated.1]
  change shell.closeDetails = _
  unfold closeDetails
  rw [shown]

/-! ## What Back does -/

/-- The first open surface. -/
def firstOpen (shell : AppShell) : Option Surface :=
  Surface.order.find? shell.isOpen

/-- What Back does, by the first open surface. -/
inductive Unwinds
    (language : Language)
    (shell : AppShell)
    (faded : Bool) : AppShell → Prop
  | textCaret :
      shell.firstOpen = some .textCaret →
      Unwinds language shell faded shell.endTextEntry
  | signInDialog :
      shell.firstOpen = some .signInDialog →
      Unwinds language shell faded
        ((shell.repair faded).updateRomm language .signInClosed)
  | failedLaunch :
      shell.firstOpen = some .failedLaunch →
      Unwinds language shell faded
        { shell.repair faded with
          session := (shell.repair faded).session.step .dismissFailure }
  | inFlight :
      shell.launchInFlight = true →
      Unwinds language shell faded shell
  | tileMenu :
      shell.firstOpen = some .tileMenu →
      Unwinds language shell faded
        { shell with app := { shell.app with menu := .closed } }
  | filterDrawer :
      shell.firstOpen = some .filterDrawer →
      Unwinds language shell faded
        { shell with app := shell.app.updateFilters language .close }
  | discPicker :
      shell.firstOpen = some .discPicker →
      Unwinds language shell faded
        ((shell.repair faded).updateDetails .discPickerPressed)
  | detailsPage :
      shell.firstOpen = some .detailsPage →
      Unwinds language shell faded
        ((shell.repair faded).updateDetails .backPressed)
  | topBar :
      shell.firstOpen = some .topBar →
      Unwinds language shell faded { shell with barCursor := none }
  | ring :
      shell.firstOpen = some .ring →
      Unwinds language shell faded
        { shell with
          app := { shell.app with
            cursors := { shell.app.cursors with ring := none } } }
  | page :
      shell.firstOpen = some .page →
      Unwinds language shell faded
        (shell.land (shell.app.leaveRing .dashboard))
  | home :
      shell.firstOpen = none →
      Unwinds language shell faded shell

/-- The rungs of `back`, one after the other. -/
theorem unwinds_back
    (language : Language)
    (shell : AppShell)
    (faded : Bool) :
    Unwinds language shell faded (shell.back language faded) := by
  unfold back
  cases caret : shell.isOpen .textCaret with
  | true =>
      rw [if_pos (by exact caret)]
      exact .textCaret (by simp only [firstOpen, Surface.order, List.find?,
        caret])
  | false =>
  rw [if_neg (by exact Bool.eq_false_iff.mp caret)]
  cases dialog : shell.isOpen .signInDialog with
  | true =>
      rw [if_pos (by exact dialog)]
      exact .signInDialog (by simp only [firstOpen, Surface.order, List.find?,
        caret, dialog])
  | false =>
  rw [if_neg (by exact Bool.eq_false_iff.mp dialog)]
  cases failure : shell.isOpen .failedLaunch with
  | true =>
      rw [if_pos (by exact failure)]
      exact .failedLaunch (by simp only [firstOpen, Surface.order, List.find?,
        caret, dialog, failure])
  | false =>
  rw [if_neg (by exact Bool.eq_false_iff.mp failure)]
  cases flying : shell.launchInFlight with
  | true =>
      rw [if_pos rfl]
      exact .inFlight flying
  | false =>
  rw [if_neg Bool.false_ne_true]
  cases menu : shell.isOpen .tileMenu with
  | true =>
      rw [if_pos (by exact menu)]
      exact .tileMenu (by simp only [firstOpen, Surface.order, List.find?,
        caret, dialog, failure, menu])
  | false =>
  rw [if_neg (by exact Bool.eq_false_iff.mp menu)]
  cases drawer : shell.isOpen .filterDrawer with
  | true =>
      rw [if_pos (by exact drawer)]
      exact .filterDrawer (by simp only [firstOpen, Surface.order, List.find?,
        caret, dialog, failure, menu, drawer])
  | false =>
  rw [if_neg (by exact Bool.eq_false_iff.mp drawer)]
  cases onPage : shell.isOpen .detailsPage with
  | true =>
      have page : shell.app.page = .details := of_decide_eq_true onPage
      rw [if_pos page]
      cases picker : shell.details.any Details.discPicker with
      | true =>
          have shown : shell.isOpen .discPicker = true := by
            change (decide _ && _) = true
            rw [decide_eq_true page, picker]
            rfl
          rw [if_pos rfl]
          exact .discPicker (by simp only [firstOpen, Surface.order,
            List.find?, caret, dialog, failure, menu, drawer, shown])
      | false =>
          have shut : shell.isOpen .discPicker = false := by
            change (decide _ && _) = false
            rw [picker, Bool.and_false]
          rw [if_neg Bool.false_ne_true]
          exact .detailsPage (by simp only [firstOpen, Surface.order,
            List.find?, caret, dialog, failure, menu, drawer, shut, onPage])
  | false =>
  have elsewhere : shell.app.page ≠ .details := of_decide_eq_false onPage
  have shut : shell.isOpen .discPicker = false := by
    change (decide _ && _) = false
    rw [decide_eq_false elsewhere, Bool.false_and]
  rw [if_neg elsewhere]
  cases bar : shell.isOpen .topBar with
  | true =>
      rw [if_pos (by exact bar)]
      exact .topBar (by simp only [firstOpen, Surface.order, List.find?,
        caret, dialog, failure, menu, drawer, shut, onPage, bar])
  | false =>
  rw [if_neg (by exact Bool.eq_false_iff.mp bar)]
  cases ring : shell.isOpen .ring with
  | true =>
      rw [if_pos (by exact ring)]
      exact .ring (by simp only [firstOpen, Surface.order, List.find?,
        caret, dialog, failure, menu, drawer, shut, onPage, bar, ring])
  | false =>
  rw [if_neg (by exact Bool.eq_false_iff.mp ring)]
  cases away : shell.isOpen .page with
  | true =>
      rw [if_pos (by exact of_decide_eq_true away)]
      exact .page (by simp only [firstOpen, Surface.order, List.find?,
        caret, dialog, failure, menu, drawer, shut, onPage, bar, ring, away])
  | false =>
      rw [if_neg (by exact of_decide_eq_false away)]
      exact .home (by simp only [firstOpen, Surface.order, List.find?,
        caret, dialog, failure, menu, drawer, shut, onPage, bar, ring, away])

theorem Sound.back
    (language : Language)
    {shell : AppShell}
    (sound : shell.Sound)
    (faded : Bool) :
    (shell.back language faded).Sound := by
  have repaired := sound.repair faded
  have unwinds := unwinds_back language shell faded
  generalize shell.back language faded = next at unwinds ⊢
  cases unwinds with
  | textCaret first => exact sound.of_eq rfl rfl rfl
  | signInDialog first => exact repaired.updateRomm language .signInClosed
  | failedLaunch first => exact repaired.of_eq rfl rfl rfl
  | inFlight flying => exact sound
  | tileMenu first => exact sound.of_eq rfl rfl rfl
  | filterDrawer first => exact sound.of_eq rfl rfl rfl
  | discPicker first => exact repaired.updateDetails .discPickerPressed
  | detailsPage first => exact repaired.updateDetails .backPressed
  | topBar first => exact sound.of_eq rfl rfl rfl
  | ring first => exact sound.of_eq rfl rfl rfl
  | page first =>
      apply sound.land
      intro onPage
      cases onPage
  | home first => exact sound

theorem Sound.handle
    (language : Language)
    {shell : AppShell}
    (sound : shell.Sound)
    (faded : Bool)
    (message : AppMessage) :
    (shell.handle language faded message).Sound := by
  cases message with
  | library message => exact sound.library language message
  | openDetails index => exact sound.openDetails index
  | details message => exact sound.updateDetails message
  | openSearch =>
      have arrived :
          (shell.switchPage (shell.app.leaveRing .library)).Sound := by
        apply sound.switchPage
        intro onPage
        cases onPage
      exact arrived.of_eq rfl rfl rfl
  | openSettings inApp =>
      cases inApp with
      | false => exact sound
      | true =>
          change (shell.openSettings language).Sound
          unfold openSettings
          apply Sound.updateRomm
          apply sound.land
          intro onPage
          cases onPage
  | romm message => exact sound.updateRomm language message
  | textFieldFocused field => exact sound.of_eq rfl rfl rfl
  | textFieldBlurred field =>
      change (shell.blur field).Sound
      unfold blur
      split
      case isTrue its => exact sound.of_eq rfl rfl rfl
      case isFalse other => exact sound
  | textFieldSubmitted field => exact sound.submitTextField language field
  | cardPressed title => exact sound.of_eq rfl rfl rfl
  | session step => exact sound.of_eq rfl rfl rfl
  | stepFocus direction columns atTop =>
      change (if shell.padReachesPages then _ else shell).Sound
      split
      case isTrue reaches =>
          exact sound.stepFocus language direction columns atTop
      case isFalse dropped => exact sound
  | searchPressed =>
      change (if shell.padReachesPages then _ else shell).Sound
      split
      case isTrue reaches => exact sound.of_eq rfl rfl rfl
      case isFalse dropped => exact sound
  | walkRing backwards => exact sound.walkRing backwards
  | back =>
      change (if shell.backReaches then _ else shell).Sound
      split
      case isTrue reaches => exact sound.back language faded
      case isFalse dropped => exact sound

theorem sound_run
    (language : Language)
    (config : AppLibraryConfig)
    (steps : List (Bool × AppMessage)) :
    ((machine language config).run steps).Sound := by
  apply (machine language config).run_induction
  · exact sound_init config
  · intro shell step sound
    exact (sound.repair step.1).handle language step.1 step.2

/-! ## Back closes the first surface -/

theorem Sound.free
    {shell : AppShell}
    (sound : shell.Sound)
    (quiet : shell.Quiet) :
    shell.links.form.busy = false := by
  cases busy : shell.links.form.busy with
  | false => rfl
  | true => exact absurd quiet.requests (sound.busy busy)

theorem Quiet.repair
    {shell : AppShell}
    (quiet : shell.Quiet)
    (faded : Bool) :
    (shell.repair faded).Quiet := by
  cases faded with
  | false => exact ⟨quiet.launch, quiet.requests⟩
  | true => exact ⟨quiet.launch, quiet.requests⟩

/-- The surface Back finds first is open. -/
theorem isOpen_of_firstOpen
    {shell : AppShell}
    {surface : Surface}
    (first : shell.firstOpen = some surface) :
    shell.isOpen surface = true :=
  List.find?_some first

/-- A shut picker leaves every other surface as it is. -/
theorem closesFirst_discPicker
    {shell : AppShell}
    (sound : shell.Sound)
    (first : shell.firstOpen = some .discPicker) :
    ClosesFirst Surface.order shell.isOpen
      (shell.updateDetails .discPickerPressed).isOpen := by
  obtain ⟨-, picked⟩ := Bool.and_eq_true_iff.mp (isOpen_of_firstOpen first)
  obtain ⟨details, shown, picker⟩ := (Option.any_eq_true _ _).mp picked
  have several := sound.picker details shown picker
  have toggled : details.togglePicker.discPicker = false := by
    unfold Details.togglePicker
    rw [if_neg (Nat.not_lt.mpr several)]
    change (!details.discPicker) = false
    rw [picker]
    rfl
  rw [updateDetails_discPickerPressed shown]
  refine ClosesFirst.of_first first ?_ ?_
  · change (_ && details.togglePicker.discPicker) = false
    rw [toggled, Bool.and_false]
  · intro other different
    cases other with
    | discPicker => exact absurd rfl different
    | _ => rfl

/-- The details screen leaves for the library. -/
theorem closesFirst_detailsPage
    {shell : AppShell}
    (sound : shell.Sound)
    (first : shell.firstOpen = some .detailsPage) :
    ClosesFirst Surface.order shell.isOpen
      (shell.updateDetails .backPressed).isOpen := by
  have noCaret : shell.isOpen .textCaret = false :=
    shut_of_find? first (by decide)
  have noPicker : shell.isOpen .discPicker = false :=
    shut_of_find? first (by decide)
  have onPage : shell.app.page = .details :=
    of_decide_eq_true (isOpen_of_firstOpen first)
  obtain ⟨details, shown⟩ :=
    Option.isSome_iff_exists.mp (sound.details onPage)
  rw [updateDetails_backPressed shown]
  have moved : shell.switchPage (shell.app.closeDetails details.originIndex) =
      { shell with
        app := shell.app.closeDetails details.originIndex
        fading := true
        textEntry := none } := by
    unfold switchPage
    rw [if_neg (by rw [onPage]; exact ShellPage.noConfusion)]
  rw [moved]
  refine ClosesFirst.of_first first rfl ?_
  intro other different
  cases other with
  | detailsPage => exact absurd rfl different
  | discPicker =>
      rw [noPicker]
      rfl
  | textCaret =>
      rw [noCaret]
      rfl
  | topBar =>
      change (shell.barCursor.isSome && false) =
        (shell.barCursor.isSome && decide (shell.app.page = .dashboard))
      rw [onPage]
      rfl
  | page =>
      change true = decide (shell.app.page ≠ .dashboard)
      rw [onPage]
      rfl
  | _ => rfl

/-- The last page leaves for the dashboard. -/
theorem closesFirst_page
    {shell : AppShell}
    (first : shell.firstOpen = some .page) :
    ClosesFirst Surface.order shell.isOpen
      (shell.land (shell.app.leaveRing .dashboard)).isOpen := by
  have away : shell.app.page ≠ .dashboard :=
    of_decide_eq_true (isOpen_of_firstOpen first)
  have moved : shell.land (shell.app.leaveRing .dashboard) =
      { shell with
        app := shell.app.leaveRing .dashboard
        fading := true
        textEntry := none
        barCursor := none } := by
    unfold land switchPage
    rw [if_neg (by exact away)]
  rw [moved]
  refine ClosesFirst.of_first first rfl ?_
  intro other different
  cases other with
  | page => exact absurd rfl different
  | textCaret => exact (shut_of_find? first (by decide)).symm
  | discPicker => exact (shut_of_find? first (by decide)).symm
  | detailsPage => exact (shut_of_find? first (by decide)).symm
  | topBar => exact (shut_of_find? first (by decide)).symm
  | ring => exact (shut_of_find? first (by decide)).symm
  | _ => rfl

/-- The dialog shuts while the form is free. -/
theorem closesFirst_signInDialog
    (language : Language)
    {shell : AppShell}
    (free : shell.links.form.busy = false)
    (first : shell.firstOpen = some .signInDialog) :
    ClosesFirst Surface.order shell.isOpen
      (shell.updateRomm language .signInClosed).isOpen := by
  rw [updateRomm_signInClosed, RommLinks.step_signInClosed free]
  refine ClosesFirst.of_first first rfl ?_
  intro other different
  cases other with
  | signInDialog => exact absurd rfl different
  | textCaret => exact (shut_of_find? first (by decide)).symm
  | _ => rfl

theorem closesFirst_failedLaunch
    {shell : AppShell}
    (first : shell.firstOpen = some .failedLaunch) :
    ClosesFirst Surface.order shell.isOpen
      { shell with session := shell.session.step .dismissFailure }.isOpen := by
  refine ClosesFirst.of_first first ?_ ?_
  · have failed : shell.launchFailed = true := isOpen_of_firstOpen first
    change launchFailed _ = false
    unfold launchFailed at failed ⊢
    split at failed
    case h_1 title reason shown =>
        unfold Shell.step
        dsimp only
        rw [shown]
        rfl
    case h_2 => cases failed
  · intro other different
    cases other with
    | failedLaunch => exact absurd rfl different
    | _ => rfl

/-- Back closes the first open surface, and opens none. -/
theorem closesFirst_back
    (language : Language)
    {shell : AppShell}
    (sound : shell.Sound)
    (quiet : shell.Quiet)
    (faded : Bool) :
    ClosesFirst Surface.order shell.isOpen
      (shell.back language faded).isOpen := by
  -- What closes a surface with a message of its own sees the repaired shell.
  have repaired := sound.repair faded
  have same := isOpen_repair shell faded
  have firstRepaired : (shell.repair faded).firstOpen = shell.firstOpen := by
    unfold firstOpen
    rw [same]
  have unwinds := unwinds_back language shell faded
  generalize shell.back language faded = next at unwinds ⊢
  cases unwinds with
  | textCaret first =>
      refine ClosesFirst.of_first first rfl ?_
      intro other different
      cases other with
      | textCaret => exact absurd rfl different
      | _ => rfl
  | signInDialog first =>
      rw [← same]
      apply closesFirst_signInDialog language
      · exact repaired.free (quiet.repair faded)
      · exact firstRepaired.trans first
  | failedLaunch first =>
      rw [← same]
      exact closesFirst_failedLaunch (firstRepaired.trans first)
  | inFlight flying =>
      rw [quiet.launch] at flying
      cases flying
  | tileMenu first =>
      refine ClosesFirst.of_first first rfl ?_
      intro other different
      cases other with
      | tileMenu => exact absurd rfl different
      | _ => rfl
  | filterDrawer first =>
      refine ClosesFirst.of_first first rfl ?_
      intro other different
      cases other with
      | filterDrawer => exact absurd rfl different
      | _ => rfl
  | discPicker first =>
      rw [← same]
      exact closesFirst_discPicker repaired (firstRepaired.trans first)
  | detailsPage first =>
      rw [← same]
      exact closesFirst_detailsPage repaired (firstRepaired.trans first)
  | topBar first =>
      refine ClosesFirst.of_first first rfl ?_
      intro other different
      cases other with
      | topBar => exact absurd rfl different
      | _ => rfl
  | ring first =>
      refine ClosesFirst.of_first first rfl ?_
      intro other different
      cases other with
      | ring => exact absurd rfl different
      | _ => rfl
  | page first => exact closesFirst_page first
  | home first => exact ClosesFirst.of_none first fun surface => rfl

/-! ## Back leads home -/

/-- Back begins neither a launch nor a request. -/
theorem Quiet.back
    (language : Language)
    {shell : AppShell}
    (sound : shell.Sound)
    (quiet : shell.Quiet)
    (faded : Bool) :
    (shell.back language faded).Quiet := by
  have repaired := quiet.repair faded
  have unwinds := unwinds_back language shell faded
  generalize shell.back language faded = next at unwinds ⊢
  cases unwinds with
  | signInDialog first =>
      have free := (sound.repair faded).free repaired
      rw [updateRomm_signInClosed, RommLinks.step_signInClosed free]
      exact ⟨repaired.launch, repaired.requests⟩
  | failedLaunch first =>
      refine ⟨?_, repaired.requests⟩
      have landed := repaired.launch
      unfold launchInFlight at landed
      unfold launchInFlight Shell.step
      dsimp only
      cases state : (shell.repair faded).session.launchState with
      | idle =>
          dsimp only
          rw [state]
      | launching title =>
          rw [state] at landed
          cases landed
      | failed title reason => rfl
  | discPicker first =>
      have onPage := (Bool.and_eq_true_iff.mp (isOpen_of_firstOpen first)).1
      obtain ⟨details, shown⟩ := Option.isSome_iff_exists.mp
        (sound.details (of_decide_eq_true onPage))
      rw [← details_repair (of_decide_eq_true onPage) faded] at shown
      rw [updateDetails_discPickerPressed shown]
      exact ⟨repaired.launch, repaired.requests⟩
  | detailsPage first =>
      have onPage := of_decide_eq_true (isOpen_of_firstOpen first)
      obtain ⟨details, shown⟩ := Option.isSome_iff_exists.mp
        (sound.details onPage)
      rw [← details_repair onPage faded] at shown
      rw [updateDetails_backPressed shown]
      refine ⟨?_, ?_⟩
      · unfold launchInFlight
        rw [session_switchPage]
        exact repaired.launch
      · rw [links_switchPage]
        exact repaired.requests
  | page first =>
      refine ⟨?_, ?_⟩
      · unfold launchInFlight land
        dsimp only
        rw [session_switchPage]
        exact quiet.launch
      · unfold land
        dsimp only
        rw [links_switchPage]
        exact quiet.requests
  | _ => exact ⟨quiet.launch, quiet.requests⟩

/-- A press of Back that the shell acts on. -/
def press
    (language : Language)
    (shell : AppShell)
    (faded : Bool) : AppShell :=
  (shell.repair faded).back language faded

theorem openCount_back
    (language : Language)
    {shell : AppShell}
    (sound : shell.Sound)
    (quiet : shell.Quiet)
    (faded : Bool) :
    (shell.back language faded).openCount = shell.openCount - 1 :=
  (closesFirst_back language sound quiet faded).countP_after (by decide)

/-- Enough presses leave nothing open. -/
theorem isOpen_foldl_press
    (language : Language)
    {shell : AppShell}
    (sound : shell.Sound)
    (quiet : shell.Quiet)
    {presses : List Bool}
    (enough : shell.openCount ≤ presses.length)
    (surface : Surface) :
    (presses.foldl (press language) shell).isOpen surface = false := by
  have none : (presses.foldl (press language) shell).openCount = 0 := by
    refine countP_foldl_eq_zero (by decide)
      (fun shell => shell.Sound ∧ shell.Quiet) ?_ ?_ ⟨sound, quiet⟩ enough
    · rintro shell faded ⟨sound, quiet⟩
      have repaired := sound.repair faded
      exact ⟨repaired.back language faded,
        (quiet.repair faded).back language repaired faded⟩
    · rintro shell faded ⟨sound, quiet⟩
      rw [← isOpen_repair shell faded]
      exact closesFirst_back language (sound.repair faded) (quiet.repair faded)
        faded
  have member : surface ∈ Surface.order := by
    cases surface <;> decide
  exact Bool.eq_false_iff.mpr (List.countP_eq_zero.mp none surface member)

/-- In every reachable state the details page has its screen and an open
picker has files to pick from.  While neither a launch nor a request of the
RomM form is in flight, Back closes the first open surface and opens none, so
that their number goes down, and as many presses as there are open surfaces
lead to the dashboard with nothing open. -/
theorem back_leads_home
    (language : Language)
    (config : AppLibraryConfig)
    (steps : List (Bool × AppMessage)) :
    let shell := (machine language config).run steps
    (shell.app.page = .details → shell.details.isSome = true) ∧
      (∀ details, shell.details = some details →
        details.discPicker = true → 2 ≤ details.versions.length) ∧
      (shell.launchInFlight = false → shell.links.requests = [] →
        (∀ faded,
          ClosesFirst Surface.order shell.isOpen
              (shell.back language faded).isOpen ∧
            (0 < shell.openCount →
              (shell.back language faded).openCount < shell.openCount)) ∧
        ∀ presses : List Bool, shell.openCount ≤ presses.length →
          let home := presses.foldl (press language) shell
          home.app.page = .dashboard ∧
            ∀ surface, home.isOpen surface = false) := by
  intro shell
  have sound := sound_run language config steps
  refine ⟨sound.details, sound.picker, ?_⟩
  intro landed answered
  have quiet : shell.Quiet := ⟨landed, answered⟩
  refine ⟨?_, ?_⟩
  · intro faded
    refine ⟨closesFirst_back language sound quiet faded, ?_⟩
    intro shown
    have fewer := openCount_back language sound quiet faded
    change 0 < shell.openCount at shown
    change (shell.back language faded).openCount = shell.openCount - 1 at fewer
    omega
  · intro presses enough home
    have closed := isOpen_foldl_press language sound quiet enough
    exact ⟨not_not.mp (of_decide_eq_false (closed .page)), closed⟩

/-- The settings open, their connection is read, and the dialog opens with the
caret in it. -/
def signingIn : List (Bool × AppMessage) :=
  [(false, .openSettings true),
    (true, .romm (.loaded (.ok none))),
    (false, .romm .signInOpened)]

theorem back_leads_home_signing_in :
    let shell := (machine .ascii ⟨[], ∅⟩).run signingIn
    shell.openCount = 3 ∧ shell.launchInFlight = false ∧
      shell.links.requests = [] ∧
      ([false, true, false].foldl (press .ascii) shell).app.page =
        .dashboard := by
  have home := (back_leads_home .ascii ⟨[], ∅⟩ signingIn).2.2 rfl rfl
  exact ⟨rfl, rfl, rfl, (home.2 [false, true, false] (by decide)).1⟩

end AppShell
end Frontend
end Hearthdeck
