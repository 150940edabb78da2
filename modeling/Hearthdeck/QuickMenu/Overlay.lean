import Hearthdeck.Protocol.Input

/-!
# The quick menu of the overlay

The menu over a running application is a status, a selected row, and whether
it is on the screen.  An event moves these and asks for one effect.  Around
the menu the overlay keeps whether it asked the input broker for capture and
what the broker last failed with: the menu is shown when the broker answers,
and hiding it gives the capture back.

The effects start what runs outside: the surface, the stop of the
application, the log-out, and the pause before a menu hides after a stop.
-/

namespace Hearthdeck
namespace QuickMenu

/-- `MENU_ITEM_COUNT`. -/
def menuItemCount : Nat := 3

/-- `RETRY_ITEM_COUNT`. -/
def retryItemCount : Nat := 2

/-- `Status`: what the menu is at. -/
inductive Status
  | menu
  | closing
  | closeFailed
  | loggingOut
  | logOutFailed
  deriving DecidableEq, Repr

namespace Status

/-- `busy`: a close or a log-out waits for its report. -/
def busy : Status → Bool
  | closing => true
  | loggingOut => true
  | _ => false

/-- `item_count`: the rows of the menu shown in a status. -/
def itemCount : Status → Nat
  | menu => menuItemCount
  | closeFailed => retryItemCount
  | logOutFailed => retryItemCount
  | closing => retryItemCount
  | loggingOut => retryItemCount

end Status

/-- `Event`: what the menu is told. -/
inductive Event
  | toggle
  | navigateUp
  | navigateDown
  | activate
  | resume
  | close
  | closeSucceeded
  | closeFailed
  | hideAfterClose
  | logOut
  | logOutSucceeded
  | logOutFailed
  deriving DecidableEq, Repr

/-- The events that report on what the menu asked for. -/
def Event.reports : Event → Bool
  | closeSucceeded => true
  | closeFailed => true
  | hideAfterClose => true
  | logOutSucceeded => true
  | logOutFailed => true
  | _ => false

/-- `Effect`: what the menu asks for. -/
inductive Effect
  | none
  | show
  | hide
  | stopApplication
  | delayHide
  | logOut
  deriving DecidableEq, Repr

/-- The tasks that report back with a message. -/
inductive Job
  | stop
  | logOut
  | hide
  deriving DecidableEq, Repr

/-- The task an effect starts. -/
def Effect.job : Effect → Option Job
  | stopApplication => some .stop
  | logOut => some .logOut
  | delayHide => some .hide
  | _ => Option.none

/-- `OverlayState`. -/
structure OverlayState where
  visible : Bool := false
  status : Status := .menu
  selected : Nat := 0
  deriving DecidableEq, Repr

namespace OverlayState

/-- The arms of `Event::Toggle`. -/
def toggle (state : OverlayState) : OverlayState × Effect :=
  if state.status.busy then
    (state, .none)
  else if state.visible then
    ({ state with visible := false }, .hide)
  else
    ({ state with visible := true, status := .menu, selected := 0 }, .show)

/-- The arms of `Event::NavigateUp` and `Event::NavigateDown`, told how the
selected row moves in a menu of a given length. -/
def navigate
    (state : OverlayState)
    (move : Nat → Nat → Nat) : OverlayState × Effect :=
  if state.visible && !state.status.busy then
    ({ state with
        selected := move state.status.itemCount state.selected }, .none)
  else
    (state, .none)

/-- The arm of `Event::Resume`, also reached by a log-out that succeeded. -/
def resume (state : OverlayState) : OverlayState × Effect :=
  ({ state with visible := false, status := .menu }, .hide)

/-- The arms of `Event::Close`. -/
def close (state : OverlayState) : OverlayState × Effect :=
  if state.status.busy then
    (state, .none)
  else
    ({ state with status := .closing }, .stopApplication)

/-- The arms of `Event::LogOut`. -/
def logOut (state : OverlayState) : OverlayState × Effect :=
  if state.status.busy then
    (state, .none)
  else
    ({ state with status := .loggingOut }, .logOut)

/-- What the selected row of a menu stands for. -/
def activateRow (state : OverlayState) : OverlayState × Effect :=
  match state.status, state.selected with
  | .menu, 0 => state.resume
  | .closeFailed, 1 => state.resume
  | .logOutFailed, 1 => state.resume
  | .menu, 1 => state.close
  | .closeFailed, 0 => state.close
  | .menu, 2 => state.logOut
  | .logOutFailed, 0 => state.logOut
  | _, _ => (state, .none)

/-- The arms of `Event::Activate`. -/
def activate (state : OverlayState) : OverlayState × Effect :=
  if !state.visible || state.status.busy then
    (state, .none)
  else
    state.activateRow

/-- `OverlayState::update`. -/
def update (state : OverlayState) : Event → OverlayState × Effect
  | .toggle => state.toggle
  | .navigateUp =>
      state.navigate fun count selected => (selected + count - 1) % count
  | .navigateDown =>
      state.navigate fun count selected => (selected + 1) % count
  | .activate => state.activate
  | .resume => state.resume
  | .close => state.close
  | .closeSucceeded => (state, .delayHide)
  | .closeFailed =>
      ({ state with status := .closeFailed, selected := 0 }, .none)
  | .hideAfterClose =>
      ({ state with visible := false, status := .menu }, .hide)
  | .logOut => state.logOut
  | .logOutSucceeded => state.resume
  | .logOutFailed =>
      ({ state with status := .logOutFailed, selected := 0 }, .none)

/-! ### What a busy menu takes -/

theorem navigate_of_busy
    {state : OverlayState}
    (busy : state.status.busy = true)
    (move : Nat → Nat → Nat) :
    state.navigate move = (state, .none) := by
  rw [navigate, busy, Bool.not_true, Bool.and_false,
    if_neg Bool.false_ne_true]

/-- While a close or a log-out waits, what is entered is ignored, except that
the menu can be left. -/
theorem update_of_busy
    {state : OverlayState}
    (busy : state.status.busy = true)
    {event : Event}
    (entered : event.reports = false)
    (other : event ≠ .resume) :
    state.update event = (state, .none) := by
  cases event with
  | toggle => exact if_pos busy
  | navigateUp =>
      unfold update
      exact navigate_of_busy busy _
  | navigateDown =>
      unfold update
      exact navigate_of_busy busy _
  | activate =>
      change state.activate = _
      rw [activate, busy, Bool.or_true, if_pos rfl]
  | resume => exact absurd rfl other
  | close => exact if_pos busy
  | logOut => exact if_pos busy
  | closeSucceeded => cases entered
  | closeFailed => cases entered
  | hideAfterClose => cases entered
  | logOutSucceeded => cases entered
  | logOutFailed => cases entered

theorem busy_close (state : OverlayState) :
    state.close.1.status.busy = true := by
  unfold close
  split
  case isTrue busy => exact busy
  case isFalse free => rfl

theorem busy_logOut (state : OverlayState) :
    state.logOut.1.status.busy = true := by
  unfold logOut
  split
  case isTrue busy => exact busy
  case isFalse free => rfl

theorem job_toggle (state : OverlayState) :
    state.toggle.2.job = none := by
  unfold toggle
  split
  case isTrue busy => rfl
  case isFalse free =>
      split
      case isTrue shown => rfl
      case isFalse hidden => rfl

theorem job_navigate
    (state : OverlayState)
    (move : Nat → Nat → Nat) :
    (state.navigate move).2.job = none := by
  unfold navigate
  split
  case isTrue able => rfl
  case isFalse unable => rfl

theorem busy_of_job_activateRow
    {state : OverlayState}
    {job : Job}
    (started : state.activateRow.2.job = some job) :
    state.activateRow.1.status.busy = true := by
  unfold activateRow at started ⊢
  split
  case h_1 | h_2 | h_3 => simp_all [resume, Effect.job]
  case h_4 | h_5 => exact busy_close state
  case h_6 | h_7 => exact busy_logOut state
  case h_8 => simp_all [Effect.job]

/-- What is entered starts a task only by making the menu busy. -/
theorem busy_of_job
    {state : OverlayState}
    {event : Event}
    (entered : event.reports = false)
    {job : Job}
    (started : (state.update event).2.job = some job) :
    (state.update event).1.status.busy = true := by
  cases event with
  | toggle =>
      change state.toggle.2.job = _ at started
      rw [job_toggle] at started
      cases started
  | navigateUp =>
      change (state.navigate _).2.job = _ at started
      rw [job_navigate] at started
      cases started
  | navigateDown =>
      change (state.navigate _).2.job = _ at started
      rw [job_navigate] at started
      cases started
  | activate =>
      change state.activate.2.job = _ at started
      change state.activate.1.status.busy = _
      unfold activate at started ⊢
      split
      case isTrue unable =>
          rw [if_pos unable] at started
          cases started
      case isFalse able =>
          rw [if_neg able] at started
          exact busy_of_job_activateRow started
  | resume => cases started
  | close => exact busy_close state
  | logOut => exact busy_logOut state
  | closeSucceeded => cases entered
  | closeFailed => cases entered
  | hideAfterClose => cases entered
  | logOutSucceeded => cases entered
  | logOutFailed => cases entered

/-! ### What moves the menu on and off the screen -/

/-- What an event does to whether the menu is on the screen. -/
inductive Moves
    (state : OverlayState)
    (event : Event) :
    OverlayState × Effect → Prop
  | hidden
      (next : OverlayState)
      (gone : next.visible = false) :
      Moves state event (next, .hide)
  | stays
      (next : OverlayState)
      (effect : Effect)
      (same : next.visible = state.visible)
      (other : effect ≠ .hide) :
      Moves state event (next, effect)
  | shown
      (next : OverlayState)
      (toggle : event = .toggle)
      (was : state.visible = false) :
      Moves state event (next, .show)

theorem moves_close (state : OverlayState) (event : Event) :
    Moves state event state.close := by
  unfold close
  split
  case isTrue busy => exact .stays _ _ rfl nofun
  case isFalse free => exact .stays _ _ rfl nofun

theorem moves_logOut (state : OverlayState) (event : Event) :
    Moves state event state.logOut := by
  unfold logOut
  split
  case isTrue busy => exact .stays _ _ rfl nofun
  case isFalse free => exact .stays _ _ rfl nofun

theorem moves_navigate
    (state : OverlayState)
    (event : Event)
    (move : Nat → Nat → Nat) :
    Moves state event (state.navigate move) := by
  unfold navigate
  split
  case isTrue able => exact .stays _ _ rfl nofun
  case isFalse unable => exact .stays _ _ rfl nofun

theorem moves_activate (state : OverlayState) (event : Event) :
    Moves state event state.activate := by
  unfold activate
  split
  case isTrue unable => exact .stays _ _ rfl nofun
  case isFalse able =>
      unfold activateRow
      split
      case h_1 | h_2 | h_3 => exact .hidden _ rfl
      case h_4 | h_5 => exact moves_close state event
      case h_6 | h_7 => exact moves_logOut state event
      case h_8 => exact .stays _ _ rfl nofun

/-- Only a toggle shows a hidden menu, and a menu is hidden with the effect
that hides its surface. -/
theorem moves_update (state : OverlayState) (event : Event) :
    Moves state event (state.update event) := by
  cases event with
  | toggle =>
      change Moves state .toggle state.toggle
      unfold toggle
      split
      case isTrue busy => exact .stays _ _ rfl nofun
      case isFalse free =>
          split
          case isTrue visible => exact .hidden _ rfl
          case isFalse hidden =>
              exact .shown _ rfl (Bool.eq_false_iff.mpr hidden)
  | navigateUp =>
      unfold update
      exact moves_navigate state _ _
  | navigateDown =>
      unfold update
      exact moves_navigate state _ _
  | activate => exact moves_activate state _
  | resume => exact .hidden _ rfl
  | close => exact moves_close state _
  | closeSucceeded => exact .stays _ _ rfl nofun
  | closeFailed => exact .stays _ _ rfl nofun
  | hideAfterClose => exact .hidden _ rfl
  | logOut => exact moves_logOut state _
  | logOutSucceeded => exact .hidden _ rfl
  | logOutFailed => exact .stays _ _ rfl nofun

end OverlayState

/-- `Message`: what the overlay's loop takes. -/
inductive Message
  | brokerInput (event : Protocol.Event)
  | toggleOverlay
  | navigateUp
  | navigateDown
  | activate
  | resumeApp
  | closeApp
  /-- The report of a stop. -/
  | closeFinished (result : Except String Unit)
  | hideAfterClose
  | logOut
  /-- The report of a log-out. -/
  | logOutFinished (result : Except String Unit)

/-- The messages that tasks report with. -/
def Message.reports : Message → Bool
  | closeFinished _ => true
  | hideAfterClose => true
  | logOutFinished _ => true
  | _ => false

/-- `Overlay`: the menu and what the overlay keeps about the broker. -/
structure Overlay where
  state : OverlayState := {}
  /-- Whether capture is asked for. -/
  brokerRequested : Bool := false
  /-- What the broker last failed with. -/
  brokerError : Option String := none
  deriving DecidableEq, Repr

namespace Overlay

/-- `apply_effect`: hiding gives the capture back.  The other effects only
start a task, which is what the effect returned stands for. -/
def applyEffect (overlay : Overlay) (effect : Effect) : Overlay × Effect :=
  match effect with
  | .hide =>
      ({ overlay with brokerRequested := false, brokerError := none }, .hide)
  | effect => (overlay, effect)

/-- Tell the menu and apply what it asks for. -/
def tell (overlay : Overlay) (event : Event) : Overlay × Effect :=
  let told := overlay.state.update event
  { overlay with state := told.1 }.applyEffect told.2

/-- `Message::ToggleOverlay`: a hidden menu is asked for, or no longer asked
for, and a menu on the screen is toggled. -/
def toggleOverlay (overlay : Overlay) : Overlay × Effect :=
  if !overlay.state.visible then
    ({ overlay with brokerRequested := !overlay.brokerRequested }, .none)
  else
    overlay.tell .toggle

/-- What the pad's actions are in the menu. -/
def menuAction
    (overlay : Overlay) :
    Protocol.Action → Overlay × Effect
  | .moveUp => overlay.tell .navigateUp
  | .moveDown => overlay.tell .navigateDown
  | .confirm => overlay.tell .activate
  | .back => overlay.tell .resume
  | _ => (overlay, .none)

/-- The arm of `BrokerEvent::Failed`: a menu that was asked for is shown
without the controller. -/
def brokerFailed
    (overlay : Overlay)
    (error : String) : Overlay × Effect :=
  let failed := { overlay with
    brokerRequested := false
    brokerError := some error }
  if !overlay.state.visible && overlay.brokerRequested then
    failed.tell .toggle
  else
    (failed, .none)

/-- `broker_input`. -/
def brokerInput (overlay : Overlay) : Protocol.Event → Overlay × Effect
  | .ready =>
      if overlay.brokerRequested && !overlay.state.visible then
        { overlay with brokerError := none }.tell .toggle
      else
        (overlay, .none)
  | .failed error => overlay.brokerFailed error
  | .action .toggleOverlay => overlay.toggleOverlay
  | .action action =>
      if overlay.brokerRequested && overlay.brokerError.isNone then
        overlay.menuAction action
      else
        (overlay, .none)

/-- `Overlay::update`. -/
def update (overlay : Overlay) : Message → Overlay × Effect
  | .brokerInput event => overlay.brokerInput event
  | .toggleOverlay => overlay.toggleOverlay
  | .navigateUp => overlay.tell .navigateUp
  | .navigateDown => overlay.tell .navigateDown
  | .activate => overlay.tell .activate
  | .resumeApp => overlay.tell .resume
  | .closeApp => overlay.tell .close
  | .closeFinished (.ok _) => overlay.tell .closeSucceeded
  | .closeFinished (.error _) => overlay.tell .closeFailed
  | .hideAfterClose => overlay.tell .hideAfterClose
  | .logOut => overlay.tell .logOut
  | .logOutFinished (.ok _) => overlay.tell .logOutSucceeded
  | .logOutFinished (.error _) => overlay.tell .logOutFailed

/-! ### One message -/

theorem state_applyEffect (overlay : Overlay) (effect : Effect) :
    (overlay.applyEffect effect).1.state = overlay.state := by
  unfold applyEffect
  split
  case h_1 => rfl
  case h_2 => rfl

theorem effect_applyEffect (overlay : Overlay) (effect : Effect) :
    (overlay.applyEffect effect).2 = effect := by
  unfold applyEffect
  split
  case h_1 => rfl
  case h_2 => rfl

theorem requested_applyEffect
    {overlay : Overlay}
    {effect : Effect}
    (still : (overlay.applyEffect effect).1.brokerRequested = true) :
    overlay.brokerRequested = true := by
  unfold applyEffect at still
  split at still
  case h_1 => cases still
  case h_2 => exact still

@[simp] theorem state_tell (overlay : Overlay) (event : Event) :
    (overlay.tell event).1.state = (overlay.state.update event).1 :=
  state_applyEffect _ _

@[simp] theorem effect_tell (overlay : Overlay) (event : Event) :
    (overlay.tell event).2 = (overlay.state.update event).2 :=
  effect_applyEffect _ _

/-- Telling the menu never asks for capture. -/
theorem requested_tell
    {overlay : Overlay}
    {event : Event}
    (still : (overlay.tell event).1.brokerRequested = true) :
    overlay.brokerRequested = true := by
  unfold tell at still
  have before := requested_applyEffect still
  exact before

theorem tell_of_busy
    {overlay : Overlay}
    (busy : overlay.state.status.busy = true)
    {event : Event}
    (entered : event.reports = false)
    (other : event ≠ .resume) :
    overlay.tell event = (overlay, .none) := by
  unfold tell
  rw [OverlayState.update_of_busy busy entered other]
  rfl

/-- The message leaves the menu: the row, the button, or the pad's Back when
the menu takes it. -/
def resumes (overlay : Overlay) : Message → Bool
  | .resumeApp => true
  | .brokerInput (.action .back) =>
      overlay.brokerRequested && overlay.brokerError.isNone
  | _ => false

/-- The message asks for the menu: a toggle while it is hidden and was not
asked for. -/
def asks (overlay : Overlay) : Message → Bool
  | .toggleOverlay => !overlay.state.visible && !overlay.brokerRequested
  | .brokerInput (.action .toggleOverlay) =>
      !overlay.state.visible && !overlay.brokerRequested
  | _ => false

/-- What an entered message can do: move the flags around a menu that stays,
or tell the menu an event. -/
inductive Handled
    (overlay : Overlay)
    (message : Message) :
    Overlay × Effect → Prop
  | kept
      (next : Overlay)
      (state : next.state = overlay.state)
      (requested : next.brokerRequested = true →
        overlay.brokerRequested = true ∨ overlay.asks message = true) :
      Handled overlay message (next, .none)
  | told
      (flagged : Overlay)
      (event : Event)
      (state : flagged.state = overlay.state)
      (requested : flagged.brokerRequested = true →
        overlay.brokerRequested = true)
      (entered : event.reports = false)
      (leaves : event = .resume → overlay.resumes message = true) :
      Handled overlay message (flagged.tell event)

theorem Handled.here
    {overlay : Overlay}
    {message : Message}
    (event : Event)
    (entered : event.reports = false)
    (leaves : event = .resume → overlay.resumes message = true) :
    Handled overlay message (overlay.tell event) :=
  .told overlay event rfl id entered leaves

theorem Handled.ignored
    (overlay : Overlay)
    (message : Message) :
    Handled overlay message (overlay, .none) :=
  .kept overlay rfl Or.inl

theorem handled_toggleOverlay
    {overlay : Overlay}
    {message : Message}
    (asking : overlay.asks message =
      (!overlay.state.visible && !overlay.brokerRequested)) :
    Handled overlay message overlay.toggleOverlay := by
  unfold toggleOverlay
  split
  case isTrue hidden =>
      refine .kept _ rfl ?_
      intro flipped
      right
      rw [asking, hidden]
      exact flipped
  case isFalse shown => exact Handled.here .toggle rfl nofun

theorem handled_menuAction
    {overlay : Overlay}
    (action : Protocol.Action)
    (reaches : (overlay.brokerRequested && overlay.brokerError.isNone) =
      true) :
    Handled overlay (.brokerInput (.action action))
      (overlay.menuAction action) := by
  unfold menuAction
  split
  case h_1 => exact Handled.here .navigateUp rfl nofun
  case h_2 => exact Handled.here .navigateDown rfl nofun
  case h_3 => exact Handled.here .activate rfl nofun
  case h_4 => exact Handled.here .resume rfl fun _ => reaches
  case h_5 => exact Handled.ignored overlay _

theorem handled_brokerFailed
    (overlay : Overlay)
    (error : String) :
    Handled overlay (.brokerInput (.failed error))
      (overlay.brokerFailed error) := by
  unfold brokerFailed
  dsimp only
  split
  case isTrue wanted => exact .told _ .toggle rfl nofun rfl nofun
  case isFalse unwanted => exact .kept _ rfl nofun

theorem handled_brokerInput
    (overlay : Overlay)
    (event : Protocol.Event) :
    Handled overlay (.brokerInput event) (overlay.brokerInput event) := by
  unfold brokerInput
  split
  case h_1 =>
      split
      case isTrue wanted => exact .told _ .toggle rfl id rfl nofun
      case isFalse unwanted => exact Handled.ignored overlay _
  case h_2 error => exact handled_brokerFailed overlay error
  case h_3 => exact handled_toggleOverlay rfl
  case h_4 action other =>
      split
      case isTrue reaches => exact handled_menuAction action reaches
      case isFalse missed => exact Handled.ignored overlay _

theorem handled_update
    (overlay : Overlay)
    {message : Message}
    (entered : message.reports = false) :
    Handled overlay message (overlay.update message) := by
  cases message with
  | brokerInput event => exact handled_brokerInput overlay event
  | toggleOverlay => exact handled_toggleOverlay rfl
  | navigateUp => exact Handled.here .navigateUp rfl nofun
  | navigateDown => exact Handled.here .navigateDown rfl nofun
  | activate => exact Handled.here .activate rfl nofun
  | resumeApp => exact Handled.here .resume rfl fun _ => rfl
  | closeApp => exact Handled.here .close rfl nofun
  | logOut => exact Handled.here .logOut rfl nofun
  | closeFinished result => cases entered
  | hideAfterClose => cases entered
  | logOutFinished result => cases entered

/-- Capture is asked for after a message only if it was before, or the message
asks for it. -/
theorem requested_update
    {overlay : Overlay}
    {message : Message}
    (requested : (overlay.update message).1.brokerRequested = true) :
    overlay.brokerRequested = true ∨ overlay.asks message = true := by
  cases kind : message.reports with
  | false =>
      have handled := handled_update overlay kind
      generalize overlay.update message = taken at handled requested
      cases handled with
      | kept next state before => exact before requested
      | told flagged event state before entered leaves =>
          exact Or.inl (before (requested_tell requested))
  | true =>
      left
      cases message with
      | closeFinished result =>
          cases result with
          | ok finished => exact requested_tell requested
          | error reason => exact requested_tell requested
      | hideAfterClose => exact requested_tell requested
      | logOutFinished result =>
          cases result with
          | ok finished => exact requested_tell requested
          | error reason => exact requested_tell requested
      | brokerInput event => cases kind
      | toggleOverlay => cases kind
      | navigateUp => cases kind
      | navigateDown => cases kind
      | activate => cases kind
      | resumeApp => cases kind
      | closeApp => cases kind
      | logOut => cases kind

/-- A failure of the broker takes the request for capture back. -/
theorem requested_brokerFailed
    (overlay : Overlay)
    (error : String) :
    (overlay.brokerFailed error).1.brokerRequested = false := by
  apply Bool.eq_false_iff.mpr
  intro requested
  unfold brokerFailed at requested
  dsimp only at requested
  split at requested
  case isTrue wanted => cases requested_tell requested
  case isFalse unwanted => cases requested

/-- A menu on the screen without an error is asked for. -/
def Covered (overlay : Overlay) : Prop :=
  overlay.state.visible = true → overlay.brokerError = none →
    overlay.brokerRequested = true

/-- What a message makes of the overlay: the menu stays where it is, with
flags that keep it covered; the menu is told an event, and a toggle that
shows it comes with a reason; or capture is asked for or no longer asked for
under a hidden menu. -/
inductive Takes
    (overlay : Overlay)
    (message : Message) :
    Overlay × Effect → Prop
  | kept
      (next : Overlay)
      (state : next.state = overlay.state)
      (flags : next.brokerRequested = overlay.brokerRequested ∧
          next.brokerError = overlay.brokerError ∨
        next.brokerError ≠ none ∨ overlay.state.visible = false) :
      Takes overlay message (next, .none)
  | told
      (event : Event)
      (shows : event = .toggle → overlay.state.visible = true) :
      Takes overlay message (overlay.tell event)
  | granted
      (ready : message = .brokerInput .ready)
      (requested : overlay.brokerRequested = true) :
      Takes overlay message
        ({ overlay with brokerError := none }.tell .toggle)
  | failed
      (flagged : Overlay)
      (state : flagged.state = overlay.state)
      (error : flagged.brokerError ≠ none) :
      Takes overlay message (flagged.tell .toggle)

theorem takes_toggleOverlay
    (overlay : Overlay)
    (message : Message) :
    Takes overlay message overlay.toggleOverlay := by
  unfold toggleOverlay
  split
  case isTrue hidden =>
      refine .kept _ rfl (Or.inr (Or.inr ?_))
      simpa using hidden
  case isFalse shown =>
      refine .told .toggle fun _ => ?_
      simpa using shown

theorem takes_brokerInput
    (overlay : Overlay)
    (event : Protocol.Event) :
    Takes overlay (.brokerInput event) (overlay.brokerInput event) := by
  unfold brokerInput
  split
  case h_1 =>
      split
      case isTrue wanted =>
          exact .granted rfl (Bool.and_eq_true_iff.mp wanted).1
      case isFalse unwanted => exact .kept overlay rfl (Or.inl ⟨rfl, rfl⟩)
  case h_2 error =>
      unfold brokerFailed
      dsimp only
      split
      case isTrue wanted => exact .failed _ rfl nofun
      case isFalse unwanted => exact .kept _ rfl (Or.inr (Or.inl nofun))
  case h_3 => exact takes_toggleOverlay overlay _
  case h_4 action other =>
      split
      case isTrue reaches =>
          unfold menuAction
          split
          case h_1 => exact .told .navigateUp nofun
          case h_2 => exact .told .navigateDown nofun
          case h_3 => exact .told .activate nofun
          case h_4 => exact .told .resume nofun
          case h_5 => exact .kept overlay rfl (Or.inl ⟨rfl, rfl⟩)
      case isFalse missed => exact .kept overlay rfl (Or.inl ⟨rfl, rfl⟩)

theorem takes_update
    (overlay : Overlay)
    (message : Message) :
    Takes overlay message (overlay.update message) := by
  cases message with
  | brokerInput event => exact takes_brokerInput overlay event
  | toggleOverlay => exact takes_toggleOverlay overlay _
  | navigateUp => exact .told .navigateUp nofun
  | navigateDown => exact .told .navigateDown nofun
  | activate => exact .told .activate nofun
  | resumeApp => exact .told .resume nofun
  | closeApp => exact .told .close nofun
  | closeFinished result =>
      cases result with
      | ok finished => exact .told .closeSucceeded nofun
      | error reason => exact .told .closeFailed nofun
  | hideAfterClose => exact .told .hideAfterClose nofun
  | logOut => exact .told .logOut nofun
  | logOutFinished result =>
      cases result with
      | ok finished => exact .told .logOutSucceeded nofun
      | error reason => exact .told .logOutFailed nofun

/-- Telling the menu hides it with both flags cleared, or leaves the flags
alone and shows it only by a toggle. -/
theorem tell_cases (overlay : Overlay) (event : Event) :
    ((overlay.tell event).2 = .hide ∧
        (overlay.tell event).1.state.visible = false ∧
        (overlay.tell event).1.brokerRequested = false) ∨
      ((overlay.tell event).2 ≠ .hide ∧
        (overlay.tell event).1.brokerRequested = overlay.brokerRequested ∧
        (overlay.tell event).1.brokerError = overlay.brokerError ∧
        ((overlay.tell event).1.state.visible = true →
          overlay.state.visible = true ∨ event = .toggle)) := by
  have moves := overlay.state.moves_update event
  unfold tell
  dsimp only
  generalize overlay.state.update event = told at moves
  cases moves with
  | hidden next gone => exact Or.inl ⟨rfl, gone, rfl⟩
  | shown next toggle was =>
      exact Or.inr ⟨nofun, rfl, rfl, fun _ => Or.inr toggle⟩
  | stays next effect same other =>
      right
      have applied : applyEffect { overlay with state := next } effect =
          ({ overlay with state := next }, effect) := by
        cases effect with
        | hide => exact absurd rfl other
        | none => rfl
        | «show» => rfl
        | stopApplication => rfl
        | delayHide => rfl
        | logOut => rfl
      rw [applied]
      refine ⟨other, rfl, rfl, fun visible => Or.inl ?_⟩
      rw [← same]
      exact visible

theorem Covered.tell
    {overlay : Overlay}
    (covered : overlay.Covered)
    (event : Event)
    (shows : event = .toggle → overlay.brokerError = none →
      overlay.brokerRequested = true) :
    (overlay.tell event).1.Covered := by
  intro visible well
  rcases overlay.tell_cases event with
    ⟨_, gone, _⟩ | ⟨_, requested, error, before⟩
  · rw [gone] at visible
    cases visible
  · rw [requested]
    rw [error] at well
    rcases before visible with stood | toggle
    · exact covered stood well
    · exact shows toggle well

/-- No message uncovers the menu. -/
theorem Covered.update
    {overlay : Overlay}
    (covered : overlay.Covered)
    (message : Message) :
    (overlay.update message).1.Covered := by
  have takes := overlay.takes_update message
  generalize overlay.update message = taken at takes
  cases takes with
  | kept next state flags =>
      intro visible well
      rw [state] at visible
      rcases flags with ⟨requested, error⟩ | failed | hidden
      · rw [requested]
        rw [error] at well
        exact covered visible well
      · exact absurd well failed
      · rw [hidden] at visible
        cases visible
  | told event shows =>
      apply covered.tell
      intro toggle well
      exact covered (shows toggle) well
  | granted ready requested =>
      apply Covered.tell
      · intro _ _
        exact requested
      · intro _ _
        exact requested
  | failed flagged state error =>
      apply Covered.tell
      · intro _ well
        exact absurd well error
      · intro _ well
        exact absurd well error

/-- The effect that hides the menu leaves no capture asked for. -/
theorem requested_of_hide
    {overlay : Overlay}
    {message : Message}
    (hides : (overlay.update message).2 = .hide) :
    (overlay.update message).1.brokerRequested = false := by
  have takes := overlay.takes_update message
  have telling : ∀ (flagged : Overlay) event,
      (flagged.tell event).2 = .hide →
        (flagged.tell event).1.brokerRequested = false := by
    intro flagged event hides
    rcases flagged.tell_cases event with ⟨_, _, back⟩ | ⟨other, _⟩
    · exact back
    · exact absurd hides other
  generalize overlay.update message = taken at takes hides
  cases takes with
  | kept next state flags => cases hides
  | told event shows => exact telling _ _ hides
  | granted ready requested => exact telling _ _ hides
  | failed flagged state error => exact telling _ _ hides

/-- A hidden menu is put on the screen without an error only by the broker's
word that it is ready, and only while it is asked for. -/
theorem ready_of_shown
    {overlay : Overlay}
    {message : Message}
    (hidden : overlay.state.visible = false)
    (shown : (overlay.update message).1.state.visible = true)
    (well : (overlay.update message).1.brokerError = none) :
    message = .brokerInput .ready ∧ overlay.brokerRequested = true := by
  have takes := overlay.takes_update message
  generalize overlay.update message = taken at takes shown well
  cases takes with
  | kept next state flags =>
      rw [state, hidden] at shown
      cases shown
  | told event shows =>
      rcases overlay.tell_cases event with
        ⟨_, gone, _⟩ | ⟨_, _, _, before⟩
      · rw [gone] at shown
        cases shown
      · have stood := (before shown).elim id shows
        rw [hidden] at stood
        cases stood
  | granted ready requested => exact ⟨ready, requested⟩
  | failed flagged state error =>
      rcases flagged.tell_cases .toggle with
        ⟨_, gone, _⟩ | ⟨_, _, kept, _⟩
      · rw [gone] at shown
        cases shown
      · rw [kept] at well
        exact absurd well error

end Overlay
end QuickMenu
end Hearthdeck
