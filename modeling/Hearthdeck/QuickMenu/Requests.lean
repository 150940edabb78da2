import Hearthdeck.Foundation.Flight
import Hearthdeck.Foundation.Machine
import Hearthdeck.QuickMenu.Overlay

/-!
# Requests of the menu

A stop or a log-out is asked for in one opening of the menu and reports at
any later time; a stop that succeeded is followed by a pause, after which the
menu hides.  None of the three says which opening it is for.

A run counts the openings of the menu and how often it was asked for, and
notes both beside every task that is under way.  The counts are read by no
code.  While a menu is busy nothing entered opens another one, except that a
busy menu can be left, and that a stop can be asked for while no menu is
open.
-/

namespace Hearthdeck
namespace QuickMenu

open Foundation

/-- The opening of the menu, and the asking for it, that a task comes
from. -/
structure Origin where
  opening : Nat
  asked : Nat
  deriving DecidableEq, Repr

/-- A task under way. -/
structure Errand where
  job : Job
  origin : Origin
  deriving DecidableEq, Repr

namespace Errand

/-- The task is a stop or a log-out, and not the pause after a stop. -/
def request (errand : Errand) : Bool :=
  errand.job != .hide

/-- What a task reports with, told how it went. -/
def report
    (errand : Errand)
    (result : Except String Unit) : Message :=
  match errand.job with
  | .stop => .closeFinished result
  | .logOut => .logOutFinished result
  | .hide => .hideAfterClose

end Errand

/-- The overlay with its tasks under way and the counts of a run. -/
structure Desk where
  overlay : Overlay := {}
  errands : List Errand := []
  /-- How often the menu was shown. -/
  opening : Nat := 0
  /-- How often capture was asked for. -/
  asked : Nat := 0
  deriving DecidableEq, Repr

/-- A step of a run. -/
inductive Step
  /-- Somebody enters something. -/
  | entered (message : Message) (fresh : message.reports = false)
  /-- The task at a position reports. -/
  | reported (index : Nat) (result : Except String Unit)

namespace Desk

/-- What is asked for now comes from here. -/
def here (desk : Desk) : Origin where
  opening := desk.opening
  asked := desk.asked

/-- The overlay takes a message.  What it starts comes from a given origin. -/
def take
    (desk : Desk)
    (origin : Origin)
    (message : Message) : Desk :=
  let taken := desk.overlay.update message
  { overlay := taken.1
    errands := desk.errands ++
      (taken.2.job.map fun job => ⟨job, origin⟩).toList
    opening := if taken.2 = .show then desk.opening + 1 else desk.opening
    asked :=
      if !desk.overlay.brokerRequested && taken.1.brokerRequested then
        desk.asked + 1
      else
        desk.asked }

/-- A task reports.  What its report starts is still for the opening the task
comes from. -/
def report
    (desk : Desk)
    (index : Nat)
    (result : Except String Unit) : Desk :=
  match desk.errands[index]? with
  | some errand =>
      { desk with errands := desk.errands.eraseIdx index }.take
        errand.origin (errand.report result)
  | none => desk

/-- One step. -/
def step (desk : Desk) : Step → Desk
  | .entered message _ => desk.take desk.here message
  | .reported index result => desk.report index result

/-- The overlay over its steps. -/
def machine : Machine Desk Step Unit where
  start := {}
  step := fun desk step => (desk.step step, [])

/-- How many stops and log-outs are under way. -/
def requests (desk : Desk) : Nat :=
  desk.errands.countP Errand.request

/-- A report leaves alone what was opened, or asked for, after the task it
comes from. -/
structure Spares (desk : Desk) (errand : Errand) (next : Desk) : Prop where
  menu : errand.origin.opening < desk.opening →
    next.overlay.state = desk.overlay.state
  capture : errand.origin.asked < desk.asked →
    next.overlay.brokerRequested = desk.overlay.brokerRequested

/-- A step by which a busy menu is left or asked for again: a resume, which
the busy status does not keep out, and a toggle for a menu that is hidden
while a close or a log-out waits. -/
def Slips (desk : Desk) : Step → Prop
  | .entered message _ =>
      desk.overlay.state.status.busy = true ∧
        (desk.overlay.resumes message = true ∨
          desk.overlay.asks message = true)
  | .reported _ _ => False

/-! ## The invariant -/

/-- Nothing is under way, or one task of the present opening, for which the
menu is busy. -/
inductive Sound (desk : Desk) : Prop
  | idle (none : desk.errands = [])
  | waiting
      (errand : Errand)
      (only : desk.errands = [errand])
      (busy : desk.overlay.state.status.busy = true)
      (origin : errand.origin = desk.here)

theorem here_take
    {desk : Desk}
    {origin : Origin}
    {message : Message}
    (hidden : (desk.overlay.update message).2 ≠ .show)
    (requested : (desk.overlay.update message).1.brokerRequested = true →
      desk.overlay.brokerRequested = true) :
    (desk.take origin message).here = desk.here := by
  have unasked : (!desk.overlay.brokerRequested &&
      (desk.overlay.update message).1.brokerRequested) = false := by
    cases now : (desk.overlay.update message).1.brokerRequested with
    | false => exact Bool.and_false _
    | true =>
        rw [requested now]
        rfl
  unfold take here
  dsimp only
  rw [if_neg hidden, unasked, if_neg Bool.false_ne_true]

/-- A busy menu takes nothing but what slips. -/
theorem Sound.enter_busy
    {desk : Desk}
    {errand : Errand}
    (only : desk.errands = [errand])
    (busy : desk.overlay.state.status.busy = true)
    (origin : errand.origin = desk.here)
    {message : Message}
    (fresh : message.reports = false)
    (stays : desk.overlay.resumes message = false)
    (unasked : desk.overlay.asks message = false) :
    (desk.take desk.here message).Sound := by
  have handled := Overlay.handled_update desk.overlay fresh
  have counted := @here_take desk desk.here message
  unfold take at counted ⊢
  generalize desk.overlay.update message = taken at handled counted ⊢
  cases handled with
  | kept next state requested =>
      have same := counted nofun fun now =>
        (requested now).resolve_right (by rw [unasked]; exact nofun)
      refine .waiting errand ?_ ?_ (origin.trans same.symm)
      · exact (List.append_nil _).trans only
      · change next.state.status.busy = true
        rw [state]
        exact busy
  | told flagged event state requested entered leaves =>
      have other : event ≠ .resume := by
        intro resume
        rw [leaves resume] at stays
        cases stays
      rw [← state] at busy
      rw [Overlay.tell_of_busy busy entered other] at counted ⊢
      have same := counted nofun requested
      refine .waiting errand ?_ busy (origin.trans same.symm)
      exact (List.append_nil _).trans only

/-- What is entered while nothing is under way. -/
theorem Sound.enter_idle
    {desk : Desk}
    (none : desk.errands = [])
    {message : Message}
    (fresh : message.reports = false) :
    (desk.take desk.here message).Sound := by
  have handled := Overlay.handled_update desk.overlay fresh
  have counted := @here_take desk desk.here message
  unfold take at counted ⊢
  rw [none] at counted ⊢
  generalize desk.overlay.update message = taken at handled counted ⊢
  cases started : taken.2.job with
  | none =>
      apply Sound.idle
      change [] ++ (taken.2.job.map _).toList = []
      rw [started]
      rfl
  | some job =>
      have hidden : taken.2 ≠ .show := by
        intro shown
        rw [shown] at started
        cases started
      cases handled with
      | kept next state requested => cases started
      | told flagged event state requested entered leaves =>
          have same := counted hidden fun now =>
            requested (Overlay.requested_tell now)
          refine .waiting ⟨job, desk.here⟩ ?_ ?_ same.symm
          · change [] ++ ((flagged.tell event).2.job.map _).toList = _
            rw [started]
            rfl
          · rw [Overlay.effect_tell] at started
            change (flagged.tell event).1.state.status.busy = true
            rw [Overlay.state_tell]
            exact OverlayState.busy_of_job entered started

/-- The only task reports.  A stop that succeeded leaves its pause behind, for
the same opening and under the same busy status. -/
theorem Sound.report_only
    {desk : Desk}
    {errand : Errand}
    (busy : desk.overlay.state.status.busy = true)
    (origin : errand.origin = desk.here)
    (result : Except String Unit) :
    ({ desk with errands := [] }.take errand.origin
      (errand.report result)).Sound := by
  cases task : errand.job with
  | stop =>
      unfold Errand.report
      rw [task]
      cases result with
      | ok finished =>
          have same : ({ desk with errands := [] }.take errand.origin
              (.closeFinished (.ok finished))).here = desk.here := by
            apply here_take
            · intro shown
              change Effect.delayHide = .show at shown
              cases shown
            · exact id
          exact .waiting ⟨.hide, errand.origin⟩ rfl busy
            (origin.trans same.symm)
      | error reason => exact .idle rfl
  | logOut =>
      unfold Errand.report
      rw [task]
      cases result with
      | ok finished => exact .idle rfl
      | error reason => exact .idle rfl
  | hide =>
      unfold Errand.report
      rw [task]
      exact .idle rfl

theorem Sound.report
    {desk : Desk}
    (sound : desk.Sound)
    (index : Nat)
    (result : Except String Unit) :
    (desk.report index result).Sound := by
  unfold Desk.report
  split
  case h_2 missing => exact sound
  case h_1 errand found =>
      cases sound with
      | idle none =>
          rw [none] at found
          cases found
      | waiting present only busy origin =>
          have others := (Flight.perm_of_getElem? found).length_eq
          have same : errand = present := by
            have member := List.mem_of_getElem? found
            rw [only] at member
            exact List.mem_singleton.mp member
          subst same
          have last : desk.errands.eraseIdx index = [] := by
            apply List.eq_nil_of_length_eq_zero
            rw [only, List.length_cons, List.length_singleton] at others
            rw [only]
            omega
          rw [last]
          exact Sound.report_only busy origin result

theorem Sound.step
    {desk : Desk}
    (sound : desk.Sound)
    (step : Step)
    (calm : ¬ desk.Slips step) :
    (desk.step step).Sound := by
  cases step with
  | entered message fresh =>
      cases sound with
      | idle none => exact Sound.enter_idle none fresh
      | waiting errand only busy origin =>
          unfold Slips at calm
          simp only [busy, true_and, not_or, Bool.not_eq_true] at calm
          exact Sound.enter_busy only busy origin fresh calm.1 calm.2
  | reported index result => exact sound.report index result

theorem sound_run
    (steps : List Step)
    (along : machine.Along (fun desk step => ¬ desk.Slips step) steps) :
    (machine.run steps).Sound := by
  apply machine.run_induction_along _ Sound _ _ steps along
  · exact .idle rfl
  · intro desk step sound calm
    exact sound.step step calm

/-- At most one stop or log-out is under way. -/
theorem Sound.requests_le_one
    {desk : Desk}
    (sound : desk.Sound) :
    desk.requests ≤ 1 := by
  unfold requests
  cases sound with
  | idle none =>
      rw [none]
      exact Nat.zero_le 1
  | waiting errand only busy origin =>
      rw [only]
      exact List.countP_le_length

/-- Every task under way comes from the present opening. -/
theorem Sound.spares
    {desk : Desk}
    (sound : desk.Sound)
    {errand : Errand}
    (member : errand ∈ desk.errands)
    (next : Desk) :
    desk.Spares errand next := by
  cases sound with
  | idle none =>
      rw [none] at member
      cases member
  | waiting present only busy origin =>
      rw [only] at member
      rw [← List.mem_singleton.mp member] at origin
      constructor
      · intro later
        rw [origin] at later
        exact absurd later (Nat.lt_irrefl _)
      · intro later
        rw [origin] at later
        exact absurd later (Nat.lt_irrefl _)

/-! ## Requests and openings -/

/-- As long as no busy menu is left and none is asked for while a close or a
log-out waits, at most one of these is under way, and what reports acts only
on the opening of the menu it was asked for in. -/
theorem requests_belong_to_their_menu
    (steps : List Step)
    (calm : machine.Along (fun desk step => ¬ desk.Slips step) steps) :
    (machine.run steps).requests ≤ 1 ∧
      ∀ index errand, (machine.run steps).errands[index]? = some errand →
        ∀ result, (machine.run steps).Spares errand
          ((machine.run steps).report index result) := by
  have sound := sound_run steps calm
  refine ⟨sound.requests_le_one, ?_⟩
  intro index errand found result
  exact sound.spares (List.mem_of_getElem? found) _

/-- The menu is asked for, and shown when the broker is ready. -/
def opens : List Step :=
  [.entered .toggleOverlay rfl, .entered (.brokerInput .ready) rfl]

/-- The application is closed from the menu with the pad, and the menu waits
to hide. -/
def closes : List Step :=
  opens ++
    [.entered (.brokerInput (.action .moveDown)) rfl,
      .entered (.brokerInput (.action .confirm)) rfl,
      .entered .toggleOverlay rfl,
      .reported 0 (.ok ())]

theorem requests_belong_to_their_menu_closing :
    (machine.run closes).errands[0]? = some ⟨.hide, ⟨1, 1⟩⟩ ∧
      (machine.run closes).requests ≤ 1 ∧
      (machine.run closes).Spares ⟨.hide, ⟨1, 1⟩⟩
        ((machine.run closes).report 0 (.ok ())) := by
  have calm : machine.Along (fun desk step => ¬ desk.Slips step) closes := by
    apply Machine.along_of_alongFrom
    refine ⟨?_, ?_, ?_, ?_, ?_, id, trivial⟩
    all_goals
      unfold Slips
      decide
  have found : (machine.run closes).errands[0]? = some ⟨.hide, ⟨1, 1⟩⟩ := by
    decide
  obtain ⟨one, belong⟩ := requests_belong_to_their_menu closes calm
  exact ⟨found, one, belong 0 _ found _⟩

/-- A menu that is left while its application closes, and opened again: the
close can be asked for twice, and the pause of the first close hides the
second menu.  A close asked for while no menu is open takes back the capture
that is asked for afterwards. -/
theorem close_hides_a_later_menu :
    let left : List Step := opens ++
      [.entered .closeApp rfl, .entered .resumeApp rfl]
    let twice := machine.run (left ++ opens ++ [.entered .closeApp rfl])
    let later := machine.run (left ++ opens ++ [.reported 0 (.ok ())])
    let asked := machine.run [.entered .closeApp rfl,
      .reported 0 (.ok ()), .entered .toggleOverlay rfl]
    twice.requests = 2 ∧
      (later.errands = [⟨.hide, ⟨1, 1⟩⟩] ∧ later.opening = 2 ∧
        later.overlay.state.visible = true ∧
        (later.report 0 (.ok ())).overlay.state.visible = false) ∧
      (asked.errands = [⟨.hide, ⟨0, 0⟩⟩] ∧ asked.asked = 1 ∧
        asked.overlay.brokerRequested = true ∧
        (asked.report 0 (.ok ())).overlay.brokerRequested = false) := by
  decide

end Desk
end QuickMenu
end Hearthdeck
