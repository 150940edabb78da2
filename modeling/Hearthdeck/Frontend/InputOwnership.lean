import Hearthdeck.Foundation.Machine

/-!
# Who may act on the pad

The shell acts on the pad only while it has control.  Who has it follows from
three sources that know nothing of each other: a poll that asks whether a
managed session runs, the results of the launches the shell has started, and
the focus of its window.  Beside it the launch layer shows that a game is
starting, and keeps a second launch from being sent.

The daemon reads the answer to a poll at some instant before the answer
arrives, and decides a launch before its result arrives; a reading notes
whether a launch was accepted after it was taken.
-/

namespace Hearthdeck
namespace Frontend

open Foundation

/-! ## Ownership -/

/-- `InputOwnership`. -/
inductive InputOwnership
  | checking
  | frontend
  | launching
  | managedSession
  | unfocused
  deriving DecidableEq, Repr

/-- What ownership reacts to. -/
inductive InputEvent
  | sessionObserved (active : Bool)
  | sessionCheckFailed
  | launchStarted
  | launchAccepted
  | launchFailed
  | frontendFocused
  | frontendUnfocused
  deriving DecidableEq, Repr

namespace InputOwnership

/-- `InputOwnership::update`.  What is not listed changes nothing. -/
def update : InputOwnership → InputEvent → InputOwnership
  | .checking, .sessionObserved true => .managedSession
  | .launching, .sessionObserved true => .managedSession
  | .managedSession, .sessionObserved true => .managedSession
  | .checking, .sessionObserved false => .frontend
  | .managedSession, .sessionObserved false => .frontend
  | .frontend, .launchStarted => .launching
  | .launching, .launchAccepted => .managedSession
  | .launching, .launchFailed => .frontend
  | .managedSession, .frontendFocused => .frontend
  | .unfocused, .frontendFocused => .frontend
  | .frontend, .frontendUnfocused => .unfocused
  | .managedSession, .frontendUnfocused => .unfocused
  | .unfocused, .frontendUnfocused => .unfocused
  | ownership, _ => ownership

/-- `frontend_has_control`. -/
def frontendHasControl : InputOwnership → Bool
  | .frontend => true
  | _ => false

end InputOwnership

/-! ## The launch layer -/

/-- `LaunchState`. -/
inductive LaunchState
  | idle
  | launching (title : String)
  | failed (title error : String)
  deriving DecidableEq, Repr

/-- What the launch layer reacts to. -/
inductive LaunchEvent
  | start (title : String)
  | accepted
  | failed (error : String)
  | dismiss
  deriving DecidableEq, Repr

/-- What the launch layer asks for. -/
inductive LaunchEffect
  | none
  | launch
  | delayDismiss
  deriving DecidableEq, Repr

/-- `LaunchState::update`. -/
def LaunchState.update :
    LaunchState → LaunchEvent → LaunchState × LaunchEffect
  | .idle, .start title => (.launching title, .launch)
  | state, .start _ => (state, .none)
  | .launching title, .accepted => (.launching title, .delayDismiss)
  | state, .accepted => (state, .none)
  | .launching title, .failed error => (.failed title error, .none)
  | state, .failed _ => (state, .none)
  | _, .dismiss => (.idle, .none)

/-! ## The shell and its sources -/

/-- What a poll has read: whether a managed session was active, and whether a
launch was accepted after the reading. -/
structure Reading where
  active : Bool
  stale : Bool
  deriving DecidableEq, Repr

/-- The shell, and what is on its way to it. -/
structure Shell where
  ownership : InputOwnership
  launchState : LaunchState
  /-- The launch requests without a result, with what the daemon decided. -/
  launches : List (Option (Except String Unit))
  /-- The delayed dismissals of the launch layer. -/
  dismissals : Nat
  /-- Whether a managed session is active. -/
  active : Bool
  /-- What the poll on its way has read. -/
  reading : Option Reading
  /-- The latest focus event. -/
  focused : Option Bool
  /-- Whether an accepted launch took control and it has not come back. -/
  handedOver : Bool

/-- What can happen. -/
inductive ShellStep
  /-- `launch_managed`. -/
  | launch (title : String)
  /-- The daemon decides a launch. -/
  | decided (index : Nat) (result : Except String Unit)
  /-- `DaemonLaunchResult`. -/
  | launchResult (index : Nat)
  /-- A delayed dismissal is over. -/
  | dismissDelayed
  /-- The failure of a launch is dismissed. -/
  | dismissFailure
  /-- A managed session starts or ends. -/
  | session (active : Bool)
  /-- The daemon reads the answer to the poll. -/
  | read
  /-- `ActiveSessionResult` with a reading; the next poll is sent. -/
  | observed
  /-- `ActiveSessionResult` with an error; the next poll is sent. -/
  | checkFailed
  /-- `WindowFocusChanged`. -/
  | focusChanged (focused : Bool)

namespace Shell

/-- The shell at start, with its first poll sent. -/
def new : Shell where
  ownership := .checking
  launchState := .idle
  launches := []
  dismissals := 0
  active := false
  reading := none
  focused := none
  handedOver := false

/-- Whether the shell may act on the pad. -/
def hasControl (shell : Shell) : Bool :=
  shell.ownership.frontendHasControl

/-- Let ownership react.  Control that is back is no longer handed over. -/
def own
    (shell : Shell)
    (event : InputEvent) : Shell :=
  let ownership := shell.ownership.update event
  { shell with
    ownership := ownership
    handedOver := shell.handedOver && !ownership.frontendHasControl }

/-- `launch_managed`. -/
def launch
    (shell : Shell)
    (title : String) : Shell :=
  if shell.hasControl then
    match shell.launchState.update (.start title) with
    | (launchState, .launch) =>
        { shell with
          launchState := launchState
          launches := shell.launches ++ [none] }.own .launchStarted
    | (launchState, _) => { shell with launchState := launchState }
  else
    shell

/-- The handling of a launch result. -/
def launchResult
    (shell : Shell) : Except String Unit → Shell
  | .ok () =>
      let accepted : Shell :=
        { shell.own .launchAccepted with
          handedOver :=
            shell.handedOver || decide (shell.ownership = .launching) }
      match shell.launchState.update .accepted with
      | (launchState, .delayDismiss) =>
          { accepted with
            launchState := launchState
            dismissals := shell.dismissals + 1 }
      | (launchState, _) => { accepted with launchState := launchState }
  | .error error =>
      { shell.own .launchFailed with
        launchState := (shell.launchState.update (.failed error)).1 }

/-- One step.  What is not on its way does not arrive, and a failure can be
dismissed only while it is shown. -/
def step
    (shell : Shell) : ShellStep → Shell
  | .launch title => shell.launch title
  | .decided index result =>
      match shell.launches[index]? with
      | some none =>
          { shell with
            launches := shell.launches.set index (some result)
            reading := match result with
              | .ok () => shell.reading.map fun reading =>
                  { reading with stale := true }
              | .error _ => shell.reading }
      | _ => shell
  | .launchResult index =>
      match shell.launches[index]? with
      | some (some result) =>
          { shell with
            launches := shell.launches.eraseIdx index }.launchResult result
      | _ => shell
  | .dismissDelayed =>
      if 0 < shell.dismissals then
        { shell with
          dismissals := shell.dismissals - 1
          launchState := (shell.launchState.update .dismiss).1 }
      else
        shell
  | .dismissFailure =>
      match shell.launchState with
      | .failed _ _ =>
          { shell with
            launchState := (shell.launchState.update .dismiss).1 }
      | _ => shell
  | .session active => { shell with active := active }
  | .read =>
      match shell.reading with
      | some _ => shell
      | none =>
          { shell with
            reading := some
              { active := shell.active
                stale := false } }
  | .observed =>
      match shell.reading with
      | some reading =>
          { shell with reading := none }.own (.sessionObserved reading.active)
      | none => shell
  | .checkFailed => { shell with reading := none }.own .sessionCheckFailed
  | .focusChanged focused =>
      { shell with focused := some focused }.own
        (if focused then .frontendFocused else .frontendUnfocused)

end Shell

/-- The shell and its sources. -/
def shellMachine : Machine Shell ShellStep Unit where
  start := .new
  step := fun shell step => (shell.step step, [])

/-! ## What the shell promises -/

namespace Shell

/-- What holds of a state in which the shell acts only when it may. -/
structure Restrained (shell : Shell) : Prop where
  /-- It does not act while its window is without focus. -/
  unfocused : shell.focused = some false → shell.hasControl = false
  /-- It does not act while a launch has no result. -/
  launching : shell.launches ≠ [] → shell.hasControl = false
  /-- It sends no launch beside another. -/
  single : shell.launches.length ≤ 1

/-- Control that an accepted launch took comes back by the focus of the
window, or by a poll that found no session after the launch was accepted. -/
def ReturnsProperly
    (shell : Shell)
    (step : ShellStep) : Prop :=
  shell.handedOver = true → (shell.step step).hasControl = true →
    step = .focusChanged true ∨
      step = .observed ∧ shell.reading = some ⟨false, false⟩

/-- The steps ownership does not follow: focus lost while the first check or a
launch is under way, a session seen while a launch is under way, and a
reading from before a launch that finds no session after it. -/
def Slips
    (shell : Shell) : ShellStep → Prop
  | .focusChanged false =>
      shell.ownership = .checking ∨ shell.ownership = .launching
  | .observed =>
      ∃ reading, shell.reading = some reading ∧
        (reading.active = true ∧ shell.ownership = .launching ∨
          reading.active = false ∧ reading.stale = true ∧
            shell.ownership = .managedSession)
  | _ => False

/-- The invariant: at most one launch is under way or about to be dismissed,
and the launch layer shows it; ownership knows of launches and of focus. -/
structure Orderly (shell : Shell) : Prop where
  single : shell.launches.length + shell.dismissals ≤ 1
  shown : 0 < shell.launches.length + shell.dismissals →
    ∃ title, shell.launchState = .launching title
  starting : shell.launches ≠ [] → shell.ownership = .launching
  away : shell.focused = some false → shell.ownership = .unfocused
  handed : shell.handedOver = true →
    shell.ownership = .managedSession ∨ shell.ownership = .unfocused

theorem hasControl_iff
    (shell : Shell) :
    shell.hasControl = true ↔ shell.ownership = .frontend := by
  unfold hasControl
  cases shell.ownership with
  | frontend => simp [InputOwnership.frontendHasControl]
  | _ => simp [InputOwnership.frontendHasControl]

theorem Orderly.restrained
    {shell : Shell}
    (orderly : Orderly shell) :
    Restrained shell where
  unfocused := by
    intro lost
    rw [hasControl, orderly.away lost]
    rfl
  launching := by
    intro started
    rw [hasControl, orderly.starting started]
    rfl
  single := by
    have single := orderly.single
    omega

/-- With a launch under way nothing else is. -/
theorem Orderly.launches_eq
    {shell : Shell}
    (orderly : Orderly shell)
    {index : Nat}
    {status : Option (Except String Unit)}
    (found : shell.launches[index]? = some status) :
    shell.launches = [status] ∧ index = 0 ∧ shell.dismissals = 0 := by
  have single := orderly.single
  match sent : shell.launches, found with
  | [], found => cases found
  | [only], found =>
      cases index with
      | zero =>
          cases found
          rw [sent] at single
          refine ⟨rfl, rfl, ?_⟩
          simp only [List.length_singleton] at single
          omega
      | succ index => cases found
  | first :: second :: rest, found =>
      rw [sent] at single
      simp at single
      omega

theorem orderly_new : Orderly new where
  single := Nat.zero_le 1
  shown := fun positive => absurd positive (Nat.lt_irrefl 0)
  starting := fun started => absurd rfl started
  away := fun lost => by cases lost
  handed := fun handed => by cases handed

theorem orderly_launch
    {shell : Shell}
    (orderly : Orderly shell)
    (title : String) :
    Orderly (shell.launch title) := by
  unfold launch
  split
  case isFalse => exact orderly
  case isTrue control =>
      rw [hasControl_iff] at control
      cases layer : shell.launchState with
      | idle =>
          have quiet : shell.launches.length + shell.dismissals = 0 := by
            by_contra busy
            obtain ⟨title, shown⟩ := orderly.shown (by omega)
            rw [layer] at shown
            cases shown
          simp only [LaunchState.update]
          constructor
          · simp [own]
            omega
          · intro _
            exact ⟨title, rfl⟩
          · intro _
            simp [own, control, InputOwnership.update]
          · intro lost
            have away := orderly.away lost
            rw [control] at away
            cases away
          · intro handed
            simp only [own, Bool.and_eq_true] at handed
            have owned := orderly.handed handed.1
            rw [control] at owned
            rcases owned with managed | unfocused
            · cases managed
            · cases unfocused
      | launching shown =>
          rw [← layer]
          have same : shell.launchState.update (.start title) =
              (shell.launchState, .none) := by
            rw [layer]
            rfl
          rw [same]
          exact orderly
      | failed shown error =>
          have same : shell.launchState.update (.start title) =
              (shell.launchState, .none) := by
            rw [layer]
            rfl
          rw [← layer, same]
          exact orderly

/-- A result arrives while ownership is at the launch it belongs to. -/
theorem orderly_launchResult
    {shell : Shell}
    (orderly : Orderly shell)
    (result : Except String Unit)
    (sent : shell.launches = [some result])
    (quiet : shell.dismissals = 0) :
    Orderly ({ shell with launches := [] }.launchResult result) := by
  have owned : shell.ownership = .launching :=
    orderly.starting (by rw [sent]; exact List.cons_ne_nil _ _)
  obtain ⟨title, layer⟩ := orderly.shown (by simp [sent, quiet])
  have kept : shell.handedOver = false := by
    cases handed : shell.handedOver with
    | false => rfl
    | true =>
        have other := orderly.handed handed
        rw [owned] at other
        rcases other with managed | unfocused
        · cases managed
        · cases unfocused
  have present : shell.focused ≠ some false := by
    intro lost
    have away := orderly.away lost
    rw [owned] at away
    cases away
  cases result with
  | ok accepted =>
      simp only [launchResult, layer, LaunchState.update, own, owned,
        InputOwnership.update]
      constructor
      · simp [quiet]
      · intro _
        exact ⟨title, rfl⟩
      · intro started
        exact absurd rfl started
      · intro lost
        exact absurd lost present
      · intro _
        exact .inl rfl
  | error message =>
      simp only [launchResult, layer, LaunchState.update, own, owned,
        InputOwnership.update, kept, quiet]
      constructor
      · exact Nat.zero_le 1
      · intro busy
        exact absurd busy (Nat.lt_irrefl 0)
      · intro started
        exact absurd rfl started
      · intro lost
        exact absurd lost present
      · intro handed
        cases handed

/-- An event that ownership follows as it should: what it does to the owner
is all that has to be checked. -/
theorem Orderly.own
    {shell : Shell}
    (orderly : Orderly shell)
    (event : InputEvent)
    (reading : Option Reading)
    (focused : Option Bool)
    (starting : shell.launches ≠ [] →
      shell.ownership.update event = .launching)
    (away : focused = some false →
      shell.ownership.update event = .unfocused)
    (handed : shell.ownership = .managedSession ∨
        shell.ownership = .unfocused →
      shell.ownership.update event = .frontend ∨
        shell.ownership.update event = .managedSession ∨
        shell.ownership.update event = .unfocused) :
    Orderly ({ shell with
      reading := reading
      focused := focused }.own event) where
  single := orderly.single
  shown := orderly.shown
  starting := starting
  away := away
  handed := by
    intro kept
    simp only [Shell.own, Bool.and_eq_true, Bool.not_eq_true'] at kept
    rcases handed (orderly.handed kept.1) with back | managed | unfocused
    · rw [back] at kept
      cases kept.2
    · exact .inl managed
    · exact .inr unfocused

theorem orderly_observed
    {shell : Shell}
    (orderly : Orderly shell)
    (reading : Reading)
    (taken : shell.reading = some reading)
    (follows : ¬ shell.Slips .observed) :
    Orderly ({ shell with reading := none }.own
      (.sessionObserved reading.active)) := by
  have calm : ¬ (reading.active = true ∧ shell.ownership = .launching) :=
    fun seen => follows ⟨reading, taken, .inl seen⟩
  refine orderly.own (.sessionObserved reading.active) none shell.focused
    ?_ ?_ ?_
  · intro started
    have owned := orderly.starting started
    rw [owned] at calm ⊢
    cases active : reading.active with
    | false => rfl
    | true => exact absurd ⟨active, rfl⟩ calm
  · intro lost
    rw [orderly.away lost]
    rfl
  · intro owned
    rcases owned with managed | unfocused
    · rw [managed]
      cases reading.active with
      | false => exact .inl rfl
      | true => exact .inr (.inl rfl)
    · rw [unfocused]
      exact .inr (.inr rfl)

theorem orderly_focusChanged
    {shell : Shell}
    (orderly : Orderly shell)
    (focused : Bool)
    (follows : ¬ shell.Slips (.focusChanged focused)) :
    Orderly ({ shell with focused := some focused }.own
      (if focused then .frontendFocused else .frontendUnfocused)) := by
  refine orderly.own _ shell.reading (some focused) ?_ ?_ ?_
  · intro started
    rw [orderly.starting started]
    cases focused with
    | false => rfl
    | true => rfl
  · intro lost
    cases lost
    cases owned : shell.ownership with
    | checking => exact absurd (.inl owned) follows
    | launching => exact absurd (.inr owned) follows
    | frontend => rfl
    | managedSession => rfl
    | unfocused => rfl
  · intro owned
    rcases owned with managed | unfocused
    · rw [managed]
      cases focused with
      | false => exact .inr (.inr rfl)
      | true => exact .inl rfl
    · rw [unfocused]
      cases focused with
      | false => exact .inr (.inr rfl)
      | true => exact .inl rfl

theorem orderly_step
    {shell : Shell}
    (orderly : Orderly shell)
    (step : ShellStep)
    (follows : ¬ shell.Slips step) :
    Orderly (shell.step step) := by
  cases step with
  | launch title => exact orderly_launch orderly title
  | decided index result =>
      unfold Shell.step
      dsimp only
      split
      case h_2 => exact orderly
      case h_1 found =>
          obtain ⟨sent, rfl, -⟩ := orderly.launches_eq found
          have single := orderly.single
          have shown := orderly.shown
          rw [sent] at single shown
          constructor
          · simpa [sent] using single
          · intro _
            exact shown (by simp only [List.length_singleton]; omega)
          · intro _
            exact orderly.starting (by rw [sent]; exact List.cons_ne_nil _ _)
          · exact orderly.away
          · exact orderly.handed
  | launchResult index =>
      rw [Shell.step]
      split
      case h_2 => exact orderly
      case h_1 result found =>
          obtain ⟨sent, rfl, quiet⟩ := orderly.launches_eq found
          have delivered := orderly_launchResult orderly result sent quiet
          simpa [sent] using delivered
  | dismissDelayed =>
      rw [Shell.step]
      split
      case isFalse => exact orderly
      case isTrue waiting =>
          have single := orderly.single
          have none : shell.launches = [] :=
            List.eq_nil_of_length_eq_zero (by omega)
          constructor
          · simp only
            omega
          · intro busy
            simp only [none, List.length_nil] at busy
            omega
          · intro started
            exact absurd none started
          · exact orderly.away
          · exact orderly.handed
  | dismissFailure =>
      unfold Shell.step
      dsimp only
      split
      case h_2 => exact orderly
      case h_1 title error layer =>
          have quiet : shell.launches.length + shell.dismissals = 0 := by
            by_contra busy
            obtain ⟨other, shown⟩ := orderly.shown (by omega)
            rw [layer] at shown
            cases shown
          refine ⟨orderly.single, ?_, orderly.starting, orderly.away,
            orderly.handed⟩
          intro busy
          simp only at busy
          omega
  | session active =>
      exact ⟨orderly.single, orderly.shown, orderly.starting, orderly.away,
        orderly.handed⟩
  | read =>
      rw [Shell.step]
      split
      case h_1 => exact orderly
      case h_2 =>
          exact ⟨orderly.single, orderly.shown, orderly.starting,
            orderly.away, orderly.handed⟩
  | observed =>
      rw [Shell.step]
      split
      case h_2 => exact orderly
      case h_1 reading taken =>
          exact orderly_observed orderly reading taken follows
  | checkFailed =>
      have same : shell.ownership.update .sessionCheckFailed =
          shell.ownership := by
        cases shell.ownership <;> rfl
      refine orderly.own .sessionCheckFailed none shell.focused ?_ ?_ ?_
      · rw [same]
        exact orderly.starting
      · rw [same]
        exact orderly.away
      · rw [same]
        exact .inr
  | focusChanged focused =>
      exact orderly_focusChanged orderly focused follows

/-- With control handed over, only focus and polls can bring it back. -/
theorem returnsProperly_of_orderly
    {shell : Shell}
    (orderly : Orderly shell)
    (step : ShellStep)
    (follows : ¬ shell.Slips step) :
    shell.ReturnsProperly step := by
  intro handed control
  have owned := orderly.handed handed
  have without : shell.hasControl = false := by
    rcases owned with managed | unfocused
    · rw [hasControl, managed]
      rfl
    · rw [hasControl, unfocused]
      rfl
  have unchanged : ∀ after : Shell, after.ownership = shell.ownership →
      after.hasControl = true → False := by
    intro after same regained
    rw [hasControl, same] at regained
    rw [hasControl, regained] at without
    cases without
  have settled : shell.launches = [] := by
    by_contra started
    have starting := orderly.starting started
    rcases owned with managed | unfocused
    · rw [starting] at managed
      cases managed
    · rw [starting] at unfocused
      cases unfocused
  cases step with
  | launch title =>
      rw [Shell.step, launch, without] at control
      exact (unchanged _ rfl control).elim
  | decided index result =>
      simp only [Shell.step, settled, List.getElem?_nil] at control
      exact (unchanged _ rfl control).elim
  | launchResult index =>
      simp only [Shell.step, settled, List.getElem?_nil] at control
      exact (unchanged _ rfl control).elim
  | dismissDelayed =>
      rw [Shell.step] at control
      split at control
      case isTrue => exact (unchanged _ rfl control).elim
      case isFalse => exact (unchanged _ rfl control).elim
  | dismissFailure =>
      unfold Shell.step at control
      dsimp only at control
      split at control
      case h_1 => exact (unchanged _ rfl control).elim
      case h_2 => exact (unchanged _ rfl control).elim
  | session active => exact (unchanged _ rfl control).elim
  | read =>
      rw [Shell.step] at control
      split at control
      case h_1 => exact (unchanged _ rfl control).elim
      case h_2 => exact (unchanged _ rfl control).elim
  | observed =>
      rw [Shell.step] at control
      split at control
      case h_2 => exact (unchanged _ rfl control).elim
      case h_1 reading taken =>
          refine .inr ⟨rfl, ?_⟩
          rw [taken]
          obtain ⟨active, stale⟩ := reading
          rcases owned with managed | unfocused
          · cases active with
            | true => simp [hasControl, own, managed, InputOwnership.update,
                InputOwnership.frontendHasControl] at control
            | false =>
                cases stale with
                | false => rfl
                | true =>
                    exact absurd ⟨_, taken, .inr ⟨rfl, rfl, managed⟩⟩ follows
          · simp [hasControl, own, unfocused, InputOwnership.update,
              InputOwnership.frontendHasControl] at control
  | checkFailed =>
      apply (unchanged _ ?_ control).elim
      change shell.ownership.update .sessionCheckFailed = shell.ownership
      cases shell.ownership <;> rfl
  | focusChanged focused =>
      cases focused with
      | true => exact .inl rfl
      | false =>
          rcases owned with managed | unfocused
          · simp [Shell.step, hasControl, own, managed,
              InputOwnership.update,
              InputOwnership.frontendHasControl] at control
          · simp [Shell.step, hasControl, own, unfocused,
              InputOwnership.update,
              InputOwnership.frontendHasControl] at control

end Shell

/-- In every run in which ownership follows every step, the shell acts only
when it may. -/
theorem shell_acts_only_when_it_may
    (steps : List ShellStep)
    (follows : shellMachine.Along (fun shell step => ¬ shell.Slips step)
      steps) :
    (shellMachine.run steps).Restrained ∧
      shellMachine.Along Shell.ReturnsProperly steps := by
  have orderly : ∀ steps,
      shellMachine.Along (fun shell step => ¬ shell.Slips step) steps →
      (shellMachine.run steps).Orderly := by
    intro steps
    exact shellMachine.run_induction_along _ Shell.Orderly
      Shell.orderly_new
      (fun _ step orderly follows => Shell.orderly_step orderly step follows)
      steps
  refine ⟨(orderly steps follows).restrained, ?_⟩
  intro earlier step later split
  subst split
  exact Shell.returnsProperly_of_orderly (orderly earlier follows.of_append)
    step (follows earlier step later rfl)

/-- A launch is accepted and the game takes the focus. -/
def acceptedLaunch : List ShellStep :=
  [.read, .observed, .launch "Celeste", .decided 0 (.ok ()),
    .launchResult 0, .focusChanged false]

theorem shell_acts_only_when_it_may_launch :
    (shellMachine.run acceptedLaunch).Restrained ∧
      shellMachine.Along Shell.ReturnsProperly acceptedLaunch := by
  apply shell_acts_only_when_it_may
  apply Machine.along_of_alongFrom
  simp [acceptedLaunch, Machine.AlongFrom, shellMachine, Shell.new,
    Shell.Slips, Shell.step, Shell.own, Shell.launch, Shell.launchResult,
    Shell.hasControl, InputOwnership.update,
    InputOwnership.frontendHasControl, LaunchState.update]

/-- The window loses focus before the first poll is answered. -/
def focusLostWhileChecking : List ShellStep :=
  [.focusChanged false, .read, .observed]

/-- The session of a launch is seen before its result arrives, and the window
is focused again. -/
def sessionSeenWhileLaunching : List ShellStep :=
  [.read, .observed, .launch "Celeste", .session true, .read, .observed,
    .focusChanged true]

/-- A poll reads before a launch is accepted and is answered after it. -/
def pollReadBeforeAcceptance : List ShellStep :=
  [.read, .observed, .launch "Celeste", .read, .decided 0 (.ok ()),
    .launchResult 0]

/-- Each of the three promises is broken in a run. -/
theorem shell_acts_when_it_may_not :
    ¬ (∀ steps, (shellMachine.run steps).focused = some false →
        (shellMachine.run steps).hasControl = false) ∧
      ¬ (∀ steps, (shellMachine.run steps).launches ≠ [] →
        (shellMachine.run steps).hasControl = false) ∧
      ¬ (∀ steps, shellMachine.Along Shell.ReturnsProperly steps) := by
  refine ⟨?_, ?_, ?_⟩
  · intro promise
    cases promise focusLostWhileChecking rfl
  · intro promise
    cases promise sessionSeenWhileLaunching (List.cons_ne_nil _ _)
  · intro promise
    have returned := promise (pollReadBeforeAcceptance ++ [.observed])
      pollReadBeforeAcceptance .observed [] rfl rfl rfl
    rcases returned with focus | ⟨-, fresh⟩
    · cases focus
    · cases fresh

end Frontend
end Hearthdeck
