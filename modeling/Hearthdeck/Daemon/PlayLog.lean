import Hearthdeck.Daemon.Sessions

/-!
# The log of a play's end

What the log of the session service says about the end of a play, and how one
task and one row of the journal agree with it.  A task pays for every refresh
with a close and for every end event with a close or a failed close; a row was
closed or swept as often as its outcome says.
-/

namespace Hearthdeck
namespace Daemon
namespace SessionService

open Foundation Protocol

/-! ## Reading the log -/

/-- The kinds of events that end a play. -/
inductive Mark
  | closed
  | closeFailed
  | refreshRequested
  | sessionEnded
  deriving DecidableEq

namespace Event

/-- The task that left a mark of one kind for one play. -/
def marks
    (mark : Mark)
    (sessionId : String) : Event → Option Nat
  | .closed task id =>
      if mark = .closed ∧ id = sessionId then some task else none
  | .closeFailed task id =>
      if mark = .closeFailed ∧ id = sessionId then some task else none
  | .refreshRequested task id _ =>
      if mark = .refreshRequested ∧ id = sessionId then some task else none
  | .sessionEnded task id =>
      if mark = .sessionEnded ∧ id = sessionId then some task else none
  | _ => none

/-- The event is a sweep that closed the play. -/
def sweeps (sessionId : String) : Event → Bool
  | .swept sessionIds => decide (sessionId ∈ sessionIds)
  | _ => false

/-- The task an event belongs to. -/
def task? : Event → Option Nat
  | .replied task _ _ => some task
  | .listed task _ => some task
  | .closed task _ => some task
  | .closeFailed task _ => some task
  | .swept _ => none
  | .refreshRequested task _ _ => some task
  | .sessionStarted task _ => some task
  | .sessionEnded task _ => some task

theorem task?_of_marks
    {mark : Mark}
    {sessionId : String}
    {event : Event}
    {task : Nat}
    (marked : event.marks mark sessionId = some task) :
    event.task? = some task := by
  cases event <;> simp_all [marks, task?]

end Event

/-- The tasks that left a mark of one kind for one play, oldest first. -/
def tally
    (mark : Mark)
    (sessionId : String)
    (log : List Event) : List Nat :=
  log.filterMap (Event.marks mark sessionId)

/-- Number of sweeps that closed one play. -/
def sweepCount
    (sessionId : String)
    (log : List Event) : Nat :=
  log.countP (Event.sweeps sessionId)

@[simp] theorem tally_append
    (mark : Mark)
    (sessionId : String)
    (first second : List Event) :
    tally mark sessionId (first ++ second) =
      tally mark sessionId first ++ tally mark sessionId second :=
  List.filterMap_append

@[simp] theorem tally_singleton
    (mark : Mark)
    (sessionId : String)
    (event : Event) :
    tally mark sessionId [event] = (event.marks mark sessionId).toList := by
  cases marked : event.marks mark sessionId <;> simp [tally, marked]

@[simp] theorem sweepCount_append
    (sessionId : String)
    (first second : List Event) :
    sweepCount sessionId (first ++ second) =
      sweepCount sessionId first + sweepCount sessionId second :=
  List.countP_append

@[simp] theorem sweepCount_singleton
    (sessionId : String)
    (event : Event) :
    sweepCount sessionId [event] =
      if event.sweeps sessionId then 1 else 0 :=
  List.countP_singleton

/-- Events of other tasks leave no marks of a task. -/
theorem count_tally_eq_zero
    (mark : Mark)
    (sessionId : String)
    {events : List Event}
    {task : Nat}
    (foreign : ∀ event ∈ events, event.task? ≠ some task) :
    (tally mark sessionId events).count task = 0 := by
  rw [List.count_eq_zero]
  intro member
  obtain ⟨event, present, marked⟩ := List.mem_filterMap.mp member
  exact foreign event present (Event.task?_of_marks marked)

/-- The bridge's word that a play has ended, given to a task: it accepted the
stop of the play, or, asked after the play was listed as running, it named
another active session or none. -/
def Justified
    (log : List Event)
    (task : Nat)
    (sessionId : String) : Prop :=
  (∃ target named,
      .replied task (StopTarget.request target)
        (.ok (.stopAccepted named)) ∈ log ∧
        target.stopped named = sessionId) ∨
    ∃ before running between session after,
      log = before ++ .listed task running :: (between ++
        .replied task .activeApplicationSession
          (.ok (.applicationSession session)) :: after) ∧
        sessionId ∈ running ∧
        session.map ApplicationSession.id ≠ some sessionId

theorem Justified.append
    {log : List Event}
    {task : Nat}
    {sessionId : String}
    (justified : Justified log task sessionId)
    (events : List Event) :
    Justified (log ++ events) task sessionId := by
  rcases justified with
    ⟨target, named, accepted, same⟩ |
    ⟨before, running, between, session, after, rfl, listed, unnamed⟩
  · exact Or.inl ⟨target, named, List.mem_append_left events accepted, same⟩
  · exact Or.inr ⟨before, running, between, session, after ++ events, by simp,
      listed, unnamed⟩

/-- Every close in the log was justified when it was made. -/
def ClosesJustified (log : List Event) : Prop :=
  ∀ before task sessionId after,
    log = before ++ .closed task sessionId :: after →
      Justified before task sessionId

theorem closesJustified_concat
    {log : List Event}
    (justified : ClosesJustified log)
    (event : Event)
    (next : ∀ task sessionId, event = .closed task sessionId →
      Justified log task sessionId) :
    ClosesJustified (log ++ [event]) := by
  intro before task sessionId after split
  induction after using List.reverseRecOn with
  | nil =>
      obtain ⟨rfl, same⟩ := List.append_inj' split rfl
      simp only [List.cons.injEq, and_true] at same
      exact next task sessionId same
  | append_singleton after last _ =>
      rw [← List.cons_append, ← List.append_assoc] at split
      obtain ⟨rfl, _⟩ := List.append_inj' split rfl
      exact justified before task sessionId after rfl

/-! ## One task -/

namespace Task

/-- What a task knows of the bridge when it is about to close plays. -/
def Grounded
    (log : List Event)
    (task : Nat) : Task → Prop
  | .querying running => .listed task running ∈ log
  | .finishing stage sessionId rest _ =>
      (stage = .closing → Justified log task sessionId) ∧
        ∀ next ∈ rest, Justified log task next
  | _ => True

/-- Refresh requests a task may still make for a play. -/
def refreshesOwed (sessionId : String) : Task → Nat
  | .finishing (.lookingUp _) id _ _ => if id = sessionId then 1 else 0
  | .finishing (.refreshing _) id _ _ => if id = sessionId then 1 else 0
  | _ => 0

/-- End events a task may still publish for a play it is done closing. -/
def endsOwed (sessionId : String) : Task → Nat
  | .finishing (.lookingUp _) id _ _ => if id = sessionId then 1 else 0
  | .finishing (.refreshing _) id _ _ => if id = sessionId then 1 else 0
  | .finishing .announcing id _ _ => if id = sessionId then 1 else 0
  | _ => 0

theorem Grounded.append
    {log : List Event}
    {task : Nat}
    {point : Task}
    (grounded : point.Grounded log task)
    (events : List Event) :
    point.Grounded (log ++ events) task := by
  cases point with
  | querying running => exact List.mem_append_left events grounded
  | finishing stage sessionId rest result =>
      exact ⟨fun closing => (grounded.1 closing).append events,
        fun next member => (grounded.2 next member).append events⟩
  | _ => trivial

theorem grounded_finish
    {log : List Event}
    {task : Nat}
    {sessionIds : List String}
    (result : Result)
    (justified : ∀ sessionId ∈ sessionIds, Justified log task sessionId) :
    (finish result sessionIds).Grounded log task := by
  cases sessionIds with
  | nil => trivial
  | cons sessionId rest =>
      exact ⟨fun _ => justified sessionId List.mem_cons_self,
        fun next member => justified next (List.mem_cons_of_mem _ member)⟩

@[simp] theorem refreshesOwed_finish
    (sessionId : String)
    (result : Result)
    (sessionIds : List String) :
    (finish result sessionIds).refreshesOwed sessionId = 0 := by
  cases sessionIds <;> rfl

@[simp] theorem endsOwed_finish
    (sessionId : String)
    (result : Result)
    (sessionIds : List String) :
    (finish result sessionIds).endsOwed sessionId = 0 := by
  cases sessionIds <;> rfl

end Task

/-- A task, its marks in the log and what it still owes agree: refreshes are
paid for by closes, and ends by closes and failed closes. -/
structure Settled
    (log : List Event)
    (task : Nat)
    (point : Task) : Prop where
  grounded : point.Grounded log task
  refreshes : ∀ sessionId,
    (tally .refreshRequested sessionId log).count task +
        point.refreshesOwed sessionId ≤
      (tally .closed sessionId log).count task
  ends : ∀ sessionId,
    (tally .sessionEnded sessionId log).count task +
        point.endsOwed sessionId ≤
      (tally .closed sessionId log).count task +
        (tally .closeFailed sessionId log).count task

/-- What other tasks do does not unsettle a task. -/
theorem Settled.append
    {log : List Event}
    {task : Nat}
    {point : Task}
    (settled : Settled log task point)
    {events : List Event}
    (foreign : ∀ event ∈ events, event.task? ≠ some task) :
    Settled (log ++ events) task point where
  grounded := settled.grounded.append events
  refreshes := fun sessionId => by
    have before := settled.refreshes sessionId
    simp only [tally_append, List.count_append,
      count_tally_eq_zero _ sessionId foreign]
    omega
  ends := fun sessionId => by
    have before := settled.ends sessionId
    simp only [tally_append, List.count_append,
      count_tally_eq_zero _ sessionId foreign]
    omega

/-- A task may go anywhere it is grounded while it leaves no marks, unless it
would owe more than before. -/
theorem Settled.goto
    {log : List Event}
    {task : Nat}
    {point next : Task}
    (settled : Settled log task point)
    {events : List Event}
    (unmarked : ∀ mark sessionId, tally mark sessionId events = [])
    (grounded : next.Grounded (log ++ events) task)
    (refreshes : ∀ sessionId,
      next.refreshesOwed sessionId ≤ point.refreshesOwed sessionId)
    (ends : ∀ sessionId,
      next.endsOwed sessionId ≤ point.endsOwed sessionId) :
    Settled (log ++ events) task next where
  grounded := grounded
  refreshes := fun sessionId => by
    have before := settled.refreshes sessionId
    have owed := refreshes sessionId
    simp only [tally_append, unmarked, List.append_nil]
    omega
  ends := fun sessionId => by
    have before := settled.ends sessionId
    have owed := ends sessionId
    simp only [tally_append, unmarked, List.append_nil]
    omega

/-! ## The journal -/

/-- A row of the journal agrees with the log: it was closed once if it is
closed, swept once if it is unclosed, and neither if it is running. -/
def Recorded
    (log : List Event)
    (sessionId : String) : Option PlaySession → Prop
  | none =>
      tally .closed sessionId log = [] ∧ sweepCount sessionId log = 0
  | some row =>
      row.Timed ∧
        (tally .closed sessionId log).length =
          (if row.outcome = .closed then 1 else 0) ∧
        sweepCount sessionId log =
          if row.outcome = .unclosed then 1 else 0

theorem Recorded.append
    {log : List Event}
    {sessionId : String}
    {row : Option PlaySession}
    (recorded : Recorded log sessionId row)
    {events : List Event}
    (unclosed : tally .closed sessionId events = [])
    (unswept : sweepCount sessionId events = 0) :
    Recorded (log ++ events) sessionId row := by
  cases row with
  | none => simpa [Recorded, unclosed, unswept] using recorded
  | some row => simpa [Recorded, unclosed, unswept] using recorded

theorem closed_le_one
    {log : List Event}
    {sessionId : String}
    {row : Option PlaySession}
    (recorded : Recorded log sessionId row) :
    (tally .closed sessionId log).length ≤ 1 := by
  cases row with
  | none => simp [recorded.1]
  | some row =>
      rw [recorded.2.1]
      split <;> omega

/-- A launch records a running play, or finds the play recorded. -/
theorem recorded_sessionStarted
    {log : List Event}
    {store : ActivityStore}
    (recorded : ∀ sessionId,
      Recorded log sessionId (store.playSessions.lookup sessionId))
    (now : Instant)
    (entry : ActivityEntry)
    (session : ApplicationSession)
    (sessionId : String) :
    Recorded log sessionId
      ((store.sessionStarted now entry session).playSessions.lookup
        sessionId) := by
  have before := recorded sessionId
  rw [ActivityStore.lookup_sessionStarted]
  cases found : store.playSessions.lookup sessionId with
  | some row =>
      rw [found] at before
      exact before
  | none =>
      rw [found] at before
      dsimp only
      split
      · simpa [Recorded, PlaySession.Timed, PlaySession.opened] using before
      · exact before

/-- A sweep closes the running plays without an end, and is logged for them. -/
theorem recorded_sweep
    {log : List Event}
    {store : ActivityStore}
    (recorded : ∀ sessionId,
      Recorded log sessionId (store.playSessions.lookup sessionId))
    (sessionId : String) :
    Recorded (log ++ [.swept store.runningSessions]) sessionId
      (store.sweepRunningSessions.playSessions.lookup sessionId) := by
  have before := recorded sessionId
  have listed := store.mem_runningSessions sessionId
  rw [ActivityStore.lookup_sweepRunningSessions]
  cases found : store.playSessions.lookup sessionId with
  | none =>
      have unlisted : sessionId ∉ store.runningSessions := by
        simp [listed, found]
      rw [found] at before
      exact before.append rfl (by simp [Event.sweeps, unlisted])
  | some row =>
      rw [found] at before
      obtain ⟨timed, closed, swept⟩ := before
      by_cases running : row.outcome = .running
      · have member : sessionId ∈ store.runningSessions :=
          listed.mpr ⟨row, found, running⟩
        have once :
            sweepCount sessionId [.swept store.runningSessions] = 1 := by
          simp [Event.sweeps, member]
        simp only [running, reduceCtorEq, if_false] at closed swept
        refine ⟨?_, ?_, ?_⟩
        · simpa [PlaySession.Timed, running] using timed
        · simpa [running, Event.marks] using closed
        · simp [running, swept, once]
      · have unlisted : sessionId ∉ store.runningSessions := by
          simp [listed, found, running]
        simp only [Option.map_some, running, if_false]
        have same : Recorded log sessionId (some row) := ⟨timed, closed, swept⟩
        exact same.append rfl (by simp [Event.sweeps, unlisted])

/-- Rows stay in the journal, and a row that left the running state stays as
it is. -/
def Keeps (before after : ActivityStore) : Prop :=
  ∀ sessionId row, before.playSessions.lookup sessionId = some row →
    ∃ later, after.playSessions.lookup sessionId = some later ∧
      (row.outcome ≠ .running → later = row)

theorem Keeps.refl (store : ActivityStore) : Keeps store store :=
  fun _ row found => ⟨row, found, fun _ => rfl⟩

theorem Keeps.trans
    {first second third : ActivityStore}
    (left : Keeps first second)
    (right : Keeps second third) :
    Keeps first third := by
  intro sessionId row found
  obtain ⟨middle, foundMiddle, sameMiddle⟩ := left sessionId row found
  obtain ⟨later, foundLater, sameLater⟩ := right sessionId middle foundMiddle
  refine ⟨later, foundLater, ?_⟩
  intro settled
  rw [sameMiddle settled] at sameLater
  exact sameLater settled

theorem keeps_sessionStarted
    (store : ActivityStore)
    (now : Instant)
    (entry : ActivityEntry)
    (session : ApplicationSession) :
    Keeps store (store.sessionStarted now entry session) := by
  intro sessionId row found
  refine ⟨row, ?_, fun _ => rfl⟩
  rw [ActivityStore.lookup_sessionStarted, found]

theorem keeps_sessionEnded
    (elapsed : Instant → Instant → Int)
    (store : ActivityStore)
    (now : Instant)
    (sessionId : String)
    (outcome : SessionOutcome) :
    Keeps store (store.sessionEnded elapsed now sessionId outcome).1 := by
  rcases ActivityStore.sessionEnded_cases elapsed store now sessionId outcome
    with ⟨row, found, running, _, _, lookups⟩ | unchanged
  · intro other old present
    rw [lookups other]
    by_cases same : other = sessionId
    · rw [same, found] at present
      cases present
      exact ⟨_, if_pos same, fun settled => absurd running settled⟩
    · exact ⟨old, (if_neg same).trans present, fun _ => rfl⟩
  · rw [unchanged]
    exact Keeps.refl store

theorem keeps_sweepRunningSessions (store : ActivityStore) :
    Keeps store store.sweepRunningSessions := by
  intro sessionId row found
  rw [ActivityStore.lookup_sweepRunningSessions, found]
  exact ⟨_, rfl, fun settled => if_neg settled⟩

end SessionService
end Daemon
end Hearthdeck
