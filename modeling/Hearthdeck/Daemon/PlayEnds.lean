import Mathlib.Data.List.Perm.Subperm
import Hearthdeck.Daemon.PlayLog

/-!
# A play ends once

What holds over all interleavings of launches, stops, rounds of the watcher
and restarts: a play that left the running state never changes again, it is
closed only on the bridge's word, its end and its duration are known exactly
when it was closed, its source is refreshed at most once, and its end is
announced at most once for the close and once for every close that failed.
-/

namespace Hearthdeck
namespace Daemon
namespace SessionService

open Foundation Protocol

/-! ## The system -/

/-- The invariant of the service: every task, every row of the journal and
every close in the log is accounted for. -/
structure Sound (system : System) : Prop where
  tasks : ∀ task, Settled system.log task (system.tasks task)
  journal : ∀ sessionId, Recorded system.log sessionId
    (system.store.playSessions.lookup sessionId)
  closes : ClosesJustified system.log

theorem start_sound : Sound start where
  tasks := fun task =>
    ⟨trivial, fun _ => Nat.le_refl 0, fun _ => Nat.le_refl 0⟩
  journal := fun _ => ⟨rfl, rfl⟩
  closes := fun before task sessionId after split => by
    simp [start] at split

namespace System

/-- A task moves: the other tasks stay settled, so the moved task, the journal
and the closes are what is left to show. -/
theorem move_sound
    {system : System}
    (tasks : ∀ task, Settled system.log task (system.tasks task))
    {task : Nat}
    {next : Task}
    {events : List Event}
    (own : ∀ event ∈ events, event.task? = some task)
    (settled : Settled (system.log ++ events) task next)
    (journal : ∀ sessionId, Recorded (system.log ++ events) sessionId
      (system.store.playSessions.lookup sessionId))
    (closes : ClosesJustified (system.log ++ events)) :
    Sound (system.move task next events) where
  tasks := fun other => by
    simp only [move, Function.update_apply]
    split
    · rename_i same
      subst same
      exact settled
    · rename_i different
      apply (tasks other).append
      intro event member
      rw [own event member]
      simpa using Ne.symm different
  journal := journal
  closes := closes

/-- Events that say nothing about the end of a play. -/
def Unmarked (events : List Event) : Prop :=
  ∀ event ∈ events,
    (∀ mark sessionId, event.marks mark sessionId = none) ∧
      ∀ sessionId, event.sweeps sessionId = false

theorem unmarked_nil : Unmarked [] := by
  simp [Unmarked]

theorem Unmarked.tally
    {events : List Event}
    (unmarked : Unmarked events)
    (mark : Mark)
    (sessionId : String) :
    tally mark sessionId events = [] := by
  apply List.filterMap_eq_nil_iff.mpr
  intro event member
  exact (unmarked event member).1 mark sessionId

theorem Unmarked.sweepCount
    {events : List Event}
    (unmarked : Unmarked events)
    (sessionId : String) :
    sweepCount sessionId events = 0 := by
  apply List.countP_eq_zero.mpr
  intro event member
  simp [(unmarked event member).2 sessionId]

theorem Unmarked.closes
    {log events : List Event}
    (unmarked : Unmarked events)
    (justified : ClosesJustified log) :
    ClosesJustified (log ++ events) := by
  induction events using List.reverseRecOn with
  | nil => simpa using justified
  | append_singleton events event inductionHypothesis =>
      rw [← List.append_assoc]
      apply closesJustified_concat
      · apply inductionHypothesis
        intro other member
        exact unmarked other (List.mem_append_left _ member)
      · rintro task sessionId rfl
        have marks := (unmarked _ (List.mem_append_right _
          List.mem_cons_self)).1 .closed sessionId
        simp [Event.marks] at marks

/-- A task moves on without a word about the end of a play. -/
theorem goto_sound
    {system : System}
    (sound : Sound system)
    {task : Nat}
    {next : Task}
    {events : List Event}
    (own : ∀ event ∈ events, event.task? = some task)
    (unmarked : Unmarked events)
    (grounded : next.Grounded (system.log ++ events) task)
    (refreshes : ∀ sessionId, next.refreshesOwed sessionId ≤
      (system.tasks task).refreshesOwed sessionId)
    (ends : ∀ sessionId, next.endsOwed sessionId ≤
      (system.tasks task).endsOwed sessionId) :
    Sound (system.move task next events) :=
  move_sound sound.tasks own
    ((sound.tasks task).goto unmarked.tally grounded refreshes ends)
    (fun sessionId => (sound.journal sessionId).append
      (unmarked.tally .closed sessionId) (unmarked.sweepCount sessionId))
    (unmarked.closes sound.closes)

/-- A task moves on silently. -/
theorem goto_sound_silently
    {system : System}
    (sound : Sound system)
    {task : Nat}
    {next : Task}
    (grounded : next.Grounded system.log task)
    (refreshes : ∀ sessionId, next.refreshesOwed sessionId ≤
      (system.tasks task).refreshesOwed sessionId)
    (ends : ∀ sessionId, next.endsOwed sessionId ≤
      (system.tasks task).endsOwed sessionId) :
    Sound (system.move task next []) :=
  goto_sound sound (by simp) unmarked_nil (by simpa using grounded) refreshes
    ends

/-- A task goes to a point where it owes nothing. -/
theorem free_sound
    {system : System}
    (sound : Sound system)
    {task : Nat}
    {next : Task}
    {events : List Event}
    (own : ∀ event ∈ events, event.task? = some task)
    (unmarked : Unmarked events)
    (grounded : next.Grounded (system.log ++ events) task)
    (refreshes : ∀ sessionId, next.refreshesOwed sessionId = 0)
    (ends : ∀ sessionId, next.endsOwed sessionId = 0) :
    Sound (system.move task next events) := by
  apply goto_sound sound own unmarked grounded
  · intro sessionId
    rw [refreshes]
    exact Nat.zero_le _
  · intro sessionId
    rw [ends]
    exact Nat.zero_le _

/-- A task leaves one mark that is not a close. -/
theorem mark_sound
    {system : System}
    (sound : Sound system)
    {task : Nat}
    {next : Task}
    {event : Event}
    (own : event.task? = some task)
    (notClosed : ∀ sessionId, event.marks .closed sessionId = none)
    (notSwept : ∀ sessionId, event.sweeps sessionId = false)
    (settled : Settled (system.log ++ [event]) task next) :
    Sound (system.move task next [event]) := by
  apply move_sound sound.tasks (by simpa using own) settled
  · intro sessionId
    apply (sound.journal sessionId).append
    · simp [notClosed]
    · simp [notSwept]
  · apply closesJustified_concat sound.closes
    rintro closer sessionId rfl
    simpa [Event.marks] using notClosed sessionId

theorem begin_sound
    {system : System}
    (sound : Sound system)
    (task : Nat)
    (work : Work) :
    Sound (system.begin task work) := by
  unfold begin
  split
  · apply free_sound sound (by simp) unmarked_nil
    · cases work <;> trivial
    · intro sessionId
      cases work <;> rfl
    · intro sessionId
      cases work <;> rfl
  · exact sound

theorem drop_sound
    {system : System}
    (sound : Sound system)
    (task : Nat) :
    Sound (system.drop task) := by
  unfold drop
  split
  · exact sound
  · exact free_sound sound (by simp) unmarked_nil trivial (fun _ => rfl)
      (fun _ => rfl)

theorem restart_sound
    {system : System}
    (sound : Sound system)
    (sweeps : Bool) :
    Sound (system.restart sweeps) := by
  have dropped : ∀ task, Settled system.log task
      ((system.restart false).tasks task) := by
    intro task
    have settled := sound.tasks task
    cases point : system.tasks task <;>
      simp only [System.restart, point] <;> rw [point] at settled
    case absent => exact settled
    all_goals
      have gone : Settled (system.log ++ []) task .dropped :=
        settled.goto (fun _ _ => rfl) trivial (fun _ => Nat.zero_le _)
          (fun _ => Nat.zero_le _)
      simpa using gone
  cases sweeps with
  | false => exact ⟨dropped, sound.journal, sound.closes⟩
  | true =>
      refine ⟨?_, recorded_sweep sound.journal, ?_⟩
      · intro task
        apply (dropped task).append
        simp [Event.task?]
      · apply closesJustified_concat sound.closes
        intro task sessionId impossible
        cases impossible

/-- A reply is no mark. -/
theorem unmarked_replied
    (task : Nat)
    (request : BridgeRequest)
    (reply : Reply) :
    Unmarked [.replied task request reply] := by
  simp [Unmarked, Event.marks, Event.sweeps]

theorem launchReplied_quiet
    (log : List Event)
    (task : Nat)
    (entry : ActivityEntry)
    (reply : Reply) :
    (Task.launchReplied entry reply).Grounded log task ∧
      (∀ sessionId,
        (Task.launchReplied entry reply).refreshesOwed sessionId = 0) ∧
      ∀ sessionId, (Task.launchReplied entry reply).endsOwed sessionId = 0 := by
  unfold Task.launchReplied
  split <;> exact ⟨trivial, fun _ => rfl, fun _ => rfl⟩

/-- A stop goes on to close a play only when the bridge accepted the stop of
that play. -/
theorem grounded_stopReplied
    {log : List Event}
    {task : Nat}
    {target : StopTarget}
    {reply : Reply}
    (replied : .replied task target.request reply ∈ log) :
    (Task.stopReplied target reply).Grounded log task := by
  unfold Task.stopReplied
  split
  · trivial
  · rename_i named
    apply Task.grounded_finish
    intro sessionId member
    rw [List.mem_singleton] at member
    exact Or.inl ⟨target, named, replied, member.symm⟩
  · trivial
  · trivial

theorem stopReplied_owes
    (target : StopTarget)
    (reply : Reply)
    (sessionId : String) :
    (Task.stopReplied target reply).refreshesOwed sessionId = 0 ∧
      (Task.stopReplied target reply).endsOwed sessionId = 0 := by
  unfold Task.stopReplied
  split
  · exact ⟨rfl, rfl⟩
  · simp
  · exact ⟨rfl, rfl⟩
  · exact ⟨rfl, rfl⟩

/-- A round of the watcher goes on to close those of the listed plays that the
bridge's reply does not name. -/
theorem grounded_lookupReplied
    {log : List Event}
    {task : Nat}
    {running : List String}
    (listed : .listed task running ∈ log)
    (reply : Reply) :
    (Task.lookupReplied running reply).Grounded
      (log ++ [.replied task .activeApplicationSession reply]) task := by
  unfold Task.lookupReplied
  split
  · trivial
  · rename_i session answered
    have named : reply = .ok (.applicationSession session) := by
      unfold active at answered
      split at answered <;> simp_all
    apply Task.grounded_finish
    intro sessionId member
    simp only [finishedSessions, List.mem_filter, decide_eq_true_eq] at member
    obtain ⟨before, between, rfl⟩ := List.append_of_mem listed
    refine Or.inr ⟨before, running, between, session, [], ?_, member.1, ?_⟩
    · simp [named]
    · exact fun same => member.2 same.symm

theorem lookupReplied_owes
    (running : List String)
    (reply : Reply)
    (sessionId : String) :
    (Task.lookupReplied running reply).refreshesOwed sessionId = 0 ∧
      (Task.lookupReplied running reply).endsOwed sessionId = 0 := by
  unfold Task.lookupReplied
  split
  · exact ⟨rfl, rfl⟩
  · simp

theorem reply_sound
    {system : System}
    (sound : Sound system)
    (task : Nat)
    (reply : Reply) :
    Sound (system.reply task reply) := by
  have settled := sound.tasks task
  unfold System.reply
  split
  · rename_i request entry _
    obtain ⟨grounded, refreshes, ends⟩ := launchReplied_quiet
      (system.log ++ [.replied task request reply]) task entry reply
    exact free_sound sound (by simp [Event.task?]) (unmarked_replied _ _ _)
      grounded refreshes ends
  · rename_i target _
    apply free_sound sound (by simp [Event.task?]) (unmarked_replied _ _ _)
    · apply grounded_stopReplied
      simp
    · exact fun sessionId => (stopReplied_owes target reply sessionId).1
    · exact fun sessionId => (stopReplied_owes target reply sessionId).2
  · rename_i running querying
    have listed := settled.grounded
    rw [querying] at listed
    apply free_sound sound (by simp [Event.task?]) (unmarked_replied _ _ _)
    · exact grounded_lookupReplied listed reply
    · exact fun sessionId => (lookupReplied_owes running reply sessionId).1
    · exact fun sessionId => (lookupReplied_owes running reply sessionId).2
  · exact sound

/-- The update of `session_ended`: it closes the running row of a play the
task is justified to close, or finds none. -/
theorem close_sound
    (elapsed : Instant → Instant → Int)
    {system : System}
    (sound : Sound system)
    {task : Nat}
    (now : Instant)
    {sessionId : String}
    {rest : List String}
    {result : Result}
    (closing : system.tasks task =
      .finishing .closing sessionId rest result) :
    Sound (system.close elapsed task now sessionId rest result) := by
  have settled := sound.tasks task
  rw [closing] at settled
  obtain ⟨justified, following⟩ := settled.grounded
  unfold close
  rcases ActivityStore.sessionEnded_cases elapsed system.store now sessionId
    .closed with ⟨row, found, running, returned, _, lookups⟩ | unchanged
  · generalize system.store.sessionEnded elapsed now sessionId .closed =
      ended at returned lookups
    obtain ⟨store, itemId⟩ := ended
    dsimp only at returned lookups
    subst returned
    dsimp only
    apply move_sound (by exact sound.tasks) (by simp [Event.task?])
    · refine ⟨⟨fun impossible => ?_, fun next member =>
        (following next member).append _⟩, ?_, ?_⟩
      · cases impossible
      · intro other
        have before := settled.refreshes other
        simp only [tally_append, List.count_append]
        by_cases same : sessionId = other <;>
          simp_all [Event.marks, Task.refreshesOwed]
      · intro other
        have before := settled.ends other
        simp only [tally_append, List.count_append]
        by_cases same : sessionId = other
        · simp_all [Event.marks, Task.endsOwed]
          omega
        · simp_all [Event.marks, Task.endsOwed]
    · intro other
      rw [lookups other]
      by_cases same : other = sessionId
      · subst same
        have before := sound.journal other
        rw [found] at before
        obtain ⟨_, closed, swept⟩ := before
        simp only [running, reduceCtorEq, if_false] at closed swept
        have unclosed := List.length_eq_zero_iff.mp closed
        rw [if_pos rfl]
        refine ⟨?_, ?_, ?_⟩
        · simp [PlaySession.Timed, PlaySession.ended]
        · simp [PlaySession.ended, unclosed, Event.marks]
        · simp [PlaySession.ended, swept, Event.sweeps]
      · rw [if_neg same]
        apply (sound.journal other).append
        · simp [Event.marks, Ne.symm same]
        · simp [Event.sweeps]
    · apply closesJustified_concat sound.closes
      intro closer closedId same
      cases same
      exact justified rfl
  · rw [unchanged]
    apply free_sound sound (by simp) unmarked_nil
    · simpa using Task.grounded_finish result following
    · simp
    · simp

/-- A play without a source to refresh goes straight to its end event. -/
theorem skipRefresh_sound
    {system : System}
    (sound : Sound system)
    {task : Nat}
    {itemId sessionId : String}
    {rest : List String}
    {result : Result}
    (lookingUp : system.tasks task =
      .finishing (.lookingUp itemId) sessionId rest result) :
    Sound (system.move task (.finishing .announcing sessionId rest result)
      []) := by
  have settled := sound.tasks task
  rw [lookingUp] at settled
  apply goto_sound_silently sound
  · refine ⟨fun impossible => ?_, settled.grounded.2⟩
    cases impossible
  · exact fun _ => Nat.zero_le _
  · intro other
    rw [lookingUp]
    exact Nat.le_refl _

theorem lookUp_sound
    (discovery : Bool)
    {system : System}
    (sound : Sound system)
    {task : Nat}
    {itemId sessionId : String}
    {rest : List String}
    {result : Result}
    (lookingUp : system.tasks task =
      .finishing (.lookingUp itemId) sessionId rest result) :
    Sound (system.lookUp discovery task itemId sessionId rest result) := by
  have settled := sound.tasks task
  rw [lookingUp] at settled
  obtain ⟨_, following⟩ := settled.grounded
  unfold lookUp
  split
  · split
    · apply goto_sound_silently sound
      · refine ⟨fun impossible => ?_, following⟩
        cases impossible
      · intro other
        rw [lookingUp]
        exact Nat.le_refl _
      · intro other
        rw [lookingUp]
        exact Nat.le_refl _
    · exact skipRefresh_sound sound lookingUp
  · apply free_sound sound (by simp) unmarked_nil
    · simpa using Task.grounded_finish result following
    · simp
    · simp

/-- A task leaves a mark that is not a close, pays for it with what it owes,
and goes on to announce the end of its play. -/
theorem announcing_sound
    {system : System}
    (sound : Sound system)
    {task : Nat}
    {stage : Stage}
    {sessionId : String}
    {rest : List String}
    {result : Result}
    (finishing : system.tasks task = .finishing stage sessionId rest result)
    {event : Event}
    (own : event.task? = some task)
    (notClosed : ∀ other, event.marks .closed other = none)
    (notSwept : ∀ other, event.sweeps other = false)
    (refreshes : ∀ other,
      (tally .refreshRequested other [event]).count task ≤
        (system.tasks task).refreshesOwed other)
    (ends : ∀ other,
      (tally .sessionEnded other [event]).count task +
          (Task.finishing .announcing sessionId rest result).endsOwed other ≤
        (tally .closeFailed other [event]).count task +
          (system.tasks task).endsOwed other) :
    Sound (system.move task (.finishing .announcing sessionId rest result)
      [event]) := by
  have settled := sound.tasks task
  have grounded := settled.grounded
  rw [finishing] at grounded
  apply mark_sound sound own notClosed notSwept
  refine ⟨⟨fun impossible => ?_, fun next member =>
    (grounded.2 next member).append _⟩, ?_, ?_⟩
  · cases impossible
  · intro other
    have before := settled.refreshes other
    have paid := refreshes other
    simp only [tally_append, List.count_append, Task.refreshesOwed]
    omega
  · intro other
    have before := settled.ends other
    have paid := ends other
    simp only [tally_append, List.count_append]
    omega

/-- A close that fails is in the log, and pays for the end the task goes on to
announce. -/
theorem closeFailed_sound
    {system : System}
    (sound : Sound system)
    {task : Nat}
    {sessionId : String}
    {rest : List String}
    {result : Result}
    (closing : system.tasks task =
      .finishing .closing sessionId rest result) :
    Sound (system.move task (.finishing .announcing sessionId rest result)
      [.closeFailed task sessionId]) := by
  apply announcing_sound sound closing rfl
  · simp [Event.marks]
  · simp [Event.sweeps]
  · intro other
    simp [Event.marks]
  · intro other
    by_cases same : sessionId = other
    · simp [Event.marks, Task.endsOwed, same]
    · simp [Event.marks, Task.endsOwed, same]

theorem query_sound
    (elapsed : Instant → Instant → Int)
    (discovery : Bool)
    {system : System}
    (sound : Sound system)
    (task : Nat)
    (now : Instant)
    (succeeds : Bool) :
    Sound (system.query elapsed discovery task now succeeds) := by
  unfold query
  split
  · rename_i entry session _
    have started : Sound { system with
        store := system.store.sessionStarted now entry session } :=
      ⟨sound.tasks, recorded_sessionStarted sound.journal now entry session,
        sound.closes⟩
    split
    · exact free_sound started (by simp) unmarked_nil trivial (fun _ => rfl)
        (fun _ => rfl)
    · exact free_sound sound (by simp) unmarked_nil trivial (fun _ => rfl)
        (fun _ => rfl)
  · split
    · apply free_sound sound
      · simp [Event.task?]
      · simp [Unmarked, Event.marks, Event.sweeps]
      · cases running : system.store.runningSessions with
        | nil => trivial
        | cons first others =>
            exact List.mem_append_right _ List.mem_cons_self
      · intro sessionId
        cases system.store.runningSessions <;> rfl
      · intro sessionId
        cases system.store.runningSessions <;> rfl
    · exact free_sound sound (by simp) unmarked_nil trivial (fun _ => rfl)
        (fun _ => rfl)
  · rename_i sessionId rest result closing
    split
    · exact close_sound elapsed sound now closing
    · exact closeFailed_sound sound closing
  · rename_i itemId sessionId rest result lookingUp
    split
    · exact lookUp_sound discovery sound lookingUp
    · exact skipRefresh_sound sound lookingUp
  · exact sound

/-- The refresh request of a play is paid for by its close. -/
theorem refresh_sound
    {system : System}
    (sound : Sound system)
    {task : Nat}
    {source sessionId : String}
    {rest : List String}
    {result : Result}
    (refreshing : system.tasks task =
      .finishing (.refreshing source) sessionId rest result) :
    Sound (system.move task (.finishing .announcing sessionId rest result)
      [.refreshRequested task sessionId source]) := by
  apply announcing_sound sound refreshing rfl
  · simp [Event.marks]
  · simp [Event.sweeps]
  · intro other
    rw [refreshing]
    by_cases same : sessionId = other
    · simp [Event.marks, Task.refreshesOwed, same]
    · simp [Event.marks, Task.refreshesOwed, same]
  · intro other
    rw [refreshing]
    simp [Event.marks, Task.endsOwed]

/-- The end event of a play is paid for by its close or by a failed one. -/
theorem announce_sound
    {system : System}
    (sound : Sound system)
    {task : Nat}
    {sessionId : String}
    {rest : List String}
    {result : Result}
    (announcing : system.tasks task =
      .finishing .announcing sessionId rest result) :
    Sound (system.move task (.finish result rest)
      [.sessionEnded task sessionId]) := by
  have settled := sound.tasks task
  rw [announcing] at settled
  obtain ⟨_, following⟩ := settled.grounded
  apply mark_sound sound rfl (by simp [Event.marks]) (by simp [Event.sweeps])
  refine ⟨Task.grounded_finish result fun next member =>
    (following next member).append _, ?_, ?_⟩
  · intro other
    have before := settled.refreshes other
    simp only [Task.refreshesOwed] at before
    simpa [Event.marks] using before
  · intro other
    have before := settled.ends other
    simp only [Task.endsOwed] at before
    by_cases same : sessionId = other
    · simpa [Event.marks, same] using before
    · simpa [Event.marks, same] using before

theorem publish_sound
    {system : System}
    (sound : Sound system)
    (task : Nat) :
    Sound (system.publish task) := by
  unfold publish
  split
  · apply free_sound sound
    · simp [Event.task?]
    · simp [Unmarked, Event.marks, Event.sweeps]
    · trivial
    · exact fun _ => rfl
    · exact fun _ => rfl
  · rename_i refreshing
    exact refresh_sound sound refreshing
  · rename_i announcing
    exact announce_sound sound announcing
  · exact sound

/-- Every step keeps the invariant. -/
theorem step_sound
    (elapsed : Instant → Instant → Int)
    (discovery : Bool)
    {system : System}
    (sound : Sound system)
    (step : Step) :
    Sound (system.step elapsed discovery step) := by
  cases step with
  | begin task work => exact begin_sound sound task work
  | reply task reply => exact reply_sound sound task reply
  | query task now succeeds =>
      exact query_sound elapsed discovery sound task now succeeds
  | publish task => exact publish_sound sound task
  | drop task => exact drop_sound sound task
  | restart sweeps => exact restart_sound sound sweeps

/-- Every step keeps the rows that left the running state. -/
theorem step_keeps
    (elapsed : Instant → Instant → Int)
    (discovery : Bool)
    (system : System)
    (step : Step) :
    Keeps system.store (system.step elapsed discovery step).store := by
  have same := Keeps.refl system.store
  cases step with
  | begin task work =>
      simp only [System.step, begin]
      split <;> exact same
  | reply task reply =>
      simp only [System.step, System.reply]
      split <;> exact same
  | query task now succeeds =>
      simp only [System.step, query]
      split
      · split
        · exact keeps_sessionStarted _ _ _ _
        · exact same
      · split <;> exact same
      · rename_i sessionId rest result _
        split
        · have keeps := keeps_sessionEnded elapsed system.store now sessionId
            .closed
          unfold close
          split <;> rename_i ended <;> rw [ended] at keeps <;> exact keeps
        · exact same
      · split
        · unfold lookUp
          split
          · split <;> exact same
          · exact same
        · exact same
      · exact same
  | publish task =>
      simp only [System.step, publish]
      split <;> exact same
  | drop task =>
      simp only [System.step, drop]
      split <;> exact same
  | restart sweeps =>
      simp only [System.step, restart]
      split
      · exact keeps_sweepRunningSessions _
      · exact same

end System

section Runs

variable (elapsed : Instant → Instant → Int) (discovery : Bool)

/-- The invariant holds after every interleaving. -/
theorem run_sound (steps : List Step) :
    Sound ((machine elapsed discovery).run steps) :=
  Machine.run_induction (machine elapsed discovery) Sound start_sound
    (fun _ step sound => System.step_sound elapsed discovery sound step) steps

/-- Rows are kept by every continuation of a run. -/
theorem runFrom_keeps
    (system : System)
    (steps : List Step) :
    Keeps system.store
      ((machine elapsed discovery).runFrom system steps).store := by
  induction steps generalizing system with
  | nil => exact Keeps.refl system.store
  | cons step steps inductionHypothesis =>
      exact (System.step_keeps elapsed discovery system step).trans
        (inductionHypothesis _)

/-- A play is closed in the journal only by a close in the log. -/
theorem exists_closed
    {log : List Event}
    {sessionId : String}
    {row : PlaySession}
    (recorded : Recorded log sessionId (some row))
    (closed : row.outcome = .closed) :
    ∃ before task after, log = before ++ .closed task sessionId :: after := by
  have once := recorded.2.1
  rw [if_pos closed] at once
  obtain ⟨task, member⟩ := List.exists_mem_of_length_pos
    (Nat.lt_of_lt_of_eq Nat.zero_lt_one once.symm)
  obtain ⟨event, present, marked⟩ := List.mem_filterMap.mp member
  have event_eq : event = .closed task sessionId := by
    cases event <;> simp_all [Event.marks]
  obtain ⟨before, after, split⟩ := List.append_of_mem present
  exact ⟨before, task, after, event_eq ▸ split⟩

/-- The refresh requests of a play, over all tasks. -/
theorem refreshRequested_le_one
    {system : System}
    (sound : Sound system)
    (sessionId : String) :
    (tally .refreshRequested sessionId system.log).length ≤ 1 := by
  have paid : (tally .refreshRequested sessionId system.log).Subperm
      (tally .closed sessionId system.log) := by
    rw [List.subperm_ext_iff]
    intro task _
    have settled := (sound.tasks task).refreshes sessionId
    omega
  exact Nat.le_trans paid.length_le
    (closed_le_one (sound.journal sessionId))

/-- The end events of a play, over all tasks. -/
theorem sessionEnded_le
    {system : System}
    (sound : Sound system)
    (sessionId : String) :
    (tally .sessionEnded sessionId system.log).length ≤
      1 + (tally .closeFailed sessionId system.log).length := by
  have paid : (tally .sessionEnded sessionId system.log).Subperm
      (tally .closed sessionId system.log ++
        tally .closeFailed sessionId system.log) := by
    rw [List.subperm_ext_iff]
    intro task _
    have settled := (sound.tasks task).ends sessionId
    rw [List.count_append]
    omega
  have once := closed_le_one (sound.journal sessionId)
  have total := paid.length_le
  rw [List.length_append] at total
  omega

/-- A play ends once, over every interleaving of launches, stops, rounds of the
watcher and restarts, with arbitrary replies and failing statements.  A row
that left the running state stays as it is, whatever follows; a row is closed
only on the bridge's word; its end and its duration are known exactly when it
is closed; its source is refreshed at most once; and its end is announced at
most once, but for one more time for every update of `session_ended` that
failed. -/
theorem play_ends_once (steps : List Step) :
    let system := (machine elapsed discovery).run steps
    (∀ more sessionId row,
        system.store.playSessions.lookup sessionId = some row →
        ∃ later,
          ((machine elapsed discovery).run
            (steps ++ more)).store.playSessions.lookup sessionId =
              some later ∧
            (row.outcome ≠ .running → later = row)) ∧
      (∀ sessionId row,
        system.store.playSessions.lookup sessionId = some row →
        row.outcome = .closed →
        ∃ before task after,
          system.log = before ++ .closed task sessionId :: after ∧
            Justified before task sessionId) ∧
      (∀ sessionId row,
        system.store.playSessions.lookup sessionId = some row →
        (row.endedAt.isSome = true ↔ row.outcome = .closed) ∧
          (row.durationSeconds.isSome = true ↔ row.outcome = .closed)) ∧
      ∀ sessionId,
        (tally .refreshRequested sessionId system.log).length ≤ 1 ∧
          (tally .sessionEnded sessionId system.log).length ≤
            1 + (tally .closeFailed sessionId system.log).length := by
  intro system
  have sound : Sound system := run_sound elapsed discovery steps
  refine ⟨?_, ?_, ?_, ?_⟩
  · intro more sessionId row found
    have keeps := runFrom_keeps elapsed discovery system more
    obtain ⟨later, foundLater, same⟩ := keeps sessionId row found
    refine ⟨later, ?_, same⟩
    rw [Machine.run, Machine.runFrom_append]
    exact foundLater
  · intro sessionId row found closed
    have recorded := sound.journal sessionId
    rw [found] at recorded
    obtain ⟨before, task, after, split⟩ := exists_closed recorded closed
    exact ⟨before, task, after, split,
      sound.closes before task sessionId after split⟩
  · intro sessionId row found
    have recorded := sound.journal sessionId
    rw [found] at recorded
    exact recorded.1
  · intro sessionId
    exact ⟨refreshRequested_le_one sound sessionId,
      sessionEnded_le sound sessionId⟩

end Runs

/-- A stop whose update fails announces the end of the play, and so does the
round of the watcher that closes it: two events for one play. -/
theorem failed_close_announces_twice :
    ¬∀ (elapsed : Instant → Instant → Int) (discovery : Bool)
      (steps : List Step) (sessionId : String),
      (tally .sessionEnded sessionId
        ((machine elapsed discovery).run steps).log).length ≤ 1 := by
  intro once
  have twice := once (fun first last => (last - first : Int) / 1000) true
    [.begin 0 (.launch (.launchRetroGame "core" "rom" "play" .native)
        ⟨"romm:42", "Game", none, [], some "game", "romm", "null"⟩),
      .reply 0 (.ok (.launchAccepted
        ⟨"play", "retroarch", "rom", .running⟩)),
      .query 0 1000 true, .publish 0,
      .begin 1 (.stop (.session "play")),
      .reply 1 (.ok (.stopAccepted "play")),
      .query 1 2000 false, .publish 1,
      .begin 2 .reconcile, .query 2 3000 true,
      .reply 2 (.ok (.applicationSession none)),
      .query 2 3001 true, .query 2 3002 true, .publish 2, .publish 2]
    "play"
  revert twice
  decide +kernel

end SessionService
end Daemon
end Hearthdeck
