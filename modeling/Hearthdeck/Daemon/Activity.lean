import Hearthdeck.Foundation.Table
import Hearthdeck.Protocol.Bridge

/-!
# The play journal

The two tables behind the activity store: `launch_activity`, one row per
catalog item, and `play_sessions`, one row per play.  Every definition is one
statement, or one transaction, of the store; a statement that fails leaves the
tables alone, which is what its caller models by not applying it.

Instants are the millisecond texts that `strftime` writes.  The seconds
between two of them go through SQLite's floating-point Julian days, so they
are a parameter of the model.
-/

namespace Hearthdeck
namespace Daemon

open Foundation Protocol

/-- A point in time, in milliseconds. -/
abbrev Instant := Nat

/-- How a play ended, which is also how much is known about it. -/
inductive SessionOutcome
  | running
  | closed
  | unclosed
  deriving DecidableEq, Repr

/-- A row of `launch_activity`, below its `item_id`. -/
structure LaunchActivity where
  snapshot : ActivityEntry
  lastLaunchedAt : Instant
  launchCount : Nat
  deriving DecidableEq, Repr

/-- A row of `play_sessions`, below its `session_id`. -/
structure PlaySession where
  itemId : String
  sourceId : String
  startedAt : Instant
  endedAt : Option Instant
  outcome : SessionOutcome
  durationSeconds : Option Int
  deriving DecidableEq, Repr

/-- The tables of the activity store. -/
structure ActivityStore where
  launchActivity : Table String LaunchActivity
  playSessions : Table String PlaySession

namespace PlaySession

/-- The row a launch writes. -/
def opened
    (now : Instant)
    (entry : ActivityEntry)
    (session : ApplicationSession) : PlaySession where
  itemId := entry.id
  sourceId := session.sourceId
  startedAt := now
  endedAt := none
  outcome := .running
  durationSeconds := none

/-- The row a close writes over a running one. -/
def ended
    (elapsed : Instant → Instant → Int)
    (now : Instant)
    (outcome : SessionOutcome)
    (row : PlaySession) : PlaySession :=
  { row with
    endedAt := some now
    outcome := outcome
    durationSeconds := some (elapsed row.startedAt now) }

/-- The end and the duration of a play are known exactly when it was
closed. -/
def Timed (row : PlaySession) : Prop :=
  (row.endedAt.isSome = true ↔ row.outcome = .closed) ∧
    (row.durationSeconds.isSome = true ↔ row.outcome = .closed)

end PlaySession

namespace ActivityStore

/-- The store of a new database. -/
def empty : ActivityStore where
  launchActivity := ∅
  playSessions := ∅

/-- The row a launch leaves in `launch_activity`: a new one, or the old one
with the new snapshot and one launch more. -/
def launched
    (store : ActivityStore)
    (now : Instant)
    (entry : ActivityEntry) : LaunchActivity where
  snapshot := entry
  lastLaunchedAt := now
  launchCount :=
    match store.launchActivity.lookup entry.id with
    | none => 1
    | some row => row.launchCount + 1

/-- The transaction of `session_started`: the aggregate row and the row in the
journal, which the same session id never writes twice. -/
def sessionStarted
    (store : ActivityStore)
    (now : Instant)
    (entry : ActivityEntry)
    (session : ApplicationSession) : ActivityStore where
  launchActivity :=
    store.launchActivity.insert entry.id (store.launched now entry)
  playSessions :=
    match store.playSessions.lookup session.id with
    | none =>
        store.playSessions.insert session.id (.opened now entry session)
    | some _ => store.playSessions

/-- The update of `session_ended`: the running row of one session is closed,
and its item is returned. -/
def sessionEnded
    (elapsed : Instant → Instant → Int)
    (store : ActivityStore)
    (now : Instant)
    (sessionId : String)
    (outcome : SessionOutcome) : ActivityStore × Option String :=
  match store.playSessions.lookup sessionId with
  | none => (store, none)
  | some row =>
      if row.outcome = .running then
        ({ store with
            playSessions := store.playSessions.mapValues fun key row =>
              if key = sessionId then row.ended elapsed now outcome else row },
          some row.itemId)
      else
        (store, none)

/-- The lookup of `session_ended`: the source in the snapshot of an item. -/
def finishedSource
    (store : ActivityStore)
    (itemId : String) : Option String :=
  (store.launchActivity.lookup itemId).map fun row => row.snapshot.source

/-- Session ids of plays that have not been closed, by their start. -/
def runningSessions (store : ActivityStore) : List String :=
  let rows := store.playSessions.entries.filter fun entry =>
    decide (entry.2.outcome = .running)
  let ordered := rows.reverse.mergeSort fun first second =>
    decide (first.2.startedAt ≤ second.2.startedAt)
  ordered.map Sigma.fst

/-- Close whatever the previous process left running. -/
def sweepRunningSessions (store : ActivityStore) : ActivityStore :=
  { store with
    playSessions := store.playSessions.mapValues fun _ row =>
      if row.outcome = .running then { row with outcome := .unclosed }
      else row }

/-! ## What the statements do to a row -/

theorem lookup_sessionStarted
    (store : ActivityStore)
    (now : Instant)
    (entry : ActivityEntry)
    (session : ApplicationSession)
    (sessionId : String) :
    (store.sessionStarted now entry session).playSessions.lookup sessionId =
      match store.playSessions.lookup sessionId with
      | some row => some row
      | none =>
          if sessionId = session.id then some (.opened now entry session)
          else none := by
  unfold sessionStarted
  cases present : store.playSessions.lookup session.id with
  | some row =>
      cases found : store.playSessions.lookup sessionId with
      | some other => rfl
      | none =>
          have different : sessionId ≠ session.id := by
            intro same
            rw [same, present] at found
            cases found
          simp [different]
  | none =>
      simp only [Table.lookup_insert_eq_ite]
      split
      · rename_i same
        rw [same, present]
      · cases store.playSessions.lookup sessionId <;> rfl

/-- The update closes a running row and nothing else. -/
theorem sessionEnded_cases
    (elapsed : Instant → Instant → Int)
    (store : ActivityStore)
    (now : Instant)
    (sessionId : String)
    (outcome : SessionOutcome) :
    (∃ row, store.playSessions.lookup sessionId = some row ∧
        row.outcome = .running ∧
        (store.sessionEnded elapsed now sessionId outcome).2 =
          some row.itemId ∧
        (store.sessionEnded elapsed now sessionId outcome).1.launchActivity =
          store.launchActivity ∧
        ∀ other,
          (store.sessionEnded elapsed now sessionId
              outcome).1.playSessions.lookup other =
            if other = sessionId then some (row.ended elapsed now outcome)
            else store.playSessions.lookup other) ∨
      store.sessionEnded elapsed now sessionId outcome = (store, none) := by
  unfold sessionEnded
  cases found : store.playSessions.lookup sessionId with
  | none => exact Or.inr rfl
  | some row =>
      dsimp only
      split
      · rename_i running
        refine Or.inl ⟨row, rfl, running, rfl, rfl, ?_⟩
        intro other
        rw [Table.lookup_mapValues]
        by_cases same : other = sessionId
        · subst same
          simp [found]
        · simp [same]
      · exact Or.inr rfl

theorem lookup_sweepRunningSessions
    (store : ActivityStore)
    (sessionId : String) :
    store.sweepRunningSessions.playSessions.lookup sessionId =
      (store.playSessions.lookup sessionId).map fun row =>
        if row.outcome = .running then { row with outcome := .unclosed }
        else row :=
  Table.lookup_mapValues _ _ _

theorem mem_runningSessions
    (store : ActivityStore)
    (sessionId : String) :
    sessionId ∈ store.runningSessions ↔
      ∃ row, store.playSessions.lookup sessionId = some row ∧
        row.outcome = .running := by
  simp only [runningSessions, List.mem_map, List.mem_mergeSort,
    List.mem_reverse, List.mem_filter, decide_eq_true_eq]
  constructor
  · rintro ⟨⟨key, row⟩, ⟨member, running⟩, rfl⟩
    exact ⟨row, AList.mem_lookup_iff.mpr member, running⟩
  · rintro ⟨row, found, running⟩
    exact ⟨⟨sessionId, row⟩, ⟨AList.mem_lookup_iff.mp found, running⟩, rfl⟩

end ActivityStore
end Daemon
end Hearthdeck
