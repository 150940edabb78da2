import Hearthdeck.Bridge.Sessions
import Hearthdeck.Daemon.Activity
import Hearthdeck.Foundation.Machine

/-!
# One row per play

The journal is meant to have one row per play, and the shelf of the dashboard
to be a cache of it.  The identity of a play is the session id the bridge
hands back.  The journal resolves a repeated id by keeping the old row, the
shelf resolves a repeated item by counting one launch more, and the bridge
hands back one id for every Heroic game.  This module follows the two tables
through every sequence of accepted launches, closes and restarts.
-/

namespace Hearthdeck
namespace Daemon
namespace Plays

open Foundation Protocol Bridge

/-- What happens to the activity store when every statement succeeds. -/
inductive Event
  /-- A launch the bridge accepted. -/
  | launched (request : BridgeRequest) (entry : ActivityEntry) (now : Instant)
  /-- A stop, or the watcher, closes a session. -/
  | closed (sessionId : String) (now : Instant)
  /-- A new daemon process sweeps what the old one left running. -/
  | restarted
  deriving DecidableEq, Repr

/-- One event in the store.  A request that launches nothing is answered
without a session, and the daemon then records nothing. -/
def record
    (elapsed : Instant → Instant → Int)
    (store : ActivityStore) : Event → ActivityStore
  | .launched request entry now =>
      match launchedSession request with
      | some session => store.sessionStarted now entry session
      | none => store
  | .closed sessionId now =>
      (store.sessionEnded elapsed now sessionId .closed).1
  | .restarted => store.sweepRunningSessions

/-- The activity store from a new database on. -/
def journal (elapsed : Instant → Instant → Int) :
    Machine ActivityStore Event Unit where
  start := .empty
  step := fun store event => (record elapsed store event, [])

/-- The session id the daemon made up for a launch and the bridge handed
back. -/
def ownSessionId : Event → Option String
  | .launched request _ _ =>
      if isHeroicLaunch request then none
      else (launchedSession request).map ApplicationSession.id
  | _ => none

/-- Whether an event is the launch of a Heroic game. -/
def isHeroic : Event → Bool
  | .launched request _ _ => isHeroicLaunch request
  | _ => false

/-- Session ids the daemon makes up are fresh: never repeated, and not the id
Heroic games share. -/
def Fresh (events : List Event) : Prop :=
  (events.filterMap ownSessionId).Nodup ∧
    heroicSessionId ∉ events.filterMap ownSessionId

instance (events : List Event) : Decidable (Fresh events) :=
  inferInstanceAs (Decidable (_ ∧ _))

/-- Number of plays of an item in the journal. -/
def playCount
    (store : ActivityStore)
    (itemId : String) : Nat :=
  store.playSessions.count fun _ row => row.itemId == itemId

/-- Number of launches of an item on the shelf. -/
def launchCount
    (store : ActivityStore)
    (itemId : String) : Nat :=
  match store.launchActivity.lookup itemId with
  | none => 0
  | some row => row.launchCount

/-- The shelf counts what the journal has. -/
def CountsAgree (store : ActivityStore) : Prop :=
  ∀ itemId, playCount store itemId = launchCount store itemId

/-- The journal has a running play of an item. -/
def Running
    (store : ActivityStore)
    (itemId : String) : Prop :=
  ∃ sessionId row, store.playSessions.lookup sessionId = some row ∧
    row.itemId = itemId ∧ row.outcome = .running

/-- What an accepted launch must leave, if the event is one. -/
def LaunchRecorded
    (store : ActivityStore) : Event → Prop
  | .launched request entry _ =>
      (launchedSession request).isSome = true → Running store entry.id
  | _ => True

/-- Every accepted launch is one recorded play: after each launch its item has
a running play, and the counts agree at all times. -/
def EveryLaunchRecorded
    (elapsed : Instant → Instant → Int)
    (events : List Event) : Prop :=
  (∀ earlier event later, events = earlier ++ event :: later →
    LaunchRecorded ((journal elapsed).run (earlier ++ [event])) event) ∧
  ∀ earlier later, events = earlier ++ later →
    CountsAgree ((journal elapsed).run earlier)

/-- The number of Heroic launches. -/
def heroicLaunches (events : List Event) : Nat :=
  events.countP isHeroic

/-! ## One event -/

theorem launchCount_sessionStarted
    (store : ActivityStore)
    (now : Instant)
    (entry : ActivityEntry)
    (session : ApplicationSession)
    (itemId : String) :
    launchCount (store.sessionStarted now entry session) itemId =
      launchCount store itemId + (if itemId = entry.id then 1 else 0) := by
  unfold launchCount ActivityStore.sessionStarted
  simp only [Table.lookup_insert_eq_ite]
  by_cases same : itemId = entry.id
  · subst same
    simp only [if_pos, ActivityStore.launched]
    cases store.launchActivity.lookup entry.id with
    | none => rfl
    | some row => rfl
  · simp only [if_neg same, Nat.add_zero]

/-- A launch under a new session id is one play more of its item. -/
theorem playCount_sessionStarted_of_new
    (store : ActivityStore)
    (now : Instant)
    (entry : ActivityEntry)
    (session : ApplicationSession)
    (new : store.playSessions.lookup session.id = none)
    (itemId : String) :
    playCount (store.sessionStarted now entry session) itemId =
      playCount store itemId + (if itemId = entry.id then 1 else 0) := by
  unfold playCount ActivityStore.sessionStarted
  rw [new]
  simp only
  rw [Table.count_insert_of_lookup_eq_none _ _ _ _ new]
  by_cases same : itemId = entry.id
  · subst same
    simp [PlaySession.opened]
  · have different : entry.id ≠ itemId := Ne.symm same
    simp [PlaySession.opened, same, different]

/-- A launch under a recorded session id is no play at all. -/
theorem playSessions_sessionStarted_of_recorded
    (store : ActivityStore)
    (now : Instant)
    (entry : ActivityEntry)
    (session : ApplicationSession)
    (row : PlaySession)
    (recorded : store.playSessions.lookup session.id = some row) :
    (store.sessionStarted now entry session).playSessions =
      store.playSessions := by
  unfold ActivityStore.sessionStarted
  rw [recorded]

theorem countsAgree_closed
    (elapsed : Instant → Instant → Int)
    (store : ActivityStore)
    (sessionId : String)
    (now : Instant)
    (agree : CountsAgree store) :
    CountsAgree (record elapsed store (.closed sessionId now)) := by
  intro itemId
  rw [record, ActivityStore.sessionEnded]
  split
  · exact agree itemId
  · split
    · refine (Table.count_mapValues _ _ _ ?_).trans (agree itemId)
      intro key row
      split_ifs <;> rfl
    · exact agree itemId

theorem countsAgree_restarted
    (elapsed : Instant → Instant → Int)
    (store : ActivityStore)
    (agree : CountsAgree store) :
    CountsAgree (record elapsed store .restarted) := by
  intro itemId
  refine (Table.count_mapValues _ _ _ ?_).trans (agree itemId)
  intro key row
  split_ifs <;> rfl

/-! ## Which session ids are recorded -/

/-- The session id the bridge hands back in an event. -/
def handedId : Event → Option String
  | .launched request _ _ =>
      (launchedSession request).map ApplicationSession.id
  | .closed .. => none
  | .restarted => none

theorem handedId_eq
    (event : Event) :
    handedId event =
      if isHeroic event then some heroicSessionId
      else ownSessionId event := by
  cases event with
  | launched request entry now => cases request <;> rfl
  | closed sessionId now => rfl
  | restarted => rfl

theorem isSome_lookup_record
    (elapsed : Instant → Instant → Int)
    (store : ActivityStore)
    (event : Event)
    (sessionId : String) :
    ((record elapsed store event).playSessions.lookup sessionId).isSome =
        true ↔
      (store.playSessions.lookup sessionId).isSome = true ∨
        handedId event = some sessionId := by
  cases event with
  | launched request entry now =>
      rw [record, handedId]
      cases launchedSession request with
      | none => simp
      | some session =>
          simp only [Option.map_some, Option.some.injEq]
          rw [ActivityStore.lookup_sessionStarted]
          cases store.playSessions.lookup sessionId with
          | some row => simp
          | none =>
              by_cases same : sessionId = session.id
              · simp [same]
              · simp [same, Ne.symm same]
  | closed closedId now =>
      rw [record, handedId]
      rcases ActivityStore.sessionEnded_cases elapsed store now closedId
        .closed with ⟨row, found, _, _, _, others⟩ | unchanged
      · rw [others sessionId]
        split_ifs with same
        · subst same
          simp [found]
        · simp
      · rw [unchanged]
        simp
  | restarted =>
      rw [record, handedId, ActivityStore.lookup_sweepRunningSessions]
      simp

/-- Exactly the session ids that were handed back are recorded. -/
theorem isSome_lookup_run
    (elapsed : Instant → Instant → Int)
    (events : List Event)
    (sessionId : String) :
    (((journal elapsed).run events).playSessions.lookup sessionId).isSome =
        true ↔
      ∃ event ∈ events, handedId event = some sessionId := by
  induction events using List.reverseRecOn with
  | nil =>
      refine iff_of_false ?_ ?_
      · intro present
        cases present
      · rintro ⟨event, member, _⟩
        cases member
  | append_singleton events event inductionHypothesis =>
      rw [Machine.run_concat]
      refine (isSome_lookup_record elapsed _ event sessionId).trans ?_
      rw [inductionHypothesis]
      simp only [List.mem_append, List.mem_singleton]
      constructor
      · rintro (⟨earlier, member, handed⟩ | handed)
        · exact ⟨earlier, Or.inl member, handed⟩
        · exact ⟨event, Or.inr rfl, handed⟩
      · rintro ⟨other, member | rfl, handed⟩
        · exact Or.inl ⟨other, member, handed⟩
        · exact Or.inr handed

theorem fresh_of_append
    (earlier later : List Event)
    (fresh : Fresh (earlier ++ later)) :
    Fresh earlier := by
  rw [Fresh, List.filterMap_append] at fresh
  exact ⟨(List.nodup_append.mp fresh.1).1,
    fun member => fresh.2 (List.mem_append_left _ member)⟩

/-- The id of a launch is recorded already exactly when a Heroic game is
launched and another one was launched before. -/
theorem isSome_lookup_launch_iff
    (elapsed : Instant → Instant → Int)
    (events : List Event)
    (request : BridgeRequest)
    (entry : ActivityEntry)
    (now : Instant)
    (session : ApplicationSession)
    (launches : launchedSession request = some session)
    (fresh : Fresh (events ++ [.launched request entry now])) :
    (((journal elapsed).run events).playSessions.lookup
        session.id).isSome = true ↔
      isHeroicLaunch request = true ∧ 0 < heroicLaunches events := by
  have handed : handedId (.launched request entry now) =
      some session.id := by
    rw [handedId, launches]
    rfl
  rw [Fresh, List.filterMap_append] at fresh
  obtain ⟨distinct, notShared⟩ := fresh
  rw [isSome_lookup_run, heroicLaunches, List.countP_pos_iff]
  rw [handedId_eq] at handed
  change (if isHeroicLaunch request then _ else _) = _ at handed
  cases heroic : isHeroicLaunch request with
  | true =>
      rw [heroic, if_pos rfl, Option.some.injEq] at handed
      simp only [true_and]
      constructor
      · rintro ⟨event, member, same⟩
        refine ⟨event, member, ?_⟩
        rw [handedId_eq] at same
        by_contra other
        rw [if_neg other, ← handed] at same
        exact notShared (List.mem_append_left _
          (List.mem_filterMap.mpr ⟨event, member, same⟩))
      · rintro ⟨event, member, same⟩
        exact ⟨event, member, by rw [handedId_eq, if_pos same, handed]⟩
  | false =>
      rw [heroic] at handed
      simp only [Bool.false_eq_true, if_false, false_and, iff_false] at handed ⊢
      rintro ⟨event, member, same⟩
      have last : session.id ∈
          [Event.launched request entry now].filterMap ownSessionId :=
        List.mem_filterMap.mpr ⟨_, List.mem_singleton_self _, handed⟩
      rw [handedId_eq] at same
      split_ifs at same with shared
      · rw [Option.some.injEq] at same
        rw [← same] at last
        exact notShared (List.mem_append_right _ last)
      · exact (List.nodup_append.mp distinct).2.2 _
          (List.mem_filterMap.mpr ⟨event, member, same⟩) _ last rfl

/-! ## Runs -/

theorem heroicLaunches_append
    (earlier later : List Event) :
    heroicLaunches (earlier ++ later) =
      heroicLaunches earlier + heroicLaunches later :=
  List.countP_append

/-- The launch of a run with one Heroic launch at most is under a new id. -/
theorem lookup_launch_eq_none
    (elapsed : Instant → Instant → Int)
    (events : List Event)
    (request : BridgeRequest)
    (entry : ActivityEntry)
    (now : Instant)
    (session : ApplicationSession)
    (launches : launchedSession request = some session)
    (fresh : Fresh (events ++ [.launched request entry now]))
    (single : heroicLaunches (events ++ [.launched request entry now]) ≤ 1) :
    ((journal elapsed).run events).playSessions.lookup session.id = none := by
  rw [← Option.not_isSome_iff_eq_none,
    isSome_lookup_launch_iff elapsed events request entry now session
      launches fresh]
  rintro ⟨heroic, earlier⟩
  have counted : heroicLaunches [.launched request entry now] = 1 := by
    simp [heroicLaunches, isHeroic, heroic]
  rw [heroicLaunches_append, counted] at single
  omega

theorem countsAgree_run
    (elapsed : Instant → Instant → Int)
    (events : List Event)
    (fresh : Fresh events)
    (single : heroicLaunches events ≤ 1) :
    CountsAgree ((journal elapsed).run events) := by
  induction events using List.reverseRecOn with
  | nil => exact fun _ => rfl
  | append_singleton events event inductionHypothesis =>
      have before := inductionHypothesis (fresh_of_append _ _ fresh) (by
        rw [heroicLaunches_append] at single
        omega)
      rw [Machine.run_concat]
      change CountsAgree (record elapsed _ event)
      cases event with
      | launched request entry now =>
          rw [record]
          cases launches : launchedSession request with
          | none => exact before
          | some session =>
              have new := lookup_launch_eq_none elapsed events request entry
                now session launches fresh single
              intro itemId
              simp only
              rw [launchCount_sessionStarted,
                playCount_sessionStarted_of_new _ _ _ _ new, before itemId]
      | closed sessionId now =>
          exact countsAgree_closed elapsed _ sessionId now before
      | restarted => exact countsAgree_restarted elapsed _ before

theorem launchRecorded_run
    (elapsed : Instant → Instant → Int)
    (earlier : List Event)
    (event : Event)
    (fresh : Fresh (earlier ++ [event]))
    (single : heroicLaunches (earlier ++ [event]) ≤ 1) :
    LaunchRecorded ((journal elapsed).run (earlier ++ [event])) event := by
  cases event with
  | launched request entry now =>
      intro isLaunch
      rw [Option.isSome_iff_exists] at isLaunch
      obtain ⟨session, launches⟩ := isLaunch
      have new := lookup_launch_eq_none elapsed earlier request entry now
        session launches fresh single
      rw [Machine.run_concat]
      refine ⟨session.id, .opened now entry session, ?_, rfl, rfl⟩
      change (record elapsed _ (.launched request entry
        now)).playSessions.lookup _ = _
      rw [record, launches]
      simp only
      rw [ActivityStore.lookup_sessionStarted, new, if_pos rfl]
  | closed sessionId now => trivial
  | restarted => trivial

/-- A second Heroic launch is counted on the shelf and missing in the
journal. -/
theorem not_countsAgree_second_heroic
    (elapsed : Instant → Instant → Int)
    (events : List Event)
    (request : BridgeRequest)
    (entry : ActivityEntry)
    (now : Instant)
    (fresh : Fresh (events ++ [.launched request entry now]))
    (heroic : isHeroicLaunch request = true)
    (earlier : 0 < heroicLaunches events)
    (before : CountsAgree ((journal elapsed).run events)) :
    ¬ CountsAgree
      ((journal elapsed).run (events ++ [.launched request entry now])) := by
  have launches : ∃ session, launchedSession request = some session := by
    cases request with
    | launchHeroicGame runner applicationId sessionId inputProfile =>
        exact ⟨_, rfl⟩
    | _ => cases heroic
  obtain ⟨session, launches⟩ := launches
  have recorded := (isSome_lookup_launch_iff elapsed events request entry now
    session launches fresh).mpr ⟨heroic, earlier⟩
  rw [Option.isSome_iff_exists] at recorded
  obtain ⟨row, recorded⟩ := recorded
  intro after
  have counts := after entry.id
  rw [Machine.run_concat] at counts
  change playCount (record elapsed _ (.launched request entry now)) _ =
    launchCount (record elapsed _ (.launched request entry now)) _ at counts
  rw [record, launches] at counts
  simp only at counts
  rw [launchCount_sessionStarted, if_pos rfl, playCount,
    playSessions_sessionStarted_of_recorded _ _ _ _ row recorded] at counts
  have same := before entry.id
  rw [playCount] at same
  omega

theorem everyLaunchRecorded_of_append
    (elapsed : Instant → Instant → Int)
    (earlier later : List Event)
    (recorded : EveryLaunchRecorded elapsed (earlier ++ later)) :
    EveryLaunchRecorded elapsed earlier := by
  constructor
  · intro first event rest split
    exact recorded.1 first event (rest ++ later) (by rw [split]; simp)
  · intro first rest split
    exact recorded.2 first (rest ++ later) (by rw [split]; simp)

/-- Every accepted launch is one recorded play exactly in the runs with one
Heroic launch at most. -/
theorem every_launch_recorded_iff
    (elapsed : Instant → Instant → Int)
    (events : List Event)
    (fresh : Fresh events) :
    EveryLaunchRecorded elapsed events ↔ heroicLaunches events ≤ 1 := by
  constructor
  · intro recorded
    induction events using List.reverseRecOn with
    | nil => exact Nat.zero_le 1
    | append_singleton events event inductionHypothesis =>
        have single := inductionHypothesis (fresh_of_append _ _ fresh)
          (everyLaunchRecorded_of_append elapsed _ _ recorded)
        by_contra more
        rw [heroicLaunches_append] at more
        cases event with
        | launched request entry now =>
            cases heroic : isHeroicLaunch request with
            | false =>
                have counted :
                    heroicLaunches [.launched request entry now] = 0 := by
                  simp [heroicLaunches, isHeroic, heroic]
                omega
            | true =>
                have counted :
                    heroicLaunches [.launched request entry now] = 1 := by
                  simp [heroicLaunches, isHeroic, heroic]
                exact not_countsAgree_second_heroic elapsed events request
                  entry now fresh heroic (by omega)
                  (recorded.2 events _ rfl) (recorded.2 _ [] (by simp))
        | closed sessionId now =>
            have counted : heroicLaunches [.closed sessionId now] = 0 := rfl
            omega
        | restarted =>
            have counted : heroicLaunches [.restarted] = 0 := rfl
            omega
  · intro single
    constructor
    · intro earlier event later split
      have whole : events = (earlier ++ [event]) ++ later := by
        rw [split]
        simp
      rw [whole] at fresh single
      rw [heroicLaunches_append] at single
      exact launchRecorded_run elapsed earlier event
        (fresh_of_append _ _ fresh) (by omega)
    · intro earlier later split
      rw [split] at fresh single
      rw [heroicLaunches_append] at single
      exact countsAgree_run elapsed earlier (fresh_of_append _ _ fresh)
        (by omega)

/-- The item of a game. -/
def game (id : String) : ActivityEntry where
  id := id
  title := id
  icon := none
  categories := []
  kind := some "game"
  source := Bridge.heroicSource
  metadata := "\x7b\x7d"

/-- The launch of a Heroic game. -/
def heroicEvent
    (id : String)
    (now : Instant) : Event :=
  .launched (.launchHeroicGame .gog id "session" .native) (game id) now

/-- Whole seconds between two instants. -/
def wholeSeconds (start now : Instant) : Int :=
  ((now : Int) - start) / 1000

theorem every_launch_recorded_desktop_heroic :
    EveryLaunchRecorded wholeSeconds
      [.launched (.launchApplication desktopAppsSource "writer" "a1"
          .native) (game "writer") 1000,
        .closed "a1" 5000, heroicEvent "hades" 6000, .restarted] :=
  (every_launch_recorded_iff wholeSeconds _ (by decide)).mpr
    (by decide)

/-- Two Heroic games, one after the other: the second is on the shelf and not
in the journal. -/
theorem second_heroic_game_unrecorded :
    Fresh [heroicEvent "hades" 1000, .closed heroicSessionId 5000,
        heroicEvent "celeste" 9000] ∧
      ¬ EveryLaunchRecorded wholeSeconds
        [heroicEvent "hades" 1000, .closed heroicSessionId 5000,
          heroicEvent "celeste" 9000] := by
  refine ⟨by decide, ?_⟩
  intro recorded
  have counts := recorded.2 _ [] (List.append_nil _).symm "celeste"
  revert counts
  decide

end Plays
end Daemon
end Hearthdeck
