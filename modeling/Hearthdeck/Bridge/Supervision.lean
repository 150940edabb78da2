import Hearthdeck.Bridge.UnitTasks

/-!
# What checks and stops know

Whose a process is shows in its number: numbers are not given again to
processes of another launch, and neither are the names of scopes.  Then a stop
takes no process of another launch, whatever happens between its calls and
whatever these are answered.

While a launch neither starts nor moves a process and none of its units becomes
active, what a request is answered about it is right, whatever all others do,
as long as the calls are answered truthfully.  It is systemd that says what is
active: of the processes in a unit that is not the bridge knows nothing.
-/

namespace Hearthdeck
namespace Bridge
namespace Supervision

open Foundation

/-- A unit the bridge starts. -/
def Ours (unit : String) : Prop :=
  unit = heroicUnitName ∨ ∃ sessionId, unit = applicationUnitName sessionId

/-- Whose the numbers of processes and the names of units are. -/
structure Attribution where
  launchOf : Nat → Option String
  ownerOf : String → Option String
  own : ∀ unit, Ours unit → ownerOf unit = some unit

/-- A process has the marker of no launch but its own, a unit of a launch has
no process but its own, and a scope of the desktop has those of one launch. -/
structure Belongs (attribution : Attribution) (process : Process) : Prop where
  marked : ∀ unit, process.Carries unit →
    attribution.launchOf process.pid = some unit
  placed : ∀ unit, attribution.ownerOf process.unit = some unit →
    attribution.launchOf process.pid = some unit
  shared : process.InScope →
    attribution.ownerOf process.unit = attribution.launchOf process.pid

/-- What a stop relies on: the main process of a unit is of its launch, and
stopping a unit takes no process of others. -/
def Spares
    (attribution : Attribution)
    (host : Host)
    (reply : Reply) : Question → Prop
  | .mainPid unit => ∀ pid, unitMainPid reply = some pid →
      attribution.launchOf pid = some unit
  | .stop unit => (∀ process ∈ reply.left, process ∈ host) ∧
      ∀ process ∈ host, process.unit ≠ unit → process ∈ reply.left
  | _ => True

/-- A request is made for a unit of the bridge, a host changes into one whose
processes belong to launches, and a stop spares other launches. -/
def Orderly (attribution : Attribution) (pool : Pool Scene Task) :
    Move Call Reply → Prop
  | .call (.stopApplication unit) => ∀ some ∈ unit, Ours some
  | .call (.applicationIsRunning unit) => ∀ some ∈ unit, Ours some
  | .call (.become host) => ∀ process ∈ host, Belongs attribution process
  | .advance index reply => ∀ task, pool.tasks[index]? = some task →
      Spares attribution pool.shared.host reply (task.asks reply)

/-! ## What is found -/

theorem Host.find_eq_some_iff
    (host : Host)
    (pid : Nat)
    (process : Process) :
    host.find pid = some process ↔ process ∈ host ∧ process.pid = pid := by
  unfold Host.find
  constructor
  · intro found
    have samePid := List.find?_some found
    exact ⟨List.mem_of_find?_eq_some found, beq_iff_eq.mp samePid⟩
  · rintro ⟨member, rfl⟩
    cases found : host.processes.find?
        fun other => other.pid == process.pid with
    | none =>
        exact absurd (List.find?_eq_none.mp found process member) (by simp)
    | some other =>
        have samePid : other.pid = process.pid := by
          simpa using List.find?_some found
        rw [List.inj_on_of_nodup_map host.distinct
          (List.mem_of_find?_eq_some found) member samePid]

theorem escapedUnitForProcess_eq_some_iff
    (host : Host)
    (pid : Nat)
    (unit scope : String) :
    escapedUnitForProcess host pid unit = some scope ↔
      ∃ process ∈ host, process.pid = pid ∧ process.InScope ∧
        process.unit = scope ∧ scope ≠ unit := by
  unfold escapedUnitForProcess
  rw [Option.bind_eq_some_iff]
  simp only [Host.find_eq_some_iff, escapedUnitFromCgroup_eq_some_iff,
    and_assoc]

theorem find_carries_iff
    (host : Host)
    (pid : Nat)
    (unit : String) :
    ((host.find pid).any fun process =>
        environmentContainsEntry process.environ (marker unit)) = true ↔
      ∃ process ∈ host, process.pid = pid ∧ process.Carries unit := by
  rw [Option.any_eq_true]
  simp only [Host.find_eq_some_iff, environmentContainsEntry_marker,
    and_assoc]

theorem mem_orderedSet {found : List String} {scope : String} :
    scope ∈ orderedSet found ↔ scope ∈ found := by
  rw [orderedSet, (perm_sortByKey _ _).mem_iff, List.mem_dedup]

/-! ## What is stopped -/

section Stopped

variable (attribution : Attribution) (unit : String)

/-- All units of a list are of a launch. -/
def Owned (units : List String) : Prop :=
  ∀ scope ∈ units, attribution.ownerOf scope = some unit

/-- What a search has found is so, and what it looks at is of the launch. -/
def Search.Finds (found : String → Prop) : Search → Prop
  | .mainPid => True
  | .mainCgroup pid => attribution.launchOf pid = some unit
  | .directory scopes => ∀ scope ∈ scopes, found scope
  | .environ _ scopes => ∀ scope ∈ scopes, found scope
  | .cgroup pid _ scopes =>
      attribution.launchOf pid = some unit ∧ ∀ scope ∈ scopes, found scope
  | .ended scopes => ∀ scope ∈ scopes, found scope

/-- A loop stops what is of the launch only. -/
def Stops.Owned : Stops → Prop
  | .upcoming units => Supervision.Owned attribution unit units
  | .confirmed target units =>
      Supervision.Owned attribution unit (target :: units)
  | .ended _ => True

def Task.Owned : Task → Prop
  | .find unit stage => Ours unit ∧
      stage.Finds attribution unit
        fun scope => attribution.ownerOf scope = some unit
  | .stop unit primary escaped =>
      primary.Owned attribution unit ∧ escaped.Owned attribution unit
  | _ => True

variable {attribution unit}

/-- What is found is the scope of a process of the launch. -/
theorem finds_escaped
    {found : String → Prop}
    {host : Host}
    (escaped : ∀ process ∈ host,
      attribution.launchOf process.pid = some unit → process.InScope →
        found process.unit)
    {pid : Nat}
    (launch : attribution.launchOf pid = some unit) :
    ∀ scope ∈ (escapedUnitForProcess host pid unit).toList,
      found scope := by
  intro scope member
  obtain ⟨process, among, rfl, inScope, rfl, _⟩ :=
    (escapedUnitForProcess_eq_some_iff host pid unit scope).mp
      (Option.mem_toList.mp member)
  exact escaped process among launch inScope

/-- A search finds scopes of processes of the launch only. -/
theorem Search.finds_next
    {found : String → Prop}
    {host : Host}
    (belongs : ∀ process ∈ host, Belongs attribution process)
    (escaped : ∀ process ∈ host,
      attribution.launchOf process.pid = some unit → process.InScope →
        found process.unit)
    {reply : Reply}
    {stage : Search}
    (spares : Spares attribution host reply (stage.asks unit))
    (finds : stage.Finds attribution unit found) :
    (stage.next host reply unit).Finds attribution unit found := by
  have ordered : ∀ scopes : List String, (∀ scope ∈ scopes, found scope) →
      ∀ scope ∈ orderedSet scopes, found scope :=
    fun scopes all scope member => all scope (mem_orderedSet.mp member)
  cases stage with
  | mainPid =>
      rw [Search.next]
      cases main : unitMainPid reply with
      | none => exact List.forall_mem_nil _
      | some pid => exact spares pid main
  | mainCgroup pid => exact finds_escaped escaped finds
  | directory scopes =>
      rw [Search.next]
      cases reply.pids with
      | none => exact ordered scopes finds
      | some pids => exact finds
  | environ pids scopes =>
      cases pids with
      | nil => exact ordered scopes finds
      | cons pid pids =>
          rw [Search.next]
          split
          case isTrue marked =>
              obtain ⟨process, among, rfl, carries⟩ :=
                (find_carries_iff host pid unit).mp marked
              exact ⟨(belongs process among).marked unit carries, finds⟩
          case isFalse other => exact finds
  | cgroup pid pids scopes =>
      intro scope member
      rcases List.mem_append.mp member with before | new
      · exact finds.2 scope before
      · exact finds_escaped escaped finds.1 scope new
  | ended units => exact finds

theorem Stops.owned_next
    {context : String → String → String}
    {reply : Reply}
    {stops : Stops}
    (owned : stops.Owned attribution unit) :
    (stops.next context reply).Owned attribution unit := by
  cases stops with
  | upcoming units =>
      cases units with
      | nil => trivial
      | cons target units =>
          rw [Stops.next]
          cases reply.active with
          | error error => trivial
          | ok active =>
              cases active with
              | true => exact owned
              | false => exact (List.forall_mem_cons.mp owned).2
  | confirmed target units =>
      rw [Stops.next]
      cases stopUnit reply target with
      | error error => trivial
      | ok _ => exact (List.forall_mem_cons.mp owned).2
  | ended result => trivial

/-- What a loop that stops units takes is of the launch. -/
theorem Scene.after_takes
    {scene : Scene}
    (belongs : ∀ process ∈ scene.host, Belongs attribution process)
    {reply : Reply}
    {stops : Stops}
    (spares : Spares attribution scene.host reply stops.asks)
    (owned : stops.Owned attribution unit)
    {process : Process}
    (stood : process ∈ scene.host)
    (gone : process ∉ (scene.after reply stops).host) :
    attribution.launchOf process.pid = some unit := by
  cases stops with
  | confirmed target units =>
      have inTarget : process.unit = target := by
        by_contra other
        exact gone (spares.2 process stood other)
      apply (belongs process stood).placed unit
      rw [inTarget]
      exact owned target List.mem_cons_self
  | upcoming units => exact absurd stood gone
  | ended result => exact absurd stood gone

theorem Scene.after_subset
    {scene : Scene}
    {reply : Reply}
    {stops : Stops}
    (spares : Spares attribution scene.host reply stops.asks) :
    ∀ process ∈ (scene.after reply stops).host, process ∈ scene.host := by
  cases stops with
  | confirmed target units => exact spares.1
  | upcoming units => exact fun _ member => member
  | ended result => exact fun _ member => member

/-- What the stops that are made at a time do: they have both ended, or one of
them goes on. -/
theorem performStops_cases
    (scene : Scene)
    (reply : Reply)
    (unit : String)
    (primary escaped : Stops) :
    (∃ error, performStops scene reply unit primary escaped =
      (scene.answered unit (.stopped (.error error)), [])) ∨
    performStops scene reply unit primary escaped =
      (scene, [.confirm unit .unit]) ∨
    reply.primary = true ∧ performStops scene reply unit primary escaped =
      (scene.after reply primary,
        [.stop unit (primary.nextPrimary reply) escaped]) ∨
    reply.primary = false ∧ performStops scene reply unit primary escaped =
      (scene.after reply escaped,
        [.stop unit primary (escaped.nextEscaped reply)]) := by
  unfold performStops
  split
  case h_1 error result => exact .inl ⟨error, rfl⟩
  case h_2 error => exact .inl ⟨error, rfl⟩
  case h_3 => exact .inr (.inl rfl)
  case h_4 =>
      split
      case isTrue first => exact .inr (.inr (.inl ⟨first, rfl⟩))
      case isFalse other =>
          exact .inr (.inr (.inr ⟨Bool.eq_false_iff.mpr other, rfl⟩))

/-- Only a stop that goes on changes the host. -/
theorem perform_host
    (scene : Scene)
    (task : Task)
    (reply : Reply) :
    (perform scene task reply).1.host = scene.host ∨
      ∃ unit primary escaped, ∃ stops ∈ [primary, escaped],
        task = .stop unit primary escaped ∧
          task.asks reply = stops.asks ∧
            (perform scene task reply).1 = scene.after reply stops := by
  cases task with
  | find unit stage =>
      unfold perform
      dsimp only
      split <;> exact .inl rfl
  | stop unit primary escaped =>
      rw [perform]
      rcases performStops_cases scene reply unit primary escaped with
        ⟨error, fails⟩ | ends | ⟨first, goes⟩ | ⟨second, goes⟩
      · exact .inl (by rw [fails]; rfl)
      · exact .inl (by rw [ends])
      · exact .inr ⟨unit, primary, escaped, primary, by simp, rfl,
          if_pos first, by rw [goes]⟩
      · exact .inr ⟨unit, primary, escaped, escaped, by simp, rfl,
          if_neg (Bool.eq_false_iff.mp second), by rw [goes]⟩
  | confirm unit check =>
      unfold perform
      dsimp only
      split <;> exact .inl rfl
  | ask unit check =>
      unfold perform
      dsimp only
      split <;> exact .inl rfl

theorem perform_subset
    {scene : Scene}
    {reply : Reply}
    {task : Task}
    (spares : Spares attribution scene.host reply (task.asks reply)) :
    ∀ process ∈ (perform scene task reply).1.host, process ∈ scene.host := by
  rcases perform_host scene task reply with
    same | ⟨unit, primary, escaped, stops, _, _, asks, after⟩
  · exact fun process member => same ▸ member
  · rw [after]
    exact Scene.after_subset (asks ▸ spares)

theorem perform_takes
    {scene : Scene}
    (belongs : ∀ process ∈ scene.host, Belongs attribution process)
    {reply : Reply}
    {task : Task}
    (spares : Spares attribution scene.host reply (task.asks reply))
    (owned : task.Owned attribution)
    {process : Process}
    (stood : process ∈ scene.host)
    (gone : process ∉ (perform scene task reply).1.host) :
    attribution.launchOf process.pid = some task.unit := by
  rcases perform_host scene task reply with
    same | ⟨unit, primary, escaped, stops, member, rfl, asks, after⟩
  · exact absurd (same ▸ stood) gone
  · rw [after] at gone
    refine Scene.after_takes belongs (asks ▸ spares) ?_ stood gone
    rcases List.mem_pair.mp member with rfl | rfl
    · exact owned.1
    · exact owned.2

theorem perform_owned
    {scene : Scene}
    (belongs : ∀ process ∈ scene.host, Belongs attribution process)
    {reply : Reply}
    {task : Task}
    (spares : Spares attribution scene.host reply (task.asks reply))
    (owned : task.Owned attribution) :
    ∀ later ∈ (perform scene task reply).2, later.Owned attribution := by
  cases task with
  | find unit stage =>
      have next := Search.finds_next belongs
        (fun process among launch inScope =>
          ((belongs process among).shared inScope).trans launch)
        spares owned.2
      unfold perform
      dsimp only
      split
      case h_1 escaped ends =>
          rw [ends] at next
          exact List.forall_mem_singleton.mpr
            ⟨List.forall_mem_singleton.mpr (attribution.own unit owned.1),
              next⟩
      case h_2 => exact List.forall_mem_singleton.mpr ⟨owned.1, next⟩
  | stop unit primary escaped =>
      rw [perform]
      rcases performStops_cases scene reply unit primary escaped with
        ⟨error, fails⟩ | ends | ⟨first, goes⟩ | ⟨second, goes⟩
      · rw [fails]
        exact List.forall_mem_nil _
      · rw [ends]
        exact List.forall_mem_singleton.mpr trivial
      · rw [goes]
        exact List.forall_mem_singleton.mpr
          ⟨Stops.owned_next owned.1, owned.2⟩
      · rw [goes]
        exact List.forall_mem_singleton.mpr
          ⟨owned.1, Stops.owned_next owned.2⟩
  | confirm unit check =>
      unfold perform
      dsimp only
      split
      case h_4 => exact List.forall_mem_singleton.mpr trivial
      all_goals exact List.forall_mem_nil _
  | ask unit check =>
      unfold perform
      dsimp only
      split
      case h_1 => exact List.forall_mem_nil _
      case h_2 => exact List.forall_mem_singleton.mpr trivial

end Stopped

/-- The runs from a host on which nothing was asked yet. -/
def supervised (host : Host) :
    Machine (Pool Scene Task) (Move Call Reply) Unit :=
  supervision.machine { host := host, verdicts := [] }

/-- In an orderly run the processes belong to launches, and the requests hold
on to what is of theirs. -/
def Attributed (attribution : Attribution) : Pool Scene Task → Prop :=
  Pool.Holds
    (fun scene => ∀ process ∈ scene.host, Belongs attribution process)
    (fun _ task => task.Owned attribution)

theorem Attributed.step
    {attribution : Attribution}
    {pool : Pool Scene Task}
    (attributed : Attributed attribution pool)
    {move : Move Call Reply}
    (orderly : Orderly attribution pool move) :
    Attributed attribution (supervision.step pool move) := by
  cases move with
  | call request =>
      have started : (∀ process ∈ (enter pool.shared request).1.host,
            Belongs attribution process) ∧
          ∀ task ∈ (enter pool.shared request).2, task.Owned attribution := by
        cases request with
        | stopApplication unit =>
            cases unit with
            | none => exact ⟨attributed.shared, List.forall_mem_nil _⟩
            | some unit =>
                exact ⟨attributed.shared, List.forall_mem_singleton.mpr
                  ⟨orderly unit rfl, trivial⟩⟩
        | applicationIsRunning unit =>
            cases unit with
            | none => exact ⟨attributed.shared, List.forall_mem_nil _⟩
            | some unit =>
                exact ⟨attributed.shared,
                  List.forall_mem_singleton.mpr trivial⟩
        | become host => exact ⟨orderly, List.forall_mem_nil _⟩
      exact Pool.Holds.call attributed started.1 (fun _ _ owned => owned)
        started.2
  | advance index reply =>
      cases stands : pool.tasks[index]? with
      | none =>
          rw [supervision.step_idle stands]
          exact attributed
      | some task =>
          have spares := orderly task stands
          exact Pool.Holds.advance attributed stands
            (fun process member =>
              attributed.shared process (perform_subset spares process member))
            (fun _ _ owned => owned)
            (perform_owned attributed.shared spares
              (attributed.each task (List.mem_of_getElem? stands)))

theorem attributed_run
    {attribution : Attribution}
    {host : Host}
    (belongs : ∀ process ∈ host, Belongs attribution process)
    {moves : List (Move Call Reply)}
    (orderly : (supervised host).Along (Orderly attribution) moves) :
    Attributed attribution ((supervised host).run moves) :=
  (supervised host).run_induction_along (Orderly attribution)
    (Attributed attribution) ⟨belongs, List.forall_mem_nil _⟩
    (fun _ _ attributed orderly => attributed.step orderly) moves orderly

/-- Whatever happens between the calls of the bridge, what a call takes from
the host is of the launch that the request is about. -/
theorem stops_take_no_other_launch
    {attribution : Attribution}
    {host : Host}
    (belongs : ∀ process ∈ host, Belongs attribution process)
    {earlier later : List (Move Call Reply)}
    {index : Nat}
    {reply : Reply}
    (orderly : (supervised host).Along (Orderly attribution)
      (earlier ++ .advance index reply :: later)) :
    let before := (supervised host).run earlier
    let after := (supervised host).run (earlier ++ [.advance index reply])
    ∀ process ∈ before.shared.host, process ∉ after.shared.host →
      ∃ task, before.tasks[index]? = some task ∧
        attribution.launchOf process.pid = some task.unit := by
  intro before after process stood gone
  have attributed := attributed_run belongs orderly.of_append
  have now := orderly earlier (.advance index reply) later rfl
  have step : after = supervision.step before (.advance index reply) :=
    (supervised host).run_concat earlier (.advance index reply)
  cases stands : before.tasks[index]? with
  | none =>
      rw [step, supervision.step_idle stands] at gone
      exact absurd stood gone
  | some task =>
      rw [step, supervision.step_advance stands] at gone
      exact ⟨task, rfl, perform_takes attributed.shared (now task stands)
        (attributed.each task (List.mem_of_getElem? stands)) stood gone⟩

/-! ### A game and another application -/

/-- The unit of a game. -/
def launched : String := applicationUnitName "a"

/-- The game, in its unit. -/
def game : Process where
  pid := 7
  entries := [marker launched]
  slices := ["app.slice"]
  unit := launched
  plain := by decide +kernel
  named := by decide +kernel

/-- An application that the desktop has started. -/
def beside : Process where
  pid := 8
  entries := []
  slices := ["app.slice"]
  unit := "app-beside-8.scope"
  plain := List.forall_mem_nil _
  named := by decide +kernel

def played : Host :=
  ⟨[game, beside], [launched, "app-beside-8.scope"], by decide⟩

def remaining : Host := ⟨[beside], ["app-beside-8.scope"], by decide⟩

/-- The game has the number 7, and every unit is of its own launch. -/
def gameAttribution : Attribution where
  launchOf pid := if pid = 7 then some launched else some beside.unit
  ownerOf := some
  own _ _ := rfl

/-- The unit is active, and its stop leaves the other application. -/
def gameReply : Reply where
  active := .ok true
  mainPid := none
  pids := none
  stopped := .ok true
  left := remaining
  primary := true

theorem belongs_played :
    ∀ process ∈ played, Belongs gameAttribution process := by
  intro process member
  rcases List.mem_pair.mp member with rfl | rfl
  case inl =>
    refine ⟨?_, fun _ => id, fun _ => rfl⟩
    intro unit carries
    rw [marker_injective (List.mem_singleton.mp carries)]
    rfl
  case inr =>
    exact ⟨fun _ carries => absurd carries List.not_mem_nil, fun _ => id,
      fun _ => rfl⟩

theorem ours_launched : Ours launched := .inr ⟨"a", rfl⟩

theorem spares_played :
    Spares gameAttribution played gameReply (.stop launched) := by
  refine ⟨fun _ => List.mem_cons_of_mem _, ?_⟩
  intro process member elsewhere
  rcases List.mem_pair.mp member with rfl | rfl
  case inl => exact absurd rfl elsewhere
  case inr => exact List.mem_cons_self

/-- The stop of the game up to the call that takes its process. -/
def stopMoves : List (Move Call Reply) :=
  [.call (.stopApplication launched), .advance 0 gameReply,
    .advance 0 gameReply, .advance 0 gameReply]

theorem orderly_stopMoves :
    (supervised played).Along (Orderly gameAttribution)
      (stopMoves ++ [.advance 0 gameReply]) := by
  apply Machine.along_of_alongFrom
  refine ⟨?_, ?_, ?_, ?_, ?_, trivial⟩
  · rintro unit ⟨⟩
    exact ours_launched
  · rintro task ⟨⟩ pid ⟨⟩
  · rintro task ⟨⟩
    trivial
  · rintro task ⟨⟩
    trivial
  · rintro task ⟨⟩
    exact spares_played

theorem game_notMem_remaining : game ∉ remaining := by decide

theorem stops_take_no_other_launch_game :
    ∃ task, ((supervised played).run stopMoves).tasks[0]? = some task ∧
      gameAttribution.launchOf game.pid = some task.unit :=
  stops_take_no_other_launch belongs_played orderly_stopMoves game
    List.mem_cons_self game_notMem_remaining

/-! ## What is answered -/

section Answers

variable (attribution : Attribution) (unit : String)

/-- The unit of a launch is active, or a scope with a process of it is. -/
def Runs (host : Host) : Prop :=
  unit ∈ host.active ∨ ∃ process ∈ host,
    attribution.launchOf process.pid = some unit ∧ process.InScope ∧
      process.unit ∈ host.active

/-- Neither the unit of a launch is active, nor any scope with a process that
has its marker. -/
structure Rests (host : Host) : Prop where
  quiet : unit ∉ host.active
  escaped : ∀ process ∈ host, process.InScope → process.Carries unit →
    process.unit ∉ host.active

/-- An answer is right about a launch: what runs did so at first, and what does
not run does not in the end. -/
def Verdict.Right (earlier host : Host) : Verdict → Prop
  | .running (.ok true) => Runs attribution unit earlier
  | .running (.ok false) => Rests unit host
  | .stopped (.ok ()) => Rests unit host
  | _ => True

/-- A launch has neither started nor moved a process, and none of its units
has become active. -/
structure Stays (before after : Host) : Prop where
  kept : ∀ process ∈ after,
    attribution.launchOf process.pid = some unit → process ∈ before
  settled : ∀ scope ∈ after.active,
    attribution.ownerOf scope = some unit → scope ∈ before.active

/-- What the bridge is told of a launch is so: systemd says which of its units
are active, `/proc` lists every process, and a stop makes none of its units
active. -/
def Truthful (host : Host) (reply : Reply) : Question → Prop
  | .active scope => attribution.ownerOf scope = some unit →
      ∀ answer, reply.active = .ok answer →
        (answer = true ↔ scope ∈ host.active)
  | .pids => ∃ pids, reply.pids = some pids ∧
      ∀ process ∈ host, process.pid ∈ pids
  | .stop _ => ∀ scope ∈ reply.left.active,
      attribution.ownerOf scope = some unit → scope ∈ host.active
  | _ => True

/-- The processes of a launch neither start, fork nor move, none of its units
becomes active, and the bridge is told the truth. -/
def Calm (pool : Pool Scene Task) : Move Call Reply → Prop
  | .call (.become host) => Stays attribution unit pool.shared.host host
  | .call _ => True
  | .advance index reply => ∀ task, pool.tasks[index]? = some task →
      Truthful attribution unit pool.shared.host reply (task.asks reply)

/-! ### What a request knows -/

/-- At first a process of the launch was in a scope. -/
def Escaped (earlier : Host) (scope : String) : Prop :=
  ∃ process ∈ earlier, attribution.launchOf process.pid = some unit ∧
    process.InScope ∧ process.unit = scope

/-- What is active and has not been found yet is still to be read. -/
def Covered (host : Host) (pids : List Nat) (found : List String) : Prop :=
  ∀ process ∈ host, process.InScope → process.Carries unit →
    process.pid ∈ pids ∨ process.unit ∈ found ∨ process.unit ∉ host.active

def Search.Covers (host : Host) : Search → Prop
  | .environ pids found => Covered unit host pids found
  | .cgroup pid pids found => Covered unit host (pid :: pids) found
  | .ended units => Covered unit host [] units
  | _ => True

def Check.Knows (earlier host : Host) : Check → Prop
  | .unit => True
  | .search stage => unit ∉ host.active ∧
      stage.Finds attribution unit (Escaped attribution unit earlier) ∧
        stage.Covers unit host
  | .scopes units => unit ∉ host.active ∧
      (∀ scope ∈ units, Escaped attribution unit earlier scope) ∧
        Covered unit host [] units
  | .ended answer =>
      (Verdict.running answer).Right attribution unit earlier host

def Task.Knows (earlier host : Host) : Task → Prop
  | .confirm launch check =>
      launch = unit → check.Knows attribution unit earlier host
  | .ask launch check =>
      launch = unit → check.Knows attribution unit earlier host
  | _ => True

variable {attribution unit} {earlier host : Host}

theorem Stays.refl
    (attribution : Attribution)
    (unit : String)
    (host : Host) :
    Stays attribution unit host host :=
  ⟨fun _ among _ => among, fun _ among _ => among⟩

theorem Stays.trans
    {later : Host}
    (first : Stays attribution unit earlier host)
    (second : Stays attribution unit host later) :
    Stays attribution unit earlier later where
  kept process among launch :=
    first.kept process (second.kept process among launch) launch
  settled scope among owner :=
    first.settled scope (second.settled scope among owner) owner

/-- A scope that a process of a launch was found in is of the launch. -/
theorem Escaped.owner
    (belongs : ∀ process ∈ earlier, Belongs attribution process)
    {scope : String}
    (escaped : Escaped attribution unit earlier scope) :
    attribution.ownerOf scope = some unit := by
  obtain ⟨process, among, launch, inScope, rfl⟩ := escaped
  exact ((belongs process among).shared inScope).trans launch

theorem Escaped.runs
    {scope : String}
    (escaped : Escaped attribution unit earlier scope)
    (active : scope ∈ earlier.active) :
    Runs attribution unit earlier := by
  obtain ⟨process, among, launch, inScope, rfl⟩ := escaped
  exact .inr ⟨process, among, launch, inScope, active⟩

theorem covered_orderedSet
    {found : List String}
    (covered : Covered unit host [] found) :
    Covered unit host [] (orderedSet found) := by
  intro process among inScope carries
  simpa [mem_orderedSet] using covered process among inScope carries

/-- A process that is read has the marker and is in a scope that is found, or
need not be found. -/
theorem Covered.read
    {pid : Nat}
    {pids : List Nat}
    {found others : List String}
    (covered : Covered unit host (pid :: pids) found)
    (read : ∀ process ∈ host, process.pid = pid → process.InScope →
      process.Carries unit →
        process.unit ∈ others ∨ process.unit ∉ host.active) :
    Covered unit host pids (found ++ others) := by
  intro process among inScope carries
  rcases covered process among inScope carries with
    listed | already | inactive
  case inl =>
    rcases List.mem_cons.mp listed with here | later
    · exact .inr ((read process among here inScope carries).imp_left
        (List.mem_append_right _))
    · exact .inl later
  case inr.inl => exact .inr (.inl (List.mem_append_left _ already))
  case inr.inr => exact .inr (.inr inactive)

/-- A scope that is not active need not be found. -/
theorem Covered.tail
    {pids : List Nat}
    {scope : String}
    {found : List String}
    (covered : Covered unit host pids (scope :: found))
    (inactive : scope ∉ host.active) :
    Covered unit host pids found := by
  intro process among inScope carries
  rcases covered process among inScope carries with listed | already | rests
  case inl => exact .inl listed
  case inr.inl =>
    rcases List.mem_cons.mp already with same | later
    · exact .inr (.inr (same ▸ inactive))
    · exact .inr (.inl later)
  case inr.inr => exact .inr (.inr rests)

theorem Search.covers_next
    (quiet : unit ∉ host.active)
    {reply : Reply}
    {stage : Search}
    (truthful : Truthful attribution unit host reply (stage.asks unit))
    (covers : stage.Covers unit host) :
    (stage.next host reply unit).Covers unit host := by
  cases stage with
  | mainPid =>
      rw [Search.next]
      split <;> trivial
  | mainCgroup pid => trivial
  | directory found =>
      obtain ⟨pids, read, listed⟩ := truthful
      rw [Search.next, read]
      intro process among _ _
      exact .inl (listed process among)
  | environ pids found =>
      cases pids with
      | nil => exact covered_orderedSet covers
      | cons pid pids =>
          rw [Search.next]
          split
          case isTrue marked => exact covers
          case isFalse other =>
              change Covered unit host pids found
              rw [← List.append_nil found]
              apply Covered.read covers
              intro process among here inScope carries
              exact absurd ((find_carries_iff host pid unit).mpr
                ⟨process, among, here, carries⟩) other
  | cgroup pid pids found =>
      apply Covered.read covers
      intro process among here inScope carries
      by_cases same : process.unit = unit
      · rw [same]
        exact .inr quiet
      · left
        exact Option.mem_toList.mpr
          ((escapedUnitForProcess_eq_some_iff host pid unit _).mpr
            ⟨process, among, here, inScope, rfl, same⟩)
  | ended units => exact covers

/-- What a check is told, it knows. -/
theorem Check.knows_next
    (before : ∀ process ∈ earlier, Belongs attribution process)
    (belongs : ∀ process ∈ host, Belongs attribution process)
    (stays : Stays attribution unit earlier host)
    (ours : Ours unit)
    {reply : Reply}
    {check : Check}
    (spares : Spares attribution host reply (check.asks unit))
    (truthful : Truthful attribution unit host reply (check.asks unit))
    (knows : check.Knows attribution unit earlier host) :
    (check.next host reply unit).Knows attribution unit earlier host := by
  cases check with
  | unit =>
      have own := attribution.own unit ours
      rw [Check.next]
      cases asked : reply.active with
      | error error => trivial
      | ok active =>
          have told := truthful own active asked
          cases active with
          | true => exact .inl (stays.settled unit (told.mp rfl) own)
          | false =>
              exact ⟨fun active => Bool.false_ne_true (told.mpr active),
                trivial, trivial⟩
  | search stage =>
      obtain ⟨quiet, finds, covers⟩ := knows
      have found := Search.finds_next belongs
        (fun process among launch inScope =>
          ⟨process, stays.kept process among launch, launch, inScope, rfl⟩)
        spares finds
      have covered := Search.covers_next quiet truthful covers
      rw [Check.next]
      split
      case h_1 units ends =>
          rw [ends] at found covered
          exact ⟨quiet, found, covered⟩
      case h_2 => exact ⟨quiet, found, covered⟩
  | scopes units =>
      obtain ⟨quiet, escaped, covered⟩ := knows
      cases units with
      | nil =>
          refine ⟨quiet, fun process among inScope carries => ?_⟩
          simpa using covered process among inScope carries
      | cons scope units =>
          obtain ⟨here, others⟩ := List.forall_mem_cons.mp escaped
          have owner := here.owner before
          rw [Check.next]
          cases asked : reply.active with
          | error error => trivial
          | ok active =>
              have told := truthful owner active asked
              cases active with
              | true =>
                  exact here.runs (stays.settled scope (told.mp rfl) owner)
              | false =>
                  exact ⟨quiet, others, covered.tail fun active =>
                    Bool.false_ne_true (told.mpr active)⟩
  | ended answer => exact knows

/-- Nothing is to be known by requests about others. -/
theorem Task.knows_of_ne
    {task : Task}
    (other : task.unit ≠ unit) :
    task.Knows attribution unit earlier host := by
  cases task with
  | find launch stage => trivial
  | stop launch primary escaped => trivial
  | confirm launch check => exact fun same => absurd same other
  | ask launch check => exact fun same => absurd same other

/-! ### While others go on -/

theorem Stays.quiet
    {now : Host}
    (stays : Stays attribution unit host now)
    (ours : Ours unit)
    (quiet : unit ∉ host.active) :
    unit ∉ now.active :=
  fun active =>
    quiet (stays.settled unit active (attribution.own unit ours))

section Kept

variable
  {now : Host}
  (ours : Ours unit)
  (belongs : ∀ process ∈ now, Belongs attribution process)
  (stays : Stays attribution unit host now)

include belongs stays

/-- What has the marker was there, and its scope was active if it is. -/
theorem Stays.escaped
    {process : Process}
    (among : process ∈ now)
    (inScope : process.InScope)
    (carries : process.Carries unit) :
    process ∈ host ∧
      (process.unit ∈ now.active → process.unit ∈ host.active) := by
  have launch := (belongs process among).marked unit carries
  exact ⟨stays.kept process among launch, fun active =>
    stays.settled _ active
      (((belongs process among).shared inScope).trans launch)⟩

theorem Covered.later
    {pids : List Nat}
    {found : List String}
    (covered : Covered unit host pids found) :
    Covered unit now pids found := by
  intro process among inScope carries
  obtain ⟨stood, was⟩ := stays.escaped belongs among inScope carries
  exact (covered process stood inScope carries).imp_right
    (Or.imp_right (mt was))

theorem Search.Covers.later
    {stage : Search}
    (covers : stage.Covers unit host) :
    stage.Covers unit now := by
  cases stage with
  | environ pids found => exact Covered.later belongs stays covers
  | cgroup pid pids found => exact Covered.later belongs stays covers
  | ended units => exact Covered.later belongs stays covers
  | mainPid => trivial
  | mainCgroup pid => trivial
  | directory found => trivial

include ours

theorem Rests.later (rests : Rests unit host) : Rests unit now where
  quiet := stays.quiet ours rests.quiet
  escaped process among inScope carries := by
    obtain ⟨stood, was⟩ := stays.escaped belongs among inScope carries
    exact fun active =>
      rests.escaped process stood inScope carries (was active)

theorem Verdict.Right.later
    {verdict : Verdict}
    (right : verdict.Right attribution unit earlier host) :
    verdict.Right attribution unit earlier now := by
  cases verdict with
  | running answer =>
      cases answer with
      | error error => trivial
      | ok running =>
          cases running with
          | true => exact right
          | false => exact Rests.later ours belongs stays right
  | stopped result =>
      cases result with
      | error error => trivial
      | ok _ => exact Rests.later ours belongs stays right

theorem Check.Knows.later
    {check : Check}
    (knows : check.Knows attribution unit earlier host) :
    check.Knows attribution unit earlier now := by
  cases check with
  | unit => trivial
  | search stage =>
      exact ⟨stays.quiet ours knows.1, knows.2.1,
        Search.Covers.later belongs stays knows.2.2⟩
  | scopes units =>
      exact ⟨stays.quiet ours knows.1, knows.2.1,
        Covered.later belongs stays knows.2.2⟩
  | ended answer => exact Verdict.Right.later ours belongs stays knows

theorem Task.Knows.later
    {task : Task}
    (knows : task.Knows attribution unit earlier host) :
    task.Knows attribution unit earlier now := by
  cases task with
  | confirm launch check =>
      exact fun same => (knows same).later ours belongs stays
  | ask launch check =>
      exact fun same => (knows same).later ours belongs stays
  | find launch stage => trivial
  | stop launch primary escaped => trivial

end Kept

/-! ### Over a run -/

variable (attribution earlier unit) in
/-- Since some answers were given, what was answered about a launch is
right. -/
structure Informed (count : Nat) (scene : Scene) : Prop where
  belongs : ∀ process ∈ scene.host, Belongs attribution process
  stays : Stays attribution unit earlier scene.host
  counted : count ≤ scene.verdicts.length
  right : ∀ verdict, (some unit, verdict) ∈ scene.verdicts.drop count →
    verdict.Right attribution unit earlier scene.host

variable
  {count : Nat}
  {scene : Scene}

theorem Informed.answered
    (informed : Informed attribution unit earlier count scene)
    {launch : Option String}
    {verdict : Verdict}
    (right : launch = some unit →
      verdict.Right attribution unit earlier scene.host) :
    Informed attribution unit earlier count
      (scene.answered launch verdict) where
  belongs := informed.belongs
  stays := informed.stays
  counted := by
    unfold Scene.answered
    rw [List.length_append]
    exact informed.counted.trans (Nat.le_add_right _ _)
  right other member := by
    unfold Scene.answered at member
    rw [List.drop_append_of_le_length informed.counted] at member
    rcases List.mem_append.mp member with before | new
    · exact informed.right other before
    · cases List.mem_singleton.mp new
      exact right rfl

theorem Informed.become
    (informed : Informed attribution unit earlier count scene)
    (ours : Ours unit)
    {now : Host}
    (belongs : ∀ process ∈ now, Belongs attribution process)
    (stays : Stays attribution unit scene.host now) :
    Informed attribution unit earlier count { scene with host := now } where
  belongs := belongs
  stays := informed.stays.trans stays
  counted := informed.counted
  right verdict member :=
    (informed.right verdict member).later ours belongs stays

/-- A stop that spares others leaves the launch as it was, or less of it. -/
theorem Stays.after
    {reply : Reply}
    {stops : Stops}
    (spares : Spares attribution scene.host reply stops.asks)
    (truthful : Truthful attribution unit scene.host reply stops.asks) :
    Stays attribution unit scene.host (scene.after reply stops).host := by
  cases stops with
  | confirmed target units =>
      exact ⟨fun process among _ => spares.1 process among, truthful⟩
  | upcoming units => exact .refl attribution unit scene.host
  | ended result => exact .refl attribution unit scene.host

theorem Stays.perform
    {reply : Reply}
    {task : Task}
    (spares : Spares attribution scene.host reply (task.asks reply))
    (truthful :
      Truthful attribution unit scene.host reply (task.asks reply)) :
    Stays attribution unit scene.host
      (Supervision.perform scene task reply).1.host := by
  rcases perform_host scene task reply with
    same | ⟨unit, primary, escaped, stops, _, _, asks, after⟩
  · rw [same]
    exact .refl attribution _ scene.host
  · rw [after]
    exact Stays.after (asks ▸ spares) (asks ▸ truthful)

theorem Informed.after
    (informed : Informed attribution unit earlier count scene)
    (ours : Ours unit)
    {reply : Reply}
    {stops : Stops}
    (spares : Spares attribution scene.host reply stops.asks)
    (truthful : Truthful attribution unit scene.host reply stops.asks) :
    Informed attribution unit earlier count (scene.after reply stops) := by
  have become := informed.become ours
    (fun process member =>
      informed.belongs process (Scene.after_subset spares process member))
    (Stays.after spares truthful)
  cases stops with
  | upcoming units => exact become
  | ended result => exact become
  | confirmed target units => exact become

theorem Informed.knows_next
    (informed : Informed attribution unit earlier count scene)
    (before : ∀ process ∈ earlier, Belongs attribution process)
    (ours : Ours unit)
    {reply : Reply}
    {launch : String}
    {check : Check}
    (spares : Spares attribution scene.host reply (check.asks launch))
    (truthful :
      Truthful attribution unit scene.host reply (check.asks launch))
    (knows : launch = unit →
      check.Knows attribution unit earlier scene.host) :
    launch = unit →
      (check.next scene.host reply launch).Knows attribution unit earlier
        scene.host := by
  rintro rfl
  exact Check.knows_next before informed.belongs informed.stays ours spares
    truthful (knows rfl)

/-- A section answers what is right, and leaves requests with what they
know. -/
theorem Informed.perform
    (informed : Informed attribution unit earlier count scene)
    (before : ∀ process ∈ earlier, Belongs attribution process)
    (ours : Ours unit)
    {reply : Reply}
    {task : Task}
    (spares : Spares attribution scene.host reply (task.asks reply))
    (truthful :
      Truthful attribution unit scene.host reply (task.asks reply))
    (knows : task.Knows attribution unit earlier scene.host) :
    Informed attribution unit earlier count
        (Supervision.perform scene task reply).1 ∧
      ∀ later ∈ (Supervision.perform scene task reply).2,
        later.Knows attribution unit earlier
          (Supervision.perform scene task reply).1.host := by
  cases task with
  | find launch stage =>
      unfold Supervision.perform
      dsimp only
      split
      all_goals exact ⟨informed, List.forall_mem_singleton.mpr trivial⟩
  | stop launch primary escaped =>
      rw [Supervision.perform]
      rcases performStops_cases scene reply launch primary escaped with
        ⟨error, fails⟩ | ends | ⟨first, goes⟩ | ⟨second, goes⟩
      · rw [fails]
        exact ⟨informed.answered fun _ => trivial, List.forall_mem_nil _⟩
      · rw [ends]
        exact ⟨informed,
          List.forall_mem_singleton.mpr fun _ => trivial⟩
      · rw [Task.asks, if_pos first] at spares truthful
        rw [goes]
        exact ⟨informed.after ours spares truthful,
          List.forall_mem_singleton.mpr trivial⟩
      · rw [Task.asks, if_neg (Bool.eq_false_iff.mp second)]
          at spares truthful
        rw [goes]
        exact ⟨informed.after ours spares truthful,
          List.forall_mem_singleton.mpr trivial⟩
  | confirm launch check =>
      have next := informed.knows_next before ours spares truthful knows
      unfold Supervision.perform
      dsimp only
      split
      case h_1 error ends =>
          exact ⟨informed.answered fun _ => trivial, List.forall_mem_nil _⟩
      case h_2 ends =>
          exact ⟨informed.answered fun _ => trivial, List.forall_mem_nil _⟩
      case h_3 ends =>
          rw [ends] at next
          exact ⟨informed.answered fun same => next (Option.some.inj same),
            List.forall_mem_nil _⟩
      case h_4 => exact ⟨informed, List.forall_mem_singleton.mpr next⟩
  | ask launch check =>
      have next := informed.knows_next before ours spares truthful knows
      unfold Supervision.perform
      dsimp only
      split
      case h_1 answer ends =>
          rw [ends] at next
          exact ⟨informed.answered fun same => next (Option.some.inj same),
            List.forall_mem_nil _⟩
      case h_2 => exact ⟨informed, List.forall_mem_singleton.mpr next⟩

/-- In a calm run the answers stay right, and so does what requests know. -/
theorem informed_step
    (before : ∀ process ∈ earlier, Belongs attribution process)
    (ours : Ours unit)
    {pool : Pool Scene Task}
    (informed : pool.Holds (Informed attribution unit earlier count)
      fun scene task => task.Knows attribution unit earlier scene.host)
    {move : Move Call Reply}
    (orderly : Orderly attribution pool move)
    (calm : Calm attribution unit pool move) :
    (supervision.step pool move).Holds
      (Informed attribution unit earlier count)
      fun scene task => task.Knows attribution unit earlier scene.host := by
  cases move with
  | call request =>
      cases request with
      | stopApplication launch =>
          cases launch with
          | none =>
              exact Pool.Holds.call informed
                (informed.shared.answered fun _ => trivial)
                (fun _ _ knows => knows) (List.forall_mem_nil _)
          | some launch =>
              exact Pool.Holds.call informed informed.shared
                (fun _ _ knows => knows)
                (List.forall_mem_singleton.mpr trivial)
      | applicationIsRunning launch =>
          cases launch with
          | none =>
              exact Pool.Holds.call informed
                (informed.shared.answered nofun)
                (fun _ _ knows => knows) (List.forall_mem_nil _)
          | some launch =>
              exact Pool.Holds.call informed informed.shared
                (fun _ _ knows => knows)
                (List.forall_mem_singleton.mpr fun _ => trivial)
      | become now =>
          exact Pool.Holds.call informed
            (informed.shared.become ours orderly calm)
            (fun _ _ knows => knows.later ours orderly calm)
            (List.forall_mem_nil _)
  | advance index reply =>
      cases stands : pool.tasks[index]? with
      | none =>
          rw [supervision.step_idle stands]
          exact informed
      | some task =>
          have spares := orderly task stands
          have truthful := calm task stands
          have performed := informed.shared.perform before ours spares truthful
            (informed.each task (List.mem_of_getElem? stands))
          exact Pool.Holds.advance informed stands performed.1
            (fun _ _ knows => knows.later ours performed.1.belongs
              (Stays.perform spares truthful))
            performed.2

end Answers

/-- When a launch neither starts nor moves a process and none of its units
becomes active from some instant on, what is asked about it from then on is
answered rightly, whatever happens to all others meanwhile: what is told to run
did so at that instant, and what is told not to run, or to be stopped, rests. -/
theorem calm_answers_are_right
    {attribution : Attribution}
    {host : Host}
    (belongs : ∀ process ∈ host, Belongs attribution process)
    {unit : String}
    (ours : Ours unit)
    {before later : List (Move Call Reply)}
    (orderly : (supervised host).Along (Orderly attribution)
      (before ++ later))
    (idle : ∀ task ∈ ((supervised host).run before).tasks, task.unit ≠ unit)
    (calm : ((supervised host).startingIn
      ((supervised host).run before)).Along (Calm attribution unit) later) :
    let reached := ((supervised host).run before).shared
    let ended := ((supervised host).run (before ++ later)).shared
    ∀ verdict,
      (some unit, verdict) ∈ ended.verdicts.drop reached.verdicts.length →
        verdict.Right attribution unit reached.host ended.host := by
  intro reached ended
  have attributed := attributed_run belongs orderly.of_append
  have first : Informed attribution unit reached.host
      reached.verdicts.length reached :=
    { belongs := attributed.shared
      stays := .refl attribution unit reached.host
      counted := Nat.le_refl _
      right := fun verdict member => by
        rw [List.drop_length] at member
        exact absurd member List.not_mem_nil }
  have goesOn := orderly.from_append
  have informed :=
    ((supervised host).startingIn
      ((supervised host).run before)).run_induction_along
      (fun pool move =>
        Orderly attribution pool move ∧ Calm attribution unit pool move)
      (Pool.Holds (Informed attribution unit reached.host
          reached.verdicts.length)
        fun scene task =>
          task.Knows attribution unit reached.host scene.host)
      ⟨first, fun task member => Task.knows_of_ne (idle task member)⟩
      (fun pool move informed both =>
        informed_step attributed.shared ours informed both.1 both.2)
      later
      (fun earlier move rest split =>
        ⟨goesOn earlier move rest split, calm earlier move rest split⟩)
  rw [← Machine.run_append] at informed
  exact informed.shared.right

/-- A check of the game. -/
def checkMoves : List (Move Call Reply) :=
  [.call (.applicationIsRunning launched), .advance 0 gameReply]

theorem orderly_checkMoves :
    (supervised played).Along (Orderly gameAttribution)
      ([] ++ checkMoves) := by
  apply Machine.along_of_alongFrom
  refine ⟨?_, ?_, trivial⟩
  · rintro unit ⟨⟩
    exact ours_launched
  · rintro task ⟨⟩
    trivial

theorem calm_checkMoves :
    (supervised played).Along (Calm gameAttribution launched)
      checkMoves := by
  apply Machine.along_of_alongFrom
  refine ⟨trivial, ?_, trivial⟩
  rintro task ⟨⟩ own answer ⟨⟩
  exact iff_of_true rfl List.mem_cons_self

theorem calm_answers_are_right_game :
    (Verdict.running (.ok true)).Right gameAttribution launched played
      played :=
  calm_answers_are_right belongs_played ours_launched orderly_checkMoves
    (List.forall_mem_nil _) calm_checkMoves (.running (.ok true))
    (List.mem_singleton_self _)

end Supervision
end Bridge
end Hearthdeck
