import Hearthdeck.Foundation.Machine
import Hearthdeck.Daemon.Activity

/-!
# Launching, stopping and watching plays

The session service as a system of concurrent tasks over one play journal.
Every launch, every stop and every round of the watcher is a task, and a task
moves by one bridge request, one statement of the journal, or one message it
publishes at a time.  Bridge replies are arbitrary, a request may fail in
transport, and a statement may fail without effect.

A caller may drop a task at any point, and a restart drops all of them and
sweeps the journal before anything else runs; tasks are never taken up again
under the same number.
-/

namespace Hearthdeck
namespace Daemon
namespace SessionService

open Protocol

/-! ## The tasks -/

/-- What a stop is aimed at. -/
inductive StopTarget
  | active
  | session (id : String)
  deriving DecidableEq

/-- Why a launch did not go through. -/
inductive LaunchError
  | transport (error : String)
  | rejected (code : BridgeErrorCode) (message : String)
  | unexpected (response : BridgeResponse)
  deriving DecidableEq

/-- Why a lookup or a stop did not go through. -/
inductive ControlError
  | transport (error : String)
  | rejected (code : BridgeErrorCode) (message : String)
  | unexpectedLookup
  | unexpectedStop
  deriving DecidableEq

/-- What a task returns to its caller. -/
inductive Result
  | launched (result : Except LaunchError ApplicationSession)
  | stopped (result : Except ControlError Unit)
  | reconciled

/-- What a task is asked to do. -/
inductive Work
  | launch (request : BridgeRequest) (entry : ActivityEntry)
  | stop (target : StopTarget)
  | reconcile

/-- Where `finished` stands for one session: before its update, before the
lookup of the source, before the refresh request, before the event. -/
inductive Stage
  | closing
  | lookingUp (itemId : String)
  | refreshing (source : String)
  | announcing
  deriving DecidableEq

/-- Where a task stands.  A task that finishes plays has one in hand and knows
the ones that follow. -/
inductive Task
  | absent
  | launching (request : BridgeRequest) (entry : ActivityEntry)
  | recording (entry : ActivityEntry) (session : ApplicationSession)
  | announcing (session : ApplicationSession)
  | stopping (target : StopTarget)
  | listing
  | querying (running : List String)
  | finishing
      (stage : Stage)
      (sessionId : String)
      (rest : List String)
      (result : Result)
  | returned (result : Result)
  | dropped

/-- The reply to a bridge request, or the text of a transport error. -/
abbrev Reply := Except String BridgeResponse

/-- The bridge request of a stop. -/
def StopTarget.request : StopTarget → BridgeRequest
  | .active => .stopActiveApplicationSession
  | .session id => .stopApplicationSession id

/-- The session an accepted stop has ended. -/
def StopTarget.stopped : StopTarget → String → String
  | .active, sessionId => sessionId
  | .session id, _ => id

/-- What the lookup of the active session makes of the bridge's reply. -/
def active : Reply → Except ControlError (Option ApplicationSession)
  | .error error => .error (.transport error)
  | .ok (.applicationSession session) => .ok session
  | .ok _ => .error .unexpectedLookup

/-- The running plays that the active session does not keep alive. -/
def finishedSessions
    (running : List String)
    (active : Option String) : List String :=
  running.filter fun sessionId => decide (some sessionId ≠ active)

namespace Task

/-- The first point of a task. -/
def start : Work → Task
  | .launch request entry => .launching request entry
  | .stop target => .stopping target
  | .reconcile => .listing

/-- Go on to the next play to finish, or return. -/
def finish (result : Result) : List String → Task
  | [] => .returned result
  | sessionId :: rest => .finishing .closing sessionId rest result

/-- A launch reads the bridge's reply. -/
def launchReplied (entry : ActivityEntry) : Reply → Task
  | .error error => .returned (.launched (.error (.transport error)))
  | .ok (.launchAccepted session) => .recording entry session
  | .ok (.error code message) =>
      .returned (.launched (.error (.rejected code message)))
  | .ok other => .returned (.launched (.error (.unexpected other)))

/-- A stop reads the bridge's reply. -/
def stopReplied (target : StopTarget) : Reply → Task
  | .error error => .returned (.stopped (.error (.transport error)))
  | .ok (.stopAccepted sessionId) =>
      finish (.stopped (.ok ())) [target.stopped sessionId]
  | .ok (.error code message) =>
      .returned (.stopped (.error (.rejected code message)))
  | .ok _ => .returned (.stopped (.error .unexpectedStop))

/-- A round of the watcher reads the bridge's reply. -/
def lookupReplied
    (running : List String)
    (reply : Reply) : Task :=
  match active reply with
  | .error _ => .returned .reconciled
  | .ok session =>
      finish .reconciled
        (finishedSessions running (session.map ApplicationSession.id))

/-- A round of the watcher has its list of running plays. -/
def listed : List String → Task
  | [] => .returned .reconciled
  | running => .querying running

end Task

/-! ## The system -/

/-- What happened, in the words of the journal, the bridge and the events. -/
inductive Event
  | replied (task : Nat) (request : BridgeRequest) (reply : Reply)
  | listed (task : Nat) (running : List String)
  | closed (task : Nat) (sessionId : String)
  | closeFailed (task : Nat) (sessionId : String)
  | swept (sessionIds : List String)
  | refreshRequested (task : Nat) (sessionId source : String)
  | sessionStarted (task : Nat) (session : ApplicationSession)
  | sessionEnded (task : Nat) (sessionId : String)

/-- The journal, the tasks, and what happened so far, oldest first.  The
events `sessionStarted` and `sessionEnded` are `ApplicationSessionChanged`
with a session and without one; the latter is kept with the play it is
published for. -/
structure System where
  store : ActivityStore
  tasks : Nat → Task
  log : List Event

/-- A daemon with a new database. -/
def start : System where
  store := .empty
  tasks := fun _ => .absent
  log := []

/-- One step of one task, or of the daemon itself. -/
inductive Step
  | begin (task : Nat) (work : Work)
  | reply (task : Nat) (reply : Reply)
  | query (task : Nat) (now : Instant) (succeeds : Bool)
  | publish (task : Nat)
  | drop (task : Nat)
  | restart (sweeps : Bool)

namespace System

/-- Move one task and record what happened. -/
def move
    (system : System)
    (task : Nat)
    (next : Task)
    (events : List Event) : System :=
  { system with
    tasks := Function.update system.tasks task next
    log := system.log ++ events }

/-- A task is started under a new number. -/
def begin
    (system : System)
    (task : Nat)
    (work : Work) : System :=
  match system.tasks task with
  | .absent => system.move task (.start work) []
  | _ => system

/-- The bridge replies to a task. -/
def reply
    (system : System)
    (task : Nat)
    (reply : Reply) : System :=
  match system.tasks task with
  | .launching request entry =>
      system.move task (.launchReplied entry reply)
        [.replied task request reply]
  | .stopping target =>
      system.move task (.stopReplied target reply)
        [.replied task target.request reply]
  | .querying running =>
      system.move task (.lookupReplied running reply)
        [.replied task .activeApplicationSession reply]
  | _ => system

/-- The update of `session_ended` for one play. -/
def close
    (elapsed : Instant → Instant → Int)
    (system : System)
    (task : Nat)
    (now : Instant)
    (sessionId : String)
    (rest : List String)
    (result : Result) : System :=
  match system.store.sessionEnded elapsed now sessionId .closed with
  | (store, some itemId) =>
      { system with store := store }.move task
        (.finishing (.lookingUp itemId) sessionId rest result)
        [.closed task sessionId]
  | (store, none) =>
      { system with store := store }.move task (.finish result rest) []

/-- The source lookup of `session_ended` for one play.  Without a discovery
service there is nothing to refresh. -/
def lookUp
    (discovery : Bool)
    (system : System)
    (task : Nat)
    (itemId sessionId : String)
    (rest : List String)
    (result : Result) : System :=
  match system.store.finishedSource itemId with
  | some source =>
      if discovery then
        system.move task (.finishing (.refreshing source) sessionId rest result)
          []
      else
        system.move task (.finishing .announcing sessionId rest result) []
  | none => system.move task (.finish result rest) []

/-- A task's next statement is run by the database, or fails. -/
def query
    (elapsed : Instant → Instant → Int)
    (discovery : Bool)
    (system : System)
    (task : Nat)
    (now : Instant)
    (succeeds : Bool) : System :=
  match system.tasks task with
  | .recording entry session =>
      -- a launch that cannot be recorded is still announced
      if succeeds then
        { system with
          store := system.store.sessionStarted now entry session }.move task
            (.announcing session) []
      else
        system.move task (.announcing session) []
  | .listing =>
      if succeeds then
        system.move task (.listed system.store.runningSessions)
          [.listed task system.store.runningSessions]
      else
        system.move task (.returned .reconciled) []
  | .finishing .closing sessionId rest result =>
      if succeeds then
        system.close elapsed task now sessionId rest result
      else
        -- the error arm of `finished` has no source, and announces the end
        system.move task (.finishing .announcing sessionId rest result)
          [.closeFailed task sessionId]
  | .finishing (.lookingUp itemId) sessionId rest result =>
      if succeeds then
        system.lookUp discovery task itemId sessionId rest result
      else
        system.move task (.finishing .announcing sessionId rest result) []
  | _ => system

/-- A task asks for a refresh or sends its event. -/
def publish
    (system : System)
    (task : Nat) : System :=
  match system.tasks task with
  | .announcing session =>
      system.move task (.returned (.launched (.ok session)))
        [.sessionStarted task session]
  | .finishing (.refreshing source) sessionId rest result =>
      system.move task (.finishing .announcing sessionId rest result)
        [.refreshRequested task sessionId source]
  | .finishing .announcing sessionId rest result =>
      system.move task (.finish result rest) [.sessionEnded task sessionId]
  | _ => system

/-- The caller of a task goes away. -/
def drop
    (system : System)
    (task : Nat) : System :=
  match system.tasks task with
  | .absent => system
  | _ => system.move task .dropped []

/-- The daemon is restarted: every task is gone, and the sweep is run or
fails. -/
def restart
    (system : System)
    (sweeps : Bool) : System where
  store :=
    if sweeps then system.store.sweepRunningSessions else system.store
  tasks := fun task =>
    match system.tasks task with
    | .absent => .absent
    | _ => .dropped
  log :=
    if sweeps then system.log ++ [.swept system.store.runningSessions]
    else system.log

/-- One step of the system. -/
def step
    (elapsed : Instant → Instant → Int)
    (discovery : Bool)
    (system : System) : Step → System
  | .begin task work => system.begin task work
  | .reply task reply => system.reply task reply
  | .query task now succeeds =>
      system.query elapsed discovery task now succeeds
  | .publish task => system.publish task
  | .drop task => system.drop task
  | .restart sweeps => system.restart sweeps

end System

/-- The session service as a machine. -/
def machine
    (elapsed : Instant → Instant → Int)
    (discovery : Bool) :
    Foundation.Machine System Step Empty where
  start := start
  step := fun system step => (system.step elapsed discovery step, [])

end SessionService
end Daemon
end Hearthdeck
