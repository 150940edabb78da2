import Hearthdeck.Foundation.Machine
import Hearthdeck.Foundation.Effect
import Hearthdeck.Foundation.Table
import Hearthdeck.Protocol.Bridge
import Mathlib.Data.Finset.Basic
import Mathlib.Data.String.Basic

/-!
# Managed sessions

The bridge starts one application at a time as a systemd unit and keeps a
record of it in three places that have to agree: the map in memory, a file in
the session directory, and the unit itself.  Requests about sessions hold one
lock from their first look at the map to their response, so they are served
one after the other; what can happen between two of their steps is that an
application exits by itself.

Every step that leaves the bridge (asking systemd, starting and stopping a
unit, telling the input service, writing a record) takes the next answer of
the outside world from a tape: which units have exited meanwhile, and whether
the step fails.  A check that does not fail is accurate, a stop that does not
fail leaves the unit gone, and a failed write of a record may leave the old
file, a broken one or the new one.  Files are otherwise read and removed
without failure, and file times increase.
-/

namespace Hearthdeck
namespace Bridge

open Foundation Protocol

/-- The source of desktop applications, and of the Stremio titles that run as
one. -/
def desktopAppsSource : String := "desktop-apps"

/-- The source of Heroic games. -/
def heroicSource : String := "heroic"

/-- The source of RetroArch games. -/
def retroarchSource : String := "retroarch"

/-- The one session every Heroic game runs under. -/
def heroicSessionId : String := "heroic"

/-- The one unit Heroic runs under. -/
def heroicUnitName : String := "hearthdeck-heroic.service"

/-- The unit of every other launch. -/
def applicationUnitName (sessionId : String) : String :=
  "hearthdeck-app-" ++ sessionId ++ ".service"

/-- `running_session`. -/
def runningSession
    (sourceId applicationId id : String) : ApplicationSession where
  id := id
  sourceId := sourceId
  applicationId := applicationId
  state := .running

/-- The session a launch request is answered with when it is accepted.  Heroic
is one shared resource, so the session id of the request is ignored there. -/
def launchedSession : BridgeRequest → Option ApplicationSession
  | .launchApplication sourceId applicationId sessionId _ =>
      some (runningSession sourceId applicationId sessionId)
  | .launchStremioTitle applicationId _ _ sessionId _ =>
      some (runningSession desktopAppsSource applicationId sessionId)
  | .launchHeroicGame _ applicationId _ _ =>
      some (runningSession heroicSource applicationId heroicSessionId)
  | .launchRetroGame _ romPath sessionId _ =>
      some (runningSession retroarchSource romPath sessionId)
  | _ => none

/-- Whether a request launches a Heroic game. -/
def isHeroicLaunch : BridgeRequest → Bool
  | .launchHeroicGame .. => true
  | _ => false

/-- The input profile a launch request asks for. -/
def requestedProfile : BridgeRequest → InputProfile
  | .launchApplication _ _ _ inputProfile => inputProfile
  | .launchStremioTitle _ _ _ _ inputProfile => inputProfile
  | .launchHeroicGame _ _ _ inputProfile => inputProfile
  | .launchRetroGame _ _ _ inputProfile => inputProfile
  | _ => .native

/-- `valid_session_id`. -/
def validSessionId (sessionId : String) : Bool :=
  !sessionId.isEmpty && decide (sessionId.utf8ByteSize ≤ 128) &&
    sessionId.toList.all fun character =>
      character.isAlphanum || character == '-'

/-- `valid_heroic_application_id`. -/
def validHeroicApplicationId (value : String) : Bool :=
  !value.isEmpty && decide (value.utf8ByteSize ≤ 256) &&
    value.toList.all fun character =>
      character.isAlphanum || character == '.' || character == '_' ||
        character == '-'

/-! ## The three stores -/

/-- What the bridge keeps of a session it started. -/
structure ManagedSession where
  session : ApplicationSession
  unitName : Option String
  inputProfile : InputProfile
  deriving DecidableEq, Repr

/-- A file of the session directory: a record that can be read back, or one
that cannot, and when it was written. -/
structure SessionFile where
  content : Option ManagedSession
  modifiedAt : Nat
  deriving DecidableEq, Repr

/-- The map in memory, the session directory, the units that run, and the time
of the last write. -/
structure System where
  sessions : Table String ManagedSession
  directory : Table String SessionFile
  running : Finset String
  clock : Nat

/-- What a failed write leaves in the session directory. -/
inductive Leftover
  | oldFile
  | brokenFile
  | newFile
  deriving DecidableEq, Repr

/-- An answer of the outside world: the units that have exited by themselves,
whether the step fails and with which text, whether a unit whose stop failed
is gone all the same, and what a failed write leaves. -/
structure Answer where
  exited : List String
  failure : Option String
  gone : Bool
  leftover : Leftover
  deriving DecidableEq, Repr

/-- Nothing exits and the step succeeds. -/
def Answer.success : Answer where
  exited := []
  failure := none
  gone := false
  leftover := .oldFile

/-- What a request did to units and records, in order. -/
inductive Event
  /-- A unit was asked to stop. -/
  | stop (unit : String) (succeeded : Bool)
  /-- A unit was started, with no other one running or beside one. -/
  | start (unit : String) (alone : Bool)
  /-- A record was written. -/
  | save (sessionId : String) (succeeded : Bool)
  /-- A record was dropped, with its unit running or not. -/
  | drop (sessionId : String) (running : Bool)
  deriving DecidableEq, Repr

/-- The system while a request is served: the answers that lie ahead and the
events so far. -/
structure World where
  system : System
  tape : List Answer
  log : List Event

/-- A step of a request, which may end in an error text. -/
abbrev BridgeM := EStateM String World

/-- The system after a record file was written. -/
def System.writeRecord
    (sessionId : String)
    (content : Option ManagedSession)
    (system : System) : System :=
  { system with
    directory := system.directory.insert sessionId
      { content := content
        modifiedAt := system.clock + 1 }
    clock := system.clock + 1 }

namespace BridgeM

/-! ## Steps that leave the bridge -/

/-- The next answer, after the exits it reports. -/
def await : BridgeM Answer := fun world =>
  let answer := world.tape.headD .success
  .ok answer
    { world with
      system :=
        { world.system with
          running := world.system.running.filter fun unit =>
            unit ∉ answer.exited }
      tape := world.tape.tail }

/-- Change the system. -/
def update (change : System → System) : BridgeM PUnit :=
  modify fun world => { world with system := change world.system }

/-- Note an event. -/
def note (event : World → Event) : BridgeM PUnit :=
  modify fun world => { world with log := world.log ++ [event world] }

/-- `application_is_running`: a session without a unit runs nothing. -/
def applicationIsRunning : Option String → BridgeM Bool
  | none => pure false
  | some unit => do
      let answer ← await
      match answer.failure with
      | some message => throw message
      | none => do
          let world ← get
          pure (decide (unit ∈ world.system.running))

/-- `stop_application`. -/
def stopApplication : Option String → BridgeM PUnit
  | none => throw "application session cannot be stopped on this platform"
  | some unit => do
      let answer ← await
      match answer.failure with
      | none => do
          update fun system =>
            { system with running := system.running.erase unit }
          note fun _ => .stop unit true
      | some message => do
          if answer.gone then
            update fun system =>
              { system with running := system.running.erase unit }
          note fun _ => .stop unit false
          throw message

/-- `launch_with_systemd`, with everything a launch checks and prepares before
it: the unit is started or the launch fails. -/
def startUnit (unit : String) : BridgeM String := do
  let answer ← await
  match answer.failure with
  | some message => throw message
  | none => do
      note fun world =>
        .start unit (decide (world.system.running.erase unit = ∅))
      update fun system =>
        { system with running := insert unit system.running }
      pure unit

/-- `set_session_input_profile`. -/
def setInputProfile : BridgeM PUnit := do
  let answer ← await
  match answer.failure with
  | some message => throw message
  | none => pure ⟨⟩

/-- `save_managed_session`. -/
def saveManagedSession (managed : ManagedSession) : BridgeM PUnit := do
  let answer ← await
  match answer.failure with
  | none => do
      update (System.writeRecord managed.session.id (some managed))
      note fun _ => .save managed.session.id true
  | some message => do
      match answer.leftover with
      | .oldFile => pure ⟨⟩
      | .brokenFile => update (System.writeRecord managed.session.id none)
      | .newFile =>
          update (System.writeRecord managed.session.id (some managed))
      note fun _ => .save managed.session.id false
      throw message

/-- Drop a session from the map and its record from the directory. -/
def dropSession
    (sessionId : String)
    (managed : ManagedSession) : BridgeM PUnit := do
  update fun system =>
    { system with
      sessions := system.sessions.erase sessionId
      directory := system.directory.erase sessionId }
  note fun world =>
    .drop sessionId (managed.unitName.any fun unit =>
      decide (unit ∈ world.system.running))

/-! ## The active session -/

/-- A session that may be running, with the time of its record. -/
structure Candidate where
  sessionId : String
  managed : ManagedSession
  modifiedAt : Nat

/-- `managed_session_modified_at`. -/
def modifiedAt
    (system : System)
    (sessionId : String) : Nat :=
  match system.directory.lookup sessionId with
  | some file => file.modifiedAt
  | none => 0

/-- Look at the sessions one by one: those that are gone are dropped, those
that run or cannot be asked are kept. -/
def examine :
    List (Sigma fun _ : String => ManagedSession) →
    BridgeM (List Candidate)
  | [] => pure []
  | ⟨sessionId, managed⟩ :: rest => do
      let keep ← tryCatch (applicationIsRunning managed.unitName)
        fun _ => pure true
      if keep then do
        let world ← get
        let candidate : Candidate :=
          { sessionId := sessionId
            managed := managed
            modifiedAt := modifiedAt world.system sessionId }
        let others ← examine rest
        pure (candidate :: others)
      else do
        dropSession sessionId managed
        examine rest

/-- The order of candidates: by the time of the record, then by session id. -/
def Candidate.precedes (left right : Candidate) : Bool :=
  decide (left.modifiedAt < right.modifiedAt) ||
    (left.modifiedAt == right.modifiedAt &&
      decide (left.sessionId ≤ right.sessionId))

/-- `select_active_session`. -/
def selectActiveSession : List Candidate → Option Candidate
  | [] => none
  | candidate :: rest =>
      some (rest.foldl
        (fun best next => if best.precedes next then next else best)
        candidate)

/-- `active_managed_session`. -/
def activeManagedSession :
    BridgeM (Option (String × ManagedSession)) := do
  let world ← get
  let running ← examine world.system.sessions.entries
  pure ((selectActiveSession running).map fun candidate =>
    (candidate.sessionId, candidate.managed))

/-! ## Requests -/

/-- `should_replace_active_session`. -/
def shouldReplaceActiveSession
    (newSourceId activeSourceId : String) : Bool :=
  !(newSourceId == heroicSource && activeSourceId == heroicSource)

/-- `stop_other_active_sessions`. -/
def stopOtherActiveSessions (newSourceId : String) : BridgeM PUnit := do
  match ← activeManagedSession with
  | none => pure ⟨⟩
  | some (sessionId, managed) =>
      if shouldReplaceActiveSession newSourceId
          managed.session.sourceId then do
        tryCatch (stopApplication managed.unitName) fun _ =>
          throw ("could not stop previous application session " ++
            "before launching a new one")
        setInputProfile
        dropSession sessionId managed
      else
        pure ⟨⟩

/-- `launch_heroic_game`: a running Heroic is handed the game, otherwise
Heroic is started. -/
def launchHeroicGame (applicationId : String) : BridgeM String :=
  if validHeroicApplicationId applicationId then do
    if ← applicationIsRunning (some heroicUnitName) then do
      let answer ← await
      match answer.failure with
      | some message => throw message
      | none => pure heroicUnitName
    else
      startUnit heroicUnitName
  else
    throw "Heroic application identifier is invalid"

/-- What a launch request starts: the unit it ran under. -/
def launch : BridgeRequest → BridgeM String
  | .launchApplication sourceId _ sessionId _ =>
      if sourceId = desktopAppsSource then
        startUnit (applicationUnitName sessionId)
      else
        throw "unsupported application source"
  | .launchStremioTitle _ _ _ sessionId _ =>
      startUnit (applicationUnitName sessionId)
  | .launchHeroicGame _ applicationId _ _ => launchHeroicGame applicationId
  | .launchRetroGame _ _ sessionId _ =>
      startUnit (applicationUnitName sessionId)
  | _ => throw "not a launch"

/-- `sync_input_profile`. -/
def syncInputProfile : BridgeM PUnit := do
  let _ ← activeManagedSession
  tryCatch setInputProfile fun _ => pure ⟨⟩

/-- The launch proper: a failed one restores the input profile of whatever is
active. -/
def launchOrSync (request : BridgeRequest) : BridgeM String :=
  tryCatch (launch request) fun message => do
    syncInputProfile
    throw message

/-- Persist the record of a launch, or undo the launch. -/
def persistOrUndo (managed : ManagedSession) : BridgeM PUnit :=
  tryCatch (saveManagedSession managed) fun _ => do
    tryCatch (stopApplication managed.unitName) fun _ => pure ⟨⟩
    tryCatch setInputProfile fun _ => pure ⟨⟩
    throw "could not persist managed application session"

/-- The part of `launch_session` under the lock. -/
def launchLocked
    (request : BridgeRequest)
    (session : ApplicationSession) : BridgeM PUnit := do
  stopOtherActiveSessions session.sourceId
  setInputProfile
  let unit ← launchOrSync request
  let managed : ManagedSession :=
    { session := session
      unitName := some unit
      inputProfile := requestedProfile request }
  persistOrUndo managed
  update fun system =>
    { system with
      sessions := system.sessions.insert session.id managed }

/-- `launch_session`. -/
def launchSession
    (request : BridgeRequest)
    (session : ApplicationSession) : BridgeM BridgeResponse :=
  if validSessionId session.id then
    tryCatch
      (do
        launchLocked request session
        pure (.launchAccepted session))
      fun message => pure (.error .launchFailed message)
  else
    pure (.error .invalidRequest
      "application session has an invalid identifier")

/-- `stop_managed_session`. -/
def stopManagedSession
    (sessionId : String)
    (managed : ManagedSession) : BridgeM BridgeResponse :=
  tryCatch
    (do
      stopApplication managed.unitName
      dropSession sessionId managed
      tryCatch setInputProfile fun _ => pure ⟨⟩
      pure (.stopAccepted sessionId))
    fun message => pure (.error .launchFailed message)

/-- The session requests of `handle_request`.  The others do not touch
sessions and are not answered here. -/
def handleRequest : BridgeRequest → BridgeM BridgeResponse
  | .activeApplicationSession => do
      let active ← activeManagedSession
      tryCatch setInputProfile fun _ => pure ⟨⟩
      pure (.applicationSession
        (active.map fun found => found.2.session))
  | .stopApplicationSession sessionId => do
      let world ← get
      match world.system.sessions.lookup sessionId with
      | none =>
          pure (.error .notFound "application session is not running")
      | some managed => stopManagedSession managed.session.id managed
  | .stopActiveApplicationSession => do
      match ← activeManagedSession with
      | none => pure (.error .notFound "no application session is active")
      | some (_, managed) => stopManagedSession managed.session.id managed
  | request =>
      match launchedSession request with
      | some session => launchSession request session
      | none => throw "not a session request"

end BridgeM

/-! ## Runs -/

/-- Put the record of a file into the map, if it can be read and is valid. -/
def loadFile
    (sessions : Table String ManagedSession)
    (file : Sigma fun _ : String => SessionFile) :
    Table String ManagedSession :=
  match file.2.content with
  | some managed =>
      if validSessionId managed.session.id then
        sessions.insert managed.session.id managed
      else
        sessions
  | none => sessions

/-- `load_managed_sessions`: the map a new bridge process starts with. -/
def loadManagedSessions
    (directory : Table String SessionFile) : Table String ManagedSession :=
  directory.entries.foldl loadFile ∅

/-- What happens to the bridge: a session request with the answers it gets, a
new bridge process, or applications exiting by themselves. -/
inductive Step
  | request (request : BridgeRequest) (tape : List Answer)
  | restart
  | exit (units : List String)

/-- The world after a request, and its response. -/
def serve
    (system : System)
    (request : BridgeRequest)
    (tape : List Answer) : EStateM.Result String World BridgeResponse :=
  (BridgeM.handleRequest request).run ⟨system, tape, []⟩

/-- The world a result leaves. -/
def worldOf
    (result : EStateM.Result String World BridgeResponse) : World :=
  match result with
  | .ok _ world => world
  | .error _ world => world

/-- One step of the system. -/
def System.step
    (system : System) : Step → System
  | .request request tape => (worldOf (serve system request tape)).system
  | .restart =>
      { system with sessions := loadManagedSessions system.directory }
  | .exit units =>
      { system with
        running := system.running.filter fun unit => unit ∉ units }

/-- The bridge from an empty session directory on. -/
def bridge : Machine System Step Unit where
  start :=
    { sessions := ∅
      directory := ∅
      running := ∅
      clock := 0 }
  step := fun system step => (system.step step, [])

end Bridge
end Hearthdeck
