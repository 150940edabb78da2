import Hearthdeck.Bridge.Processes
import Hearthdeck.Foundation.Pool

/-!
# Checks and stops under way

A check and a stop of a launch ask systemd and read `/proc` one call at a time.
Between any two calls the host may change: processes start, fork, move and
exit, and other requests are served.  The two stops that are made at a time
are cut into each other in any way.

What a call is answered is read from outside.  Environments and control groups
are those of the processes at that time; of processes whose environment cannot
be read nothing is said.  Which units are active is up to systemd: a unit whose
main process is gone is not, though others may be left in it.
-/

namespace Hearthdeck
namespace Bridge
namespace Supervision

open Foundation

/-- The processes of the user, no two of one number, and the units that
systemd calls active. -/
structure Host where
  processes : List Process
  active : List String
  distinct : (processes.map Process.pid).Nodup

instance : Membership Process Host where
  mem host process := process ∈ host.processes

instance (host : Host) (process : Process) : Decidable (process ∈ host) :=
  inferInstanceAs (Decidable (process ∈ host.processes))

/-- The process of a number. -/
def Host.find (host : Host) (pid : Nat) : Option Process :=
  host.processes.find? fun process => process.pid == pid

/-- What a call is answered. -/
structure Reply where
  /-- Whether `systemctl is-active` succeeds. -/
  active : Except String Bool
  /-- What `systemctl show` prints, where it is a number. -/
  mainPid : Option Nat
  /-- The numbers in `/proc`. -/
  pids : Option (List Nat)
  /-- Whether `systemctl stop` succeeds. -/
  stopped : Except String Bool
  /-- The processes a stop leaves. -/
  left : Host
  /-- The stop of the unit itself goes on, not that of the scopes. -/
  primary : Bool

/-- `unit_main_pid`. -/
def unitMainPid (reply : Reply) : Option Nat :=
  reply.mainPid.filter fun pid => pid ≠ 0

/-- `stop_unit`. -/
def stopUnit (reply : Reply) (unit : String) : Except String Unit :=
  match reply.stopped with
  | .error error => .error error
  | .ok true => .ok ()
  | .ok false =>
      .error ("systemd user manager rejected stop of " ++ unit)

/-- `escaped_unit_for_process`. -/
def escapedUnitForProcess
    (host : Host)
    (pid : Nat)
    (unit : String) : Option String :=
  (host.find pid).bind fun process =>
    escapedUnitFromCgroup process.cgroup unit

/-- What a call asks. -/
inductive Question
  | active (unit : String)
  | mainPid (unit : String)
  | pids
  | stop (unit : String)
  | nothing

/-! ## The search -/

/-- Where `find_escaped_units` stands. -/
inductive Search
  | mainPid
  | mainCgroup (pid : Nat)
  | directory (found : List String)
  | environ (pids : List Nat) (found : List String)
  | cgroup (pid : Nat) (pids : List Nat) (found : List String)
  | ended (units : List String)

/-- The entries of a `BTreeSet`. -/
def orderedSet (found : List String) : List String :=
  sortByKey id found.dedup

def Search.asks (unit : String) : Search → Question
  | .mainPid => .mainPid unit
  | .directory _ => .pids
  | _ => .nothing

def Search.next
    (host : Host)
    (reply : Reply)
    (unit : String) : Search → Search
  | .mainPid =>
      match unitMainPid reply with
      | some pid => .mainCgroup pid
      | none => .directory []
  | .mainCgroup pid =>
      .directory (escapedUnitForProcess host pid unit).toList
  | .directory found =>
      match reply.pids with
      | some pids => .environ pids found
      | none => .ended (orderedSet found)
  | .environ [] found => .ended (orderedSet found)
  | .environ (pid :: pids) found =>
      if (host.find pid).any fun process =>
          environmentContainsEntry process.environ (marker unit) then
        .cgroup pid pids found
      else
        .environ pids found
  | .cgroup pid pids found =>
      .environ pids (found ++ (escapedUnitForProcess host pid unit).toList)
  | .ended units => .ended units

/-! ## The check -/

/-- Where `application_is_running` stands. -/
inductive Check
  | unit
  | search (stage : Search)
  | scopes (units : List String)
  | ended (answer : Except String Bool)

def Check.asks (unit : String) : Check → Question
  | .unit => .active unit
  | .search stage => stage.asks unit
  | .scopes (scope :: _) => .active scope
  | _ => .nothing

def Check.next
    (host : Host)
    (reply : Reply)
    (unit : String) : Check → Check
  | .unit =>
      match reply.active with
      | .error error => .ended (.error error)
      | .ok true => .ended (.ok true)
      | .ok false => .search .mainPid
  | .search stage =>
      match stage.next host reply unit with
      | .ended units => .scopes units
      | later => .search later
  | .scopes [] => .ended (.ok false)
  | .scopes (_ :: units) =>
      match reply.active with
      | .error error => .ended (.error error)
      | .ok true => .ended (.ok true)
      | .ok false => .scopes units
  | .ended answer => .ended answer

/-! ## The stops -/

/-- Where a loop stands that stops the units that are active. -/
inductive Stops
  | upcoming (units : List String)
  | confirmed (unit : String) (units : List String)
  | ended (result : Except String Unit)

def Stops.asks : Stops → Question
  | .upcoming (unit :: _) => .active unit
  | .confirmed unit _ => .stop unit
  | _ => .nothing

/-- What a loop does next, with a failed stop told in context. -/
def Stops.next
    (context : String → String → String)
    (reply : Reply) : Stops → Stops
  | .upcoming [] => .ended (.ok ())
  | .upcoming (unit :: units) =>
      match reply.active with
      | .error error => .ended (.error error)
      | .ok true => .confirmed unit units
      | .ok false => .upcoming units
  | .confirmed unit units =>
      match stopUnit reply unit with
      | .error error => .ended (.error (context unit error))
      | .ok () => .upcoming units
  | .ended result => .ended result

/-- `stop_primary`. -/
def Stops.nextPrimary : Reply → Stops → Stops :=
  Stops.next fun _ error => error

/-- `stop_escaped`. -/
def Stops.nextEscaped : Reply → Stops → Stops :=
  Stops.next fun unit _ =>
    "could not stop escaped application unit " ++ unit

/-! ## Requests -/

/-- What a request is answered. -/
inductive Verdict
  | running (answer : Except String Bool)
  | stopped (result : Except String Unit)

/-- A host, and the answers that were given so far. -/
structure Scene where
  host : Host
  verdicts : List (Option String × Verdict)

def Scene.answered
    (scene : Scene)
    (unit : Option String)
    (verdict : Verdict) : Scene :=
  { scene with verdicts := scene.verdicts ++ [(unit, verdict)] }

/-- Where a request stands: `stop_application` searches, stops and confirms,
and `application_is_running` asks. -/
inductive Task
  | find (unit : String) (stage : Search)
  | stop (unit : String) (primary escaped : Stops)
  | confirm (unit : String) (check : Check)
  | ask (unit : String) (check : Check)

def Task.unit : Task → String
  | .find unit _ => unit
  | .stop unit _ _ => unit
  | .confirm unit _ => unit
  | .ask unit _ => unit

def Task.asks (reply : Reply) : Task → Question
  | .find unit stage => stage.asks unit
  | .stop _ primary escaped =>
      if reply.primary then primary.asks else escaped.asks
  | .confirm unit check => check.asks unit
  | .ask unit check => check.asks unit

/-- Requests, and what else happens on the host. -/
inductive Call
  | stopApplication (unit : Option String)
  | applicationIsRunning (unit : Option String)
  | become (host : Host)

def enter (scene : Scene) : Call → Scene × List Task
  | .stopApplication none =>
      (scene.answered none (.stopped (.error
        "application session cannot be stopped on this platform")), [])
  | .stopApplication (some unit) => (scene, [.find unit .mainPid])
  | .applicationIsRunning none =>
      (scene.answered none (.running (.ok false)), [])
  | .applicationIsRunning (some unit) => (scene, [.ask unit .unit])
  | .become host => ({ scene with host := host }, [])

/-- The host after a call of a loop that stops units. -/
def Scene.after (scene : Scene) (reply : Reply) : Stops → Scene
  | .confirmed _ _ => { scene with host := reply.left }
  | _ => scene

/-- The stops that are made at a time, and what is left to do when both have
ended. -/
def performStops
    (scene : Scene)
    (reply : Reply)
    (unit : String) : Stops → Stops → Scene × List Task
  | .ended (.error error), .ended _ =>
      (scene.answered unit (.stopped (.error error)), [])
  | .ended (.ok ()), .ended (.error error) =>
      (scene.answered unit (.stopped (.error error)), [])
  | .ended (.ok ()), .ended (.ok ()) => (scene, [.confirm unit .unit])
  | primary, escaped =>
      if reply.primary then
        (scene.after reply primary,
          [.stop unit (primary.nextPrimary reply) escaped])
      else
        (scene.after reply escaped,
          [.stop unit primary (escaped.nextEscaped reply)])

def perform (scene : Scene) (task : Task) (reply : Reply) :
    Scene × List Task :=
  match task with
  | .find unit stage =>
      match stage.next scene.host reply unit with
      | .ended escaped =>
          (scene, [.stop unit (.upcoming [unit]) (.upcoming escaped)])
      | later => (scene, [.find unit later])
  | .stop unit primary escaped =>
      performStops scene reply unit primary escaped
  | .confirm unit check =>
      match check.next scene.host reply unit with
      | .ended (.error error) =>
          (scene.answered unit (.stopped (.error error)), [])
      | .ended (.ok true) =>
          (scene.answered unit (.stopped (.error
            "application processes are still running after stop")), [])
      | .ended (.ok false) =>
          (scene.answered unit (.stopped (.ok ())), [])
      | later => (scene, [.confirm unit later])
  | .ask unit check =>
      match check.next scene.host reply unit with
      | .ended answer => (scene.answered unit (.running answer), [])
      | later => (scene, [.ask unit later])

/-- The requests of the bridge, with a host that changes meanwhile. -/
def supervision : Program Scene Task Call Reply where
  enter := enter
  perform := perform

end Supervision
end Bridge
end Hearthdeck
