import Mathlib.Data.Finset.Basic
import Hearthdeck.Foundation.Machine

/-!
# The background refresh worker

Requests and timer ticks ask a provider's worker for a refresh through
`enqueue`; the worker task receives the tokens of a channel with room for one
and runs the provider.  The flags that coalesce requests live under a mutex,
the token lives in the channel, and a request sends its token while it holds
the lock.

The parties are interleaved at their await points.  A step of the model is
what one party does between two of them, and a step a party cannot make yet
leaves the system alone.  A call that has its answer goes on holding the lock
until a step of its own, so that the worker may take the token before the
call has returned.  `run` is the provider's future: the closure that builds it
only clones handles, so that every panic is one of the guarded future.
-/

namespace Hearthdeck
namespace Daemon

/-! ## Provider health -/

/-- What a provider's refresh provides. -/
inductive ProviderKind
  | discovery
  | metadata
  deriving DecidableEq

/-- How a provider is doing. -/
inductive ProviderStatus
  | starting
  | refreshing
  | ready
  | degraded
  deriving DecidableEq

/-- The health record of one provider. -/
structure ProviderHealth where
  id : String
  kind : ProviderKind
  status : ProviderStatus
  recordCount : Option Nat
  lastAttemptAt : Option String
  lastSuccessAt : Option String
  lastError : Option String
  deriving DecidableEq

/-- The health record a provider is registered with. -/
def startingProviderHealth
    (id : String)
    (kind : ProviderKind) : ProviderHealth where
  id := id
  kind := kind
  status := .starting
  recordCount := none
  lastAttemptAt := none
  lastSuccessAt := none
  lastError := none

/-- Record the start of a refresh. -/
def recordProviderStarted
    (now : String)
    (health : ProviderHealth) : ProviderHealth :=
  { health with
    status := .refreshing
    lastAttemptAt := some now
    lastError := none }

/-- Record a refresh that went through. -/
def recordProviderSuccess
    (now : String)
    (recordCount : Nat)
    (health : ProviderHealth) : ProviderHealth :=
  { health with
    status := .ready
    recordCount := some recordCount
    lastAttemptAt := some now
    lastSuccessAt := some now
    lastError := none }

/-- Record a refresh that failed. -/
def recordProviderFailure
    (now error : String)
    (health : ProviderHealth) : ProviderHealth :=
  { health with
    status := .degraded
    lastAttemptAt := some now
    lastError := some error }

namespace ProviderWorker

/-! ## The parties -/

/-- The outcome of asking a worker to refresh. -/
inductive RefreshRequest
  | queued
  | alreadyScheduled
  | unknownProvider
  deriving DecidableEq

/-- The flags under the worker's mutex. -/
@[ext] structure RefreshState where
  running : Bool
  queued : Bool
  deriving DecidableEq

/-- What a panic carries, as far as `panicMessage` can tell it apart. -/
inductive Payload
  | str (text : String)
  | string (text : String)
  | boxed (payload : Payload)
  | other
  deriving DecidableEq

/-- The text of a panic whose payload is one of the two string types. -/
def panicMessage : Payload → String
  | .str text => text
  | .string text => text
  | .boxed _ => "unknown panic payload"
  | .other => "unknown panic payload"

/-- How the provider's future ended. -/
inductive RunOutcome
  | ok (recordCount : Nat)
  | err (error : String)
  | panicked (payload : Payload)
  deriving DecidableEq

/-- Where an `enqueue` call stands. -/
inductive CallPhase
  | absent
  | waiting
  | sending
  | answering (answer : RefreshRequest)
  | returned (answer : RefreshRequest)
  | dropped
  deriving DecidableEq

/-- Where the worker's loop stands. -/
inductive WorkerPhase
  | receiving
  | acknowledging
  | starting
  | running
  | recording (outcome : RunOutcome)
  | settling
  | ended
  deriving DecidableEq

/-- One worker with its channel, its mutex and the calls made to it.  The last
three fields only record what happened: the answers given, and the runs begun
and ended. -/
structure System where
  tokens : Nat
  abandoned : Bool
  state : RefreshState
  holder : Option Nat
  phase : WorkerPhase
  health : ProviderHealth
  calls : Nat → CallPhase
  inFlight : Finset Nat
  answers : List (Nat × RefreshRequest)
  started : Nat
  finished : Nat

/-- A worker that was just spawned. -/
def spawn
    (id : String)
    (kind : ProviderKind) : System where
  tokens := 0
  abandoned := false
  state := { running := false, queued := false }
  holder := none
  phase := .receiving
  health := startingProviderHealth id kind
  calls := fun _ => .absent
  inFlight := ∅
  answers := []
  started := 0
  finished := 0

/-- Number of tokens the channel holds before a send has to wait. -/
def capacity : Nat := 1

/-- One step of one party. -/
inductive Step
  | call (id : Nat)
  | acquire (id : Nat)
  | resume (id : Nat)
  | release (id : Nat)
  | cancel (id : Nat)
  | abandon
  | receive
  | acknowledge
  | start (now : String)
  | complete (outcome : RunOutcome)
  | record (now : String)
  | settle
  deriving DecidableEq

namespace System

/-- Move one call to another phase. -/
def moveCall
    (system : System)
    (id : Nat)
    (phase : CallPhase) : System :=
  { system with calls := Function.update system.calls id phase }

/-- Fix the answer of a call. -/
def answer
    (system : System)
    (id : Nat)
    (answer : RefreshRequest) : System :=
  { system.moveCall id (.answering answer) with
    answers := system.answers ++ [(id, answer)] }

/-- A request or a timer tick calls `enqueue` and waits for the lock.  The
caller borrows its sender, so there is one left. -/
def call
    (system : System)
    (id : Nat) : System :=
  if system.abandoned = false ∧ system.calls id = .absent then
    { system.moveCall id .waiting with inFlight := insert id system.inFlight }
  else
    system

/-- The send of a call that holds the lock: it fails when the receiver is
gone, goes through when the channel has room, and otherwise waits. -/
def send
    (system : System)
    (id : Nat) : System :=
  if system.phase = .ended then
    { system with state := { system.state with queued := false } }.answer id
      .unknownProvider
  else if system.tokens < capacity then
    { system with tokens := system.tokens + 1 }.answer id .queued
  else
    system.moveCall id .sending

/-- The body of `enqueue`, once the lock is granted. -/
def enqueue
    (system : System)
    (id : Nat) : System :=
  if system.state.running || system.state.queued then
    system.answer id .alreadyScheduled
  else
    { system with state := { system.state with queued := true } }.send id

/-- A waiting call is granted the lock and runs until its answer is fixed or
its send has to wait. -/
def acquire
    (system : System)
    (id : Nat) : System :=
  if system.holder = none ∧ system.calls id = .waiting then
    { system with holder := some id }.enqueue id
  else
    system

/-- A call whose send waits is polled again. -/
def resume
    (system : System)
    (id : Nat) : System :=
  if system.calls id = .sending then system.send id else system

/-- A call with an answer drops its guard and returns. -/
def release
    (system : System)
    (id : Nat) : System :=
  match system.calls id with
  | .answering answer =>
      { system.moveCall id (.returned answer) with
        holder := none
        inFlight := system.inFlight.erase id }
  | _ => system

/-- The caller drops a call at one of its two await points. -/
def cancel
    (system : System)
    (id : Nat) : System :=
  match system.calls id with
  | .waiting =>
      { system.moveCall id .dropped with
        inFlight := system.inFlight.erase id }
  | .sending =>
      { system.moveCall id .dropped with
        holder := none
        inFlight := system.inFlight.erase id }
  | _ => system

/-- The last sender is dropped, which no call borrows any more. -/
def abandon (system : System) : System :=
  if system.inFlight = ∅ then { system with abandoned := true } else system

/-- The worker's `recv`: a token, or the end of the loop once the channel is
empty and no sender is left. -/
def receive (system : System) : System :=
  if system.phase = .receiving then
    if 0 < system.tokens then
      { system with tokens := system.tokens - 1, phase := .acknowledging }
    else if system.abandoned then
      { system with phase := .ended }
    else
      system
  else
    system

/-- The worker takes the lock and turns the queued refresh into a running
one. -/
def acknowledge (system : System) : System :=
  if system.phase = .acknowledging ∧ system.holder = none then
    { system with
      state := { running := true, queued := false }
      phase := .starting
      started := system.started + 1 }
  else
    system

/-- The worker records the start of the run and begins it. -/
def start
    (system : System)
    (now : String) : System :=
  if system.phase = .starting then
    { system with
      health := recordProviderStarted now system.health
      phase := .running }
  else
    system

/-- The run ends, in one of three ways. -/
def complete
    (system : System)
    (outcome : RunOutcome) : System :=
  if system.phase = .running then
    { system with
      phase := .recording outcome
      finished := system.finished + 1 }
  else
    system

/-- What the outcome of a run leaves in the health record. -/
def recordOutcome
    (now : String) : RunOutcome → ProviderHealth → ProviderHealth
  | .ok recordCount, health => recordProviderSuccess now recordCount health
  | .err error, health => recordProviderFailure now error health
  | .panicked payload, health =>
      -- `&panic` refers to the box around the payload, and that box is itself
      -- an `Any + Send`: it is what `panic_message` gets to downcast
      recordProviderFailure now (panicMessage (.boxed payload)) health

/-- The worker records the outcome. -/
def record
    (system : System)
    (now : String) : System :=
  match system.phase with
  | .recording outcome =>
      { system with
        health := recordOutcome now outcome system.health
        phase := .settling }
  | _ => system

/-- The worker takes the lock, clears `running` and goes back to `recv`. -/
def settle (system : System) : System :=
  if system.phase = .settling ∧ system.holder = none then
    { system with
      state := { system.state with running := false }
      phase := .receiving }
  else
    system

/-- One step of the system. -/
def step (system : System) : Step → System
  | .call id => system.call id
  | .acquire id => system.acquire id
  | .resume id => system.resume id
  | .release id => system.release id
  | .cancel id => system.cancel id
  | .abandon => system.abandon
  | .receive => system.receive
  | .acknowledge => system.acknowledge
  | .start now => system.start now
  | .complete outcome => system.complete outcome
  | .record now => system.record now
  | .settle => system.settle

end System

/-- The worker and the calls made to it as a machine. -/
def machine
    (id : String)
    (kind : ProviderKind) :
    Foundation.Machine System Step Empty where
  start := spawn id kind
  step := fun system step => (system.step step, [])

end ProviderWorker
end Daemon
end Hearthdeck
