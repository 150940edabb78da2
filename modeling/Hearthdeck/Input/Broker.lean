import Hearthdeck.Foundation.Effect
import Hearthdeck.Input.Devices
import Hearthdeck.Input.Ownership
import Mathlib.Algebra.Group.Nat.Defs

/-!
# The input broker

The broker owns the physical controllers and serves two surfaces.  This module
embeds its methods as programs over the broker's state.  Everything the broker
asks of its surroundings (device calls, client queues, the clock, the order of
hash maps) is answered by an `Outside`, indexed by the number of questions
asked so far, so that a statement about every `Outside` covers every pattern
of failures and full queues.  An error keeps the state it arose in; it ends
the broker unless `open_keyboard` catches it.
-/

namespace Hearthdeck
namespace Input

open Foundation Protocol

/-- An open controller (`broker::Pad`), with the kernel's grab as a flag. -/
structure OpenPad where
  /-- Identifier of the pad. -/
  id : PadId
  /-- Device node. -/
  path : String
  /-- Ranges of its axes. -/
  ranges : Axis → Option AxisRange
  /-- Whether the broker holds the device exclusively. -/
  grabbed : Bool

/-- A registered connection (`broker::Client`). -/
structure Client where
  /-- Identifier of the connection. -/
  id : Nat
  /-- Its first frame. -/
  hello : Hello
  deriving DecidableEq, Repr

/-- An event accepted by a client's queue, with the broker's view of that
moment. -/
structure Queued where
  /-- The receiving client. -/
  client : Client
  /-- The event. -/
  event : Event
  /-- The capture at that moment. -/
  capture : Option Nat
  /-- Whether the keyboard adapter was running. -/
  keyboard : Bool
  /-- Who owned the controllers. -/
  owner : Owner

/-- Everything the broker asks of its surroundings, by the number of questions
asked before. -/
structure Outside where
  /-- Error of a call that may fail; a full or closed client queue counts. -/
  failure : Nat → Option String
  /-- Controllers the kernel lists. -/
  devices : Nat → List Device
  /-- Events of a controller. -/
  fetch : Nat → Fetch
  /-- Whether the keyboard adapter has exited. -/
  exited : Nat → Bool
  /-- Order of hash maps. -/
  order : Nat → HashOrder
  /-- Nanoseconds since the broker started. -/
  clock : Nat → Nat
  /-- The clock never runs backwards. -/
  clock_mono : Monotone clock
  /-- `HEARTHDECK_GAMEPAD_OSK_ADAPTER`. -/
  adapter : Option String

/-- The broker's state (`broker::Broker`). -/
structure Broker where
  /-- Open controllers. -/
  pads : List OpenPad := []
  /-- Registered connections, oldest first. -/
  clients : List Client := []
  /-- Owner, held controls and chords. -/
  state : Ownership := {}
  /-- Compatibility mapper. -/
  mapper : Mapper := {}
  /-- Events written to the virtual device. -/
  output : List OutputEvent := []
  /-- Compatibility settings of the session. -/
  mode : InputMode := {}
  /-- What the bridge last reported. -/
  session : SessionContext := {}
  /-- When the bridge last reported. -/
  sessionAt : Nat := 0
  /-- The focused window. -/
  focused : Option String := none
  /-- The connection that holds capture. -/
  capture : Option Nat := none
  /-- The running keyboard adapter. -/
  keyboard : Option String := none
  /-- Identifier of the next pad. -/
  nextPad : PadId := 1
  /-- When the pointer last moved. -/
  mouseAt : Nat := 0
  /-- Questions asked of the surroundings. -/
  asked : Nat := 0
  /-- Events accepted by client queues, oldest first. -/
  queued : List Queued := []

namespace Broker

/-- A method of the broker. -/
abbrev Method (Value : Type) := EStateM String Broker Value

/-- Ask the surroundings; the result numbers the question. -/
def ask : Method Nat := do
  let broker ← get
  modify fun broker => { broker with asked := broker.asked + 1 }
  pure broker.asked

variable (outside : Outside)

/-- A call whose error ends the method with a text of the broker's own
(`Context::context`). -/
def orFail (context : String) : Method Unit := do
  match outside.failure (← ask) with
  | none => pure ()
  | some _ => throw context

/-- A call whose error ends the method as it is. -/
def orError : Method Unit := do
  match outside.failure (← ask) with
  | none => pure ()
  | some error => throw error

/-- Write events to the virtual device (`linux::emit`). -/
def emit (events : List OutputEvent) : Method Unit := do
  if events ≠ [] then
    orFail outside "could not emit virtual input"
    modify fun broker => { broker with output := broker.output ++ events }

/-- Run a call of the mapper and emit its events. -/
def emitMapped (call : HashOrder → Mapper → Mapper × List OutputEvent) :
    Method Unit := do
  let order := outside.order (← ask)
  let broker ← get
  let result := call order broker.mapper
  modify fun broker => { broker with mapper := result.1 }
  emit outside result.2

/-- Start or stop the compatibility mapper and emit what it releases. -/
def setActive (active : Bool) : Method Unit :=
  emitMapped outside fun order mapper => mapper.setActive order active

/-! ## Grabs -/

section Grabs

variable {Pad : Type}

/-- Release a list of devices; the first error ends the method. -/
def ungrabAll
    (context : String)
    (release : Pad → Pad) : List Pad → Method (List Pad)
  | [] => pure []
  | device :: rest => do
      orFail outside context
      let rest ← ungrabAll context release rest
      pure (release device :: rest)

/-- Grab a list of devices after others that are already grabbed; the first
error releases those again (`broker::grab_all`). -/
def grabAll
    (grab release : Pad → Pad)
    (grabbed : List Pad) : List Pad → Method (List Pad × Option String)
  | [] => pure (grabbed, none)
  | device :: rest => do
      match outside.failure (← ask) with
      | none => grabAll grab release (grabbed ++ [grab device]) rest
      | some error =>
          let released ← ungrabAll outside
            "capture rollback failed; broker must exit to release descriptors"
            release grabbed
          pure (released ++ device :: rest, some error)

end Grabs

/-- End the capture (`Broker::release`). -/
def release : Method Unit := do
  let broker ← get
  modify fun broker => { broker with capture := none }
  if broker.capture.isSome then
    let pads ← ungrabAll outside
      "failed to release capture; exiting to close device descriptors"
      (fun pad : OpenPad => { pad with grabbed := false }) broker.pads
    modify fun broker => { broker with pads := pads }

/-! ## Ownership -/

/-- The session context is fresh and its application is focused
(`Broker::session_has_focus`). -/
def sessionHasFocus : Method Bool := do
  let now := outside.clock (← ask)
  let broker ← get
  pure (decide (now - broker.sessionAt < 5000000000) &&
    broker.session.matchesFocus broker.focused)

/-- Delivery the frontend asked for. -/
def frontendDelivery (broker : Broker) : Option Delivery :=
  (broker.clients.find? fun client => client.hello.role = .frontend).map
    fun client => client.hello.delivery

/-- Who should own the controllers; the decision of `Broker::reconcile`. -/
def decideOwner : Method Owner := do
  let broker ← get
  if broker.keyboard.isSome then
    pure .keyboard
  else if broker.capture.isSome then
    pure .overlay
  else
    match broker.frontendDelivery with
    | some .frontend => pure .frontend
    | some .textEntry => pure .textEntry
    | some .handoff => pure .observe
    | _ =>
        if broker.mode.profile = .desktop then
          if ← sessionHasFocus outside then pure .desktop else pure .observe
        else
          pure .observe

/-- Hand the controllers to whoever should own them (`Broker::reconcile`). -/
def reconcile : Method Unit := do
  let owner ← decideOwner outside
  let broker ← get
  if owner ≠ broker.state.owner then
    setActive outside false
    modify fun broker => { broker with state := broker.state.setOwner owner }
  setActive outside (decide (owner = .desktop))

/-! ## Clients -/

/-- Forget a connection (`Broker::disconnect`). -/
def disconnect (id : Nat) : Method Unit := do
  modify fun broker =>
    { broker with clients := broker.clients.filter fun client => client.id ≠ id }
  let broker ← get
  if broker.capture = some id then
    release outside
  reconcile outside

/-- What the log keeps of an event accepted now. -/
def entry (broker : Broker) (client : Client) (event : Event) : Queued where
  client := client
  event := event
  capture := broker.capture
  keyboard := broker.keyboard.isSome
  owner := broker.state.owner

/-- Queue an event; a client that cannot take it is disconnected
(`Broker::send`). -/
def send (id : Nat) (event : Event) : Method Unit := do
  let broker ← get
  match broker.clients.find? fun client => client.id = id with
  | none => pure ()
  | some client =>
      match outside.failure (← ask) with
      | none =>
          modify fun broker =>
            { broker with queued := broker.queued ++ [broker.entry client event] }
      | some _ => disconnect outside id

/-- End the capture and tell its holder why (`Broker::revoke`). -/
def revoke (reason : String) : Method Unit := do
  let broker ← get
  release outside
  reconcile outside
  match broker.capture with
  | none => pure ()
  | some id => send outside id (.failed reason)

/-- Grab every pad for a new capture. -/
def grabPads : Method (Option String) := do
  let broker ← get
  let (pads, error) ← grabAll outside
    (fun pad : OpenPad => { pad with grabbed := true })
    (fun pad => { pad with grabbed := false }) [] broker.pads
  modify fun broker => { broker with pads := pads }
  pure error

/-- The part of `Broker::connect` for a client that asks for capture.  The
result tells whether the client is to be acknowledged. -/
def requestCapture (id : Nat) : Method Bool := do
  setActive outside false
  modify fun broker => { broker with state := broker.state.suspend }
  let broker ← get
  if broker.keyboard.isSome ∨
      broker.clients.any fun client => client.hello.delivery = .textEntry then
    send outside id (.failed "Dismiss the keyboard before opening the overlay")
    pure false
  else
    match ← grabPads outside with
    | some error =>
        send outside id (.failed ("Controller capture failed: " ++ error))
        reconcile outside
        pure false
    | none =>
        modify fun broker => { broker with capture := some id }
        pure true

/-- Serve what the client asks for; the result tells whether it is to be
acknowledged. -/
def serve (client : Client) : Method Bool :=
  if client.hello.delivery = .overlay then requestCapture outside client.id
  else pure true

/-- Register a connection (`Broker::connect`).  The connections it replaces
are those of its own role. -/
def connect (client : Client) : Method Unit := do
  let broker ← get
  let replaced := broker.clients.filter fun other =>
    other.hello.role = client.hello.role
  forM replaced fun other => disconnect outside other.id
  modify fun broker => { broker with clients := broker.clients ++ [client] }
  if ← serve outside client then
    reconcile outside
    send outside client.id .ready

/-! ## Controllers -/

/-- One button edge, and the signals it returns. -/
def button
    (id : PadId)
    (control : Control)
    (pressed : Bool)
    (now : Nat)
    (keyboardEnabled : Bool) : Method (List Signal) := do
  let broker ← get
  let result := broker.state.button id control pressed now keyboardEnabled
  modify fun broker => { broker with state := result.1 }
  pure result.2

/-- Grab a new device if there is a capture; failing to revokes it. -/
def captureNew : Method Bool := do
  let broker ← get
  if broker.capture.isSome then
    match outside.failure (← ask) with
    | none => pure true
    | some error =>
        revoke outside ("New controller could not be captured: " ++ error)
        pure false
  else
    pure false

/-- Record what a device holds when it is opened; the signals are dropped. -/
def seed (id : PadId) (edges : List (Control × Bool)) : Method Unit :=
  forM edges fun edge => do
    let _ ← button id edge.1 edge.2 0 false

/-- Read the ranges, the keys and the axis positions of a new device, and
record what it holds. -/
def snapshot (id : PadId) (device : Device) : Method Unit := do
  orError outside
  orError outside
  seed id (device.keys.filterMap fun key =>
    (keyControl key).map fun control => (control, true))
  orError outside
  seed id (device.axes.flatMap fun axis =>
    axisControls device.ranges axis.1 axis.2)
  seed id [(.guide, decide (KeyCode.btnMode ∈ device.keys))]

/-- Open one device, the loop body of `Broker::scan`.  Events from before the
snapshot are discarded. -/
def openDevice (device : Device) : Method Unit := do
  let broker ← get
  if broker.pads.any fun pad => pad.path = device.path then
    pure ()
  else
    orError outside
    let grabbed ← captureNew outside
    let broker ← get
    let id := broker.nextPad
    modify fun broker => { broker with nextPad := id + 1 }
    snapshot outside id device
    match outside.fetch (← ask) with
    | .failed error => throw error
    | _ =>
        modify fun broker =>
          { broker with pads := broker.pads ++
              [{ id := id, path := device.path, ranges := device.ranges,
                 grabbed := grabbed }] }

/-- Open the devices that are new (`Broker::scan`). -/
def scan : Method Unit := do
  let broker ← get
  if broker.keyboard.isSome then
    pure ()
  else
    let devices := outside.devices (← ask)
    forM devices fun device => openDevice outside device

/-- The edges of an event, one after the other. -/
def buttons
    (id : PadId)
    (now : Nat)
    (keyboardEnabled : Bool) : List (Control × Bool) → Method (List Signal)
  | [] => pure []
  | edge :: rest => do
      let first ← button id edge.1 edge.2 now keyboardEnabled
      let later ← buttons id now keyboardEnabled rest
      pure (first ++ later)

/-- Let the mapper see an event of a pad that was armed and holds no Guide. -/
def forward
    (armed : Bool)
    (id : PadId)
    (call : Mapper → Mapper × List OutputEvent) : Method Unit := do
  let broker ← get
  if armed ∧ broker.state.guideHeld id = false then
    emitMapped outside fun _ => call

/-- One event of a pad, the inner loop body of `Broker::poll`. -/
def pollEvent
    (pad : OpenPad)
    (now : Nat)
    (keyboardEnabled : Bool)
    (event : InputEvent) : Method (List Signal) := do
  let broker ← get
  let armed := broker.state.armed pad.id
  match event with
  | .key code value =>
      if value ≠ 2 then
        let edges := ((keyControl code).map fun control =>
          (control, decide (value ≠ 0))).toList
        let signals ← buttons pad.id now keyboardEnabled edges
        if code = .btnMode ∧ value = 1 then
          emitMapped outside fun order mapper =>
            mapper.removeDevice order pad.id
        forward outside armed pad.id fun mapper =>
          mapKey mapper pad.id code value
        pure signals
      else
        pure []
  | .absoluteAxis code value =>
      let signals ← buttons pad.id now keyboardEnabled
        (axisControls pad.ranges code value)
      forward outside armed pad.id fun mapper =>
        mapAxis mapper pad.id code value (pad.ranges code)
      pure signals
  | .other => pure []

/-- The events of a pad, one after the other. -/
def pollEvents
    (pad : OpenPad)
    (now : Nat)
    (keyboardEnabled : Bool) : List InputEvent → Method (List Signal)
  | [] => pure []
  | event :: rest => do
      let first ← pollEvent outside pad now keyboardEnabled event
      let later ← pollEvents pad now keyboardEnabled rest
      pure (first ++ later)

/-- The events of every pad, and the pads that are gone; the first loop of
`Broker::poll`. -/
def pollPads
    (now : Nat)
    (keyboardEnabled : Bool) :
    List OpenPad → Method (List Signal × List PadId)
  | [] => pure ([], [])
  | pad :: rest => do
      match outside.fetch (← ask) with
      | .wouldBlock => pollPads now keyboardEnabled rest
      | .failed _ =>
          let later ← pollPads now keyboardEnabled rest
          pure (later.1, pad.id :: later.2)
      | .events events =>
          let first ← pollEvents outside pad now keyboardEnabled events
          let later ← pollPads now keyboardEnabled rest
          pure (first ++ later.1, later.2)

/-- Forget a pad that is gone, the second loop body of `Broker::poll`. -/
def forgetPad (id : PadId) : Method Unit := do
  modify fun broker =>
    { broker with
      pads := broker.pads.filter fun pad => pad.id ≠ id
      state := broker.state.remove id }
  emitMapped outside fun order mapper => mapper.removeDevice order id

/-! ## Delivery -/

/-- Hand the controllers to the keyboard adapter, the closure of
`Broker::open_keyboard`.  The adapter may read the controllers itself, so
their descriptors are closed. -/
def handOver : Method Unit := do
  match outside.adapter with
  | none =>
      throw ("Game keyboard unavailable: set a verified foreground " ++
        "HEARTHDECK_GAMEPAD_OSK_ADAPTER")
  | some program =>
      setActive outside false
      release outside
      modify fun broker =>
        { broker with
          pads := []
          state := broker.pads.foldl
            (fun state pad => state.remove pad.id) broker.state }
      orError outside
      modify fun broker => { broker with keyboard := some program }
      reconcile outside

/-- Open the game keyboard (`Broker::open_keyboard`). -/
def openKeyboard : Method Unit :=
  tryCatch (handOver outside) fun error => do
    let broker ← get
    forM broker.clients fun client => send outside client.id (.failed error)
    reconcile outside

/-- Deliver one signal (`Broker::deliver`). -/
def deliver : Signal → Method Unit
  | .keyboard => openKeyboard outside
  | .action action => do
      let broker ← get
      let role : Role :=
        if action = .toggleOverlay ∨ broker.capture.isSome then .overlay
        else .frontend
      match broker.clients.find? fun client => client.hello.role = role with
      | none => pure ()
      | some client => send outside client.id (.action action)

/-- Deliver signals until one of them changes the owner; the last loop of
`Broker::poll`. -/
def deliverAll : List Signal → Method Unit
  | [] => pure ()
  | signal :: rest => do
      let before ← get
      deliver outside signal
      let after ← get
      if after.state.owner ≠ before.state.owner then pure ()
      else deliverAll rest

/-- Milliseconds since the broker started. -/
def elapsed : Method Nat := do
  let now := outside.clock (← ask)
  if now / 1000000 < 2 ^ 64 then
    pure (now / 1000000)
  else
    throw "out of range integral type conversion attempted"

/-- Whether Guide and West may open the game keyboard. -/
def keyboardEnabled : Method Bool := do
  let broker ← get
  if broker.mode.retroOsk then sessionHasFocus outside else pure false

/-- Compute the signals of one poll: the events of every pad, the pads that
are gone, and the repeats. -/
def gather : Method (List Signal) := do
  let now ← elapsed outside
  let enabled ← keyboardEnabled outside
  let broker ← get
  let polled ← pollPads outside now enabled broker.pads
  forM polled.2 fun id => forgetPad outside id
  let order := outside.order (← ask)
  let broker ← get
  let ticked := broker.state.tick order now
  modify fun broker => { broker with state := ticked.1 }
  pure (polled.1 ++ ticked.2)

/-- Move the pointer when it is due. -/
def movePointer : Method Unit := do
  let now := outside.clock (← ask)
  let broker ← get
  if now - broker.mouseAt ≥ 16000000 then
    let now := outside.clock (← ask)
    modify fun broker => { broker with mouseAt := now }
    emit outside broker.mapper.mouseTick.toList

/-- Read the controllers and deliver what they say (`Broker::poll`).  While
the keyboard adapter runs the broker only waits for it to exit. -/
def poll : Method Unit := do
  reconcile outside
  let broker ← get
  if broker.keyboard.isSome then
    orError outside
    if outside.exited (← ask) then
      modify fun broker => { broker with keyboard := none }
      reconcile outside
      scan outside
  else
    let signals ← gather outside
    deliverAll outside signals
    movePointer outside

/-! ## Runs -/

/-- What makes the broker act, the arms of its event loop. -/
inductive Step
  | connect (client : Client)
  | disconnect (id : Nat)
  | scan
  | poll
  | focus (focused : Option String)
  | session (session : SessionContext)

/-- One turn of the event loop. -/
def perform : Step → Method Unit
  | .connect client => connect outside client
  | .disconnect id => disconnect outside id
  | .scan => scan outside
  | .poll => poll outside
  | .focus focused => do
      modify fun broker => { broker with focused := focused }
      reconcile outside
  | .session session => do
      let now := outside.clock (← ask)
      modify fun broker =>
        { broker with
          mode := session.mode, session := session, sessionAt := now }
      reconcile outside

/-- A connection is registered with a valid first frame and an identifier that
no registered connection has. -/
def Admissible (broker : Broker) : Step → Prop
  | .connect client =>
      client.hello.valid = true ∧
        ∀ other ∈ broker.clients, other.id ≠ client.id
  | _ => True

instance (broker : Broker) : (step : Step) → Decidable (Admissible broker step)
  | .connect client =>
      inferInstanceAs (Decidable (client.hello.valid = true ∧
        ∀ other ∈ broker.clients, other.id ≠ client.id))
  | .disconnect _ => inferInstanceAs (Decidable True)
  | .scan => inferInstanceAs (Decidable True)
  | .poll => inferInstanceAs (Decidable True)
  | .focus _ => inferInstanceAs (Decidable True)
  | .session _ => inferInstanceAs (Decidable True)

/-- States between two turns of the event loop. -/
abbrev Reachable (outside : Outside) : Broker → Prop :=
  Effect.Reachable {} (perform outside) Admissible

end Broker
end Input
end Hearthdeck
