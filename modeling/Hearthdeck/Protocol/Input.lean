/-!
# The controller-delivery protocol

Data exchanged between the input broker and its two surfaces: semantic
actions, the role and delivery a connection asks for, and the events the
broker queues.  The session context is what the bridge reports about the
application that runs.
-/

namespace Hearthdeck
namespace Protocol

/-- A semantic navigation action (`input::Action`). -/
inductive Action
  | moveUp
  | moveDown
  | moveLeft
  | moveRight
  | confirm
  | back
  | search
  | contextMenu
  | prevGroup
  | nextGroup
  | prevTab
  | nextTab
  | filterPanel
  | keyboard
  | toggleOverlay
  deriving DecidableEq, Repr

/-- The two surfaces that may connect (`input::Role`). -/
inductive Role
  | frontend
  | overlay
  deriving DecidableEq, Repr

/-- What a connection asks to be delivered (`input::Delivery`). -/
inductive Delivery
  | observe
  | handoff
  | frontend
  | textEntry
  | overlay
  deriving DecidableEq, Repr

/-- Protocol version understood by the broker (`input::VERSION`). -/
def version : Nat := 1

/-- Capacity of a client's event queue and of the connection queue
(`input::QUEUE`). -/
def queue : Nat := 32

/-- The first frame of a connection (`input::Hello`). -/
structure Hello where
  /-- Version the client speaks. -/
  version : Nat
  /-- Surface that connects. -/
  role : Role
  /-- Delivery it asks for. -/
  delivery : Delivery
  deriving DecidableEq, Repr

/-- A role may only ask for its own deliveries (`Hello::valid`). -/
def Hello.valid (hello : Hello) : Bool :=
  hello.version == Protocol.version &&
    match hello.role, hello.delivery with
    | .frontend, .observe => true
    | .frontend, .handoff => true
    | .frontend, .frontend => true
    | .frontend, .textEntry => true
    | .overlay, .observe => true
    | .overlay, .overlay => true
    | _, _ => false

/-- Only the overlay may ask for capture. -/
theorem Hello.role_of_overlay_delivery
    {hello : Hello}
    (valid : hello.valid = true)
    (asks : hello.delivery = .overlay) :
    hello.role = .overlay := by
  obtain ⟨version, role, delivery⟩ := hello
  cases role <;> cases delivery <;> simp_all [Hello.valid]

/-- What the broker queues for a client (`input::Event`). -/
inductive Event
  | ready
  | action (action : Action)
  | failed (reason : String)
  deriving DecidableEq, Repr

/-- How an application takes the controller (`InputProfile`). -/
inductive InputProfile
  | native
  | desktop
  deriving DecidableEq, Repr

/-- Compatibility settings of a session (`InputMode`). -/
structure InputMode where
  /-- Whether the compatibility mapper serves the application. -/
  profile : InputProfile := .native
  /-- Whether the in-game keyboard is enabled. -/
  retroOsk : Bool := false
  deriving DecidableEq, Repr

/-- What the bridge reports about the running application
(`input::SessionContext`). -/
structure SessionContext where
  /-- Compatibility settings of the application. -/
  mode : InputMode := {}
  /-- Window identifiers the application is known by. -/
  appIds : List String := []
  deriving DecidableEq, Repr

/-- The focused window belongs to the session
(`SessionContext::matches_focus`). -/
def SessionContext.matchesFocus
    (session : SessionContext)
    (focused : Option String) : Bool :=
  match focused with
  | none => false
  | some focused => session.appIds.any fun id => id == focused

end Protocol
end Hearthdeck
