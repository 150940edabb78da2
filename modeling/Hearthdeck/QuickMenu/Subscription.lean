import Hearthdeck.Foundation.Flight
import Hearthdeck.Foundation.Machine
import Hearthdeck.QuickMenu.Overlay

/-!
# The overlay's connections to the broker

The overlay listens to the broker through one stream at a time.  Which stream
it wants is told by whether it asked for capture, and the stream is replaced
some time after that changed.  A stream connects, is told once that the broker
is ready, forwards what the broker sends, and connects again, without capture,
when its connection fails.  What a stream forwarded is delivered in order, and
also after the stream was replaced.

All streams forward to the same handler.  A run notes beside every forwarded
event which delivery its connection asked for, and beside every stream which
asking for the menu it was opened under.  The notes are read by no code.
-/

namespace Hearthdeck
namespace QuickMenu

open Foundation

/-- The message comes from a stream. -/
def Message.streamed : Message → Bool
  | brokerInput _ => true
  | _ => false

/-- The broker or its connection failed. -/
def fails : Protocol.Event → Bool
  | .failed _ => true
  | _ => false

/-- A forwarded event, and the delivery its connection asked for. -/
structure Forwarded where
  event : Protocol.Event
  delivery : Protocol.Delivery
  deriving DecidableEq, Repr

/-- One run of the future in `broker_input::subscription`. -/
structure Stream where
  /-- What the stream is identified by. -/
  capture : Bool
  /-- What its next or present connection asks for. -/
  delivery : Protocol.Delivery
  /-- The present connection was told that the broker is ready. -/
  connected : Bool := false
  /-- What was forwarded and not delivered yet, oldest first. -/
  queue : List Forwarded := []
  /-- How often the menu had been asked for when the stream was opened. -/
  opened : Nat
  deriving DecidableEq, Repr

namespace Stream

/-- A new stream of `subscription`. -/
def subscription (capture : Bool) (opened : Nat) : Stream where
  capture := capture
  delivery := if capture then .overlay else .observe
  opened := opened

/-- Forward an event of the present connection. -/
def forward (stream : Stream) (event : Protocol.Event) : Stream :=
  { stream with queue := stream.queue ++ [⟨event, stream.delivery⟩] }

/-- The broker is ready, which a connection is told once. -/
def ready (stream : Stream) : Stream :=
  if stream.connected then
    stream
  else
    { stream.forward .ready with connected := true }

/-- The connection fails.  The failure is forwarded, and the next connection
only observes. -/
def fail (stream : Stream) (error : String) : Stream :=
  { stream.forward (.failed ("Controller broker unavailable: " ++ error)) with
    delivery := .observe
    connected := false }

/-- The oldest forwarded event is delivered. -/
def deliver (stream : Stream) : Stream :=
  { stream with queue := stream.queue.tail }

/-- What is delivered before the next failure of the stream. -/
def due (stream : Stream) : List Forwarded :=
  stream.queue.takeWhile fun forwarded => !fails forwarded.event

/-- The stream has a word of readiness on its way. -/
def Promises (stream : Stream) : Prop :=
  ∃ forwarded ∈ stream.due, forwarded.event = .ready

/-- The stream was opened for capture when the menu had been asked for a
given number of times, and none of its connections failed. -/
def ServesCapture (stream : Stream) (asked : Nat) : Prop :=
  stream.delivery = .overlay ∧ stream.opened = asked

/-- What is due after one more event was forwarded: what was due before, or
that event when no failure stands before it. -/
theorem mem_due_forward
    {stream : Stream}
    {event : Protocol.Event}
    {forwarded : Forwarded}
    (member : forwarded ∈ (stream.forward event).due) :
    forwarded ∈ stream.due ∨
      (forwarded = ⟨event, stream.delivery⟩ ∧
        ∀ earlier ∈ stream.queue, fails earlier.event = false) := by
  unfold due forward at *
  dsimp only at member
  generalize stream.queue = queue at member ⊢
  induction queue with
  | nil =>
      right
      have single := (List.takeWhile_sublist _).subset member
      exact ⟨List.mem_singleton.mp single, nofun⟩
  | cons first later inductionHypothesis =>
      rw [List.cons_append, List.takeWhile_cons] at member
      rw [List.takeWhile_cons]
      cases failed : fails first.event with
      | true =>
          simp only [failed, Bool.not_true, Bool.false_eq_true, if_false,
            List.not_mem_nil] at member
      | false =>
          simp only [failed, Bool.not_false, if_true, List.mem_cons] at member ⊢
          rcases member with here | behind
          · exact Or.inl (Or.inl here)
          · rcases inductionHypothesis behind with before | ⟨last, clear⟩
            · exact Or.inl (Or.inr before)
            · refine Or.inr ⟨last, ?_⟩
              intro earlier inQueue
              rcases inQueue with rfl | inLater
              · exact failed
              · exact clear earlier inLater

/-- A failure forwarded is not a word of readiness, and neither is anything
else but readiness itself. -/
theorem mem_due_forward_of_ne
    {stream : Stream}
    {event : Protocol.Event}
    (other : event ≠ .ready)
    {forwarded : Forwarded}
    (member : forwarded ∈ (stream.forward event).due)
    (readiness : forwarded.event = .ready) :
    forwarded ∈ stream.due := by
  rcases mem_due_forward member with before | ⟨last, clear⟩
  · exact before
  · rw [last] at readiness
    exact absurd readiness other

/-- The oldest event is due, unless it is a failure. -/
theorem due_of_cons
    {stream : Stream}
    {first : Forwarded}
    {later : List Forwarded}
    (queue : stream.queue = first :: later)
    (well : fails first.event = false) :
    stream.due = first :: stream.deliver.due := by
  unfold due deliver
  rw [queue, List.takeWhile_cons, well]
  rfl

end Stream

/-- The overlay with its streams and the counts of a run. -/
structure Subscribed where
  overlay : Overlay := {}
  /-- The present stream, then those it replaced. -/
  streams : List Stream := [Stream.subscription false 0]
  /-- How often the menu was asked for. -/
  asked : Nat := 0
  deriving DecidableEq, Repr

/-- A step of a run. -/
inductive Hearing
  /-- The overlay takes a message that comes from no stream: the socket, the
  menu itself, or a task. -/
  | own (message : Message) (unstreamed : message.streamed = false)
  /-- The runtime looks at which stream the overlay wants. -/
  | replace
  /-- The broker is ready for the present connection. -/
  | ready
  /-- The broker sends something else on the present connection. -/
  | send (event : Protocol.Event) (other : event ≠ .ready)
  /-- The present connection fails. -/
  | fail (error : String)
  /-- The oldest event of a stream is delivered. -/
  | deliver (index : Nat)

namespace Subscribed

/-- The overlay takes a message. -/
def take
    (subscribed : Subscribed)
    (message : Message) : Subscribed × List Effect :=
  let taken := subscribed.overlay.update message
  ({ subscribed with
      overlay := taken.1
      asked :=
        if !subscribed.overlay.brokerRequested && taken.1.brokerRequested then
          subscribed.asked + 1
        else
          subscribed.asked },
    [taken.2])

/-- A change of the present stream. -/
def present
    (subscribed : Subscribed)
    (change : Stream → Stream) : Subscribed :=
  { subscribed with streams := subscribed.streams.modify 0 change }

/-- `Overlay::subscription`, as the runtime follows it: the present stream
stays while it is the one that is wanted. -/
def replace (subscribed : Subscribed) : Subscribed :=
  if (subscribed.streams.head?.map Stream.capture) =
      some subscribed.overlay.brokerRequested then
    subscribed
  else
    { subscribed with
      streams :=
        Stream.subscription subscribed.overlay.brokerRequested
          subscribed.asked :: subscribed.streams }

/-- The oldest event of the stream at a position. -/
def oldest (subscribed : Subscribed) (index : Nat) : Option Forwarded :=
  subscribed.streams[index]?.bind fun stream => stream.queue.head?

/-- The streams after the oldest event at a position was taken out. -/
def taken (subscribed : Subscribed) (index : Nat) : Subscribed :=
  { subscribed with
    streams := subscribed.streams.modify index Stream.deliver }

/-- The oldest event of a stream is delivered. -/
def deliver
    (subscribed : Subscribed)
    (index : Nat) : Subscribed × List Effect :=
  match subscribed.oldest index with
  | some forwarded =>
      (subscribed.taken index).take (.brokerInput forwarded.event)
  | none => (subscribed, [])

/-- One step. -/
def step (subscribed : Subscribed) : Hearing → Subscribed × List Effect
  | .own message _ => subscribed.take message
  | .replace => (subscribed.replace, [])
  | .ready => (subscribed.present Stream.ready, [])
  | .send event _ => (subscribed.present (Stream.forward · event), [])
  | .fail error => (subscribed.present (Stream.fail · error), [])
  | .deliver index => subscribed.deliver index

/-- The overlay over its steps. -/
def machine : Machine Subscribed Hearing Effect where
  start := {}
  step := step

/-- A message asks for the menu while some stream has a word of readiness on
its way, which was sent before there was anything to be ready for. -/
def AsksEarly (subscribed : Subscribed) (message : Message) : Prop :=
  subscribed.overlay.asks message = true ∧
    ∃ stream ∈ subscribed.streams, stream.Promises

/-- The broker is ready for a connection that was not opened for the menu as
it is asked for now, and no failure stands before its word. -/
def AnswersLate (subscribed : Subscribed) : Prop :=
  subscribed.overlay.brokerRequested = true ∧
    ∃ stream ∈ subscribed.streams.head?,
      stream.connected = false ∧
        (∀ earlier ∈ stream.queue, fails earlier.event = false) ∧
        ¬ stream.ServesCapture subscribed.asked

/-- A step by which a word of readiness for another connection can be taken
for the one the menu waits for. -/
def Slips (subscribed : Subscribed) : Hearing → Prop
  | .own message _ => subscribed.AsksEarly message
  | .deliver index =>
      ∃ forwarded ∈ subscribed.oldest index,
        (subscribed.taken index).AsksEarly (.brokerInput forwarded.event)
  | .ready => subscribed.AnswersLate
  | .replace => False
  | .send _ _ => False
  | .fail _ => False

/-! ## Words of readiness -/

/-- While the menu is asked for, every word of readiness on its way is from a
connection with capture, opened for the present asking. -/
def Sound (subscribed : Subscribed) : Prop :=
  subscribed.overlay.brokerRequested = true →
    ∀ stream ∈ subscribed.streams, ∀ forwarded ∈ stream.due,
      forwarded.event = .ready →
        forwarded.delivery = .overlay ∧ stream.opened = subscribed.asked

/-- A message that leaves the menu asked for either asks for it now, which
adds to the count, or finds it asked for. -/
theorem Sound.take
    {subscribed : Subscribed}
    {message : Message}
    (sound : (subscribed.overlay.update message).1.brokerRequested = true →
      subscribed.Sound)
    (timely : ¬ subscribed.AsksEarly message) :
    (subscribed.take message).1.Sound := by
  intro requested stream member forwarded due readiness
  change (subscribed.overlay.update message).1.brokerRequested = true
    at requested
  cases before : subscribed.overlay.brokerRequested with
  | true =>
      have kept := sound requested before stream member forwarded due
        readiness
      unfold Subscribed.take
      dsimp only
      rw [before, Bool.not_true, Bool.false_and, if_neg Bool.false_ne_true]
      exact kept
  | false =>
      rcases Overlay.requested_update requested with already | asks
      · rw [already] at before
        cases before
      · exact absurd ⟨asks, stream, member, forwarded, due, readiness⟩ timely

/-- A change of the present stream that brings no word of readiness but one
for the present asking. -/
theorem Sound.present
    {subscribed : Subscribed}
    (sound : subscribed.Sound)
    {change : Stream → Stream}
    (opened : ∀ stream, (change stream).opened = stream.opened)
    (brings : ∀ stream ∈ subscribed.streams.head?,
      subscribed.overlay.brokerRequested = true →
      ∀ forwarded ∈ (change stream).due, forwarded.event = .ready →
        forwarded ∈ stream.due ∨
          forwarded.delivery = .overlay ∧
            stream.opened = subscribed.asked) :
    (subscribed.present change).Sound := by
  intro requested stream member forwarded due readiness
  unfold Subscribed.present at member
  cases streams : subscribed.streams with
  | nil =>
      rw [streams] at member
      cases member
  | cons first replaced =>
      rw [streams] at member
      rw [List.modify_zero_cons] at member
      have standing := sound requested
      rw [streams] at standing brings
      rcases List.mem_cons.mp member with rfl | earlier
      · rw [opened]
        rcases brings first rfl requested forwarded due readiness with
          before | granted
        · exact standing first List.mem_cons_self forwarded before readiness
        · exact granted
      · exact standing stream (List.mem_cons_of_mem _ earlier) forwarded due
          readiness

theorem Sound.ready
    {subscribed : Subscribed}
    (sound : subscribed.Sound)
    (timely : ¬ subscribed.AnswersLate) :
    (subscribed.present Stream.ready).Sound := by
  apply sound.present
  · intro stream
    unfold Stream.ready
    split
    case isTrue connected => rfl
    case isFalse waiting => rfl
  · intro stream current requested forwarded due readiness
    unfold Stream.ready at due
    split at due
    case isTrue connected => exact Or.inl due
    case isFalse waiting =>
        rcases Stream.mem_due_forward due with before | ⟨last, clear⟩
        · exact Or.inl before
        · right
          by_contra other
          apply timely
          refine ⟨requested, stream, current, ?_, clear, ?_⟩
          · exact Bool.eq_false_iff.mpr waiting
          · intro serves
            rw [last] at other
            exact other serves

theorem Sound.forward
    {subscribed : Subscribed}
    (sound : subscribed.Sound)
    {event : Protocol.Event}
    (other : event ≠ .ready) :
    (subscribed.present (Stream.forward · event)).Sound := by
  apply sound.present
  · intro stream
    rfl
  · intro stream _ _ forwarded due readiness
    exact Or.inl (Stream.mem_due_forward_of_ne other due readiness)

theorem Sound.fail
    {subscribed : Subscribed}
    (sound : subscribed.Sound)
    (error : String) :
    (subscribed.present (Stream.fail · error)).Sound := by
  apply sound.present
  · intro stream
    rfl
  · intro stream _ _ forwarded due readiness
    left
    have other : Protocol.Event.failed
        ("Controller broker unavailable: " ++ error) ≠ .ready := nofun
    exact Stream.mem_due_forward_of_ne other due readiness

theorem Sound.replace
    {subscribed : Subscribed}
    (sound : subscribed.Sound) :
    subscribed.replace.Sound := by
  unfold Subscribed.replace
  split
  case isTrue wanted => exact sound
  case isFalse changed =>
      intro requested stream member forwarded due readiness
      rcases List.mem_cons.mp member with rfl | earlier
      · cases due
      · exact sound requested stream earlier forwarded due readiness

theorem oldest_eq_some
    {subscribed : Subscribed}
    {index : Nat}
    {forwarded : Forwarded}
    (oldest : subscribed.oldest index = some forwarded) :
    ∃ stream, subscribed.streams[index]? = some stream ∧
      stream.queue = forwarded :: stream.deliver.queue := by
  obtain ⟨stream, found, head⟩ := Option.bind_eq_some_iff.mp oldest
  refine ⟨stream, found, ?_⟩
  unfold Stream.deliver
  cases queue : stream.queue with
  | nil =>
      rw [queue] at head
      cases head
  | cons first later =>
      rw [queue] at head
      cases head
      rfl

/-- Taking out an event that is not a failure brings nothing to be due. -/
theorem Sound.taken
    {subscribed : Subscribed}
    (sound : subscribed.Sound)
    {index : Nat}
    {first : Forwarded}
    (oldest : subscribed.oldest index = some first)
    (well : fails first.event = false) :
    (subscribed.taken index).Sound := by
  obtain ⟨source, found, queue⟩ := oldest_eq_some oldest
  intro requested stream member forwarded due readiness
  change stream ∈ subscribed.streams.modify index _ at member
  obtain ⟨position, stands⟩ := List.mem_iff_getElem?.mp member
  rw [List.getElem?_modify] at stands
  obtain ⟨earlier, stood, same⟩ := Option.map_eq_some_iff.mp stands
  have listed := List.mem_of_getElem? stood
  split at same
  case isTrue here =>
      subst here
      rw [found] at stood
      cases stood
      subst same
      apply sound requested source listed forwarded _ readiness
      rw [Stream.due_of_cons queue well]
      exact List.mem_cons_of_mem _ due
  case isFalse elsewhere =>
      subst same
      exact sound requested earlier listed forwarded due readiness

theorem Sound.step
    {subscribed : Subscribed}
    (sound : subscribed.Sound)
    (step : Hearing)
    (calm : ¬ subscribed.Slips step) :
    (subscribed.step step).1.Sound := by
  cases step with
  | own message unstreamed => exact Sound.take (fun _ => sound) calm
  | replace => exact sound.replace
  | ready => exact sound.ready calm
  | send event other => exact sound.forward other
  | fail error => exact sound.fail error
  | deliver index =>
      change (subscribed.deliver index).1.Sound
      unfold Subscribed.deliver
      split
      case h_2 nothing => exact sound
      case h_1 forwarded oldest =>
          apply Sound.take
          · intro requested
            apply sound.taken oldest
            cases kind : forwarded.event with
            | ready => rfl
            | action action => rfl
            | failed error =>
                rw [kind] at requested
                change (subscribed.overlay.brokerFailed _).1.brokerRequested =
                  true at requested
                rw [Overlay.requested_brokerFailed] at requested
                cases requested
          · intro early
            exact calm ⟨forwarded, oldest, early⟩

theorem sound_run
    (steps : List Hearing)
    (calm : machine.Along (fun subscribed step => ¬ subscribed.Slips step)
      steps) :
    (machine.run steps).Sound := by
  apply machine.run_induction_along _ Sound _ _ steps calm
  · intro requested
    cases requested
  · intro subscribed step sound calm
    exact sound.step step calm

/-! ## The menu with the pad -/

/-- What a step takes to put the menu on the screen without an error: the
delivery of a word of readiness, while the menu is asked for. -/
theorem shown_by_ready
    {subscribed : Subscribed}
    {step : Hearing}
    (hidden : subscribed.overlay.state.visible = false)
    (shown : (subscribed.step step).1.overlay.state.visible = true)
    (well : (subscribed.step step).1.overlay.brokerError = none) :
    ∃ index forwarded, step = .deliver index ∧
      subscribed.oldest index = some forwarded ∧
      forwarded.event = .ready ∧
      subscribed.overlay.brokerRequested = true := by
  have unchanged : subscribed.overlay.state.visible ≠ true := by
    rw [hidden]
    exact Bool.false_ne_true
  cases step with
  | own message unstreamed =>
      obtain ⟨rfl, requested⟩ := Overlay.ready_of_shown hidden shown well
      cases unstreamed
  | replace =>
      change subscribed.replace.overlay.state.visible = true at shown
      unfold Subscribed.replace at shown
      split at shown
      case isTrue wanted => exact absurd shown unchanged
      case isFalse changed => exact absurd shown unchanged
  | ready => exact absurd shown unchanged
  | send event other => exact absurd shown unchanged
  | fail error => exact absurd shown unchanged
  | deliver index =>
      change (subscribed.deliver index).1.overlay.state.visible = true at shown
      change (subscribed.deliver index).1.overlay.brokerError = none at well
      unfold Subscribed.deliver at shown well
      split at shown
      case h_2 nothing => exact absurd shown unchanged
      case h_1 forwarded oldest =>
          rw [oldest] at well
          obtain ⟨message, requested⟩ :=
            Overlay.ready_of_shown hidden shown well
          cases event : forwarded.event with
          | ready => exact ⟨index, forwarded, rfl, oldest, event, requested⟩
          | action action =>
              rw [event] at message
              cases message
          | failed error =>
              rw [event] at message
              cases message

theorem covered_step
    {subscribed : Subscribed}
    (covered : subscribed.overlay.Covered)
    (step : Hearing) :
    (subscribed.step step).1.overlay.Covered := by
  cases step with
  | own message unstreamed => exact covered.update message
  | replace =>
      change subscribed.replace.overlay.Covered
      unfold Subscribed.replace
      split
      case isTrue wanted => exact covered
      case isFalse changed => exact covered
  | ready => exact covered
  | send event other => exact covered
  | fail error => exact covered
  | deliver index =>
      change (subscribed.deliver index).1.overlay.Covered
      unfold Subscribed.deliver
      split
      case h_1 forwarded oldest => exact covered.update _
      case h_2 nothing => exact covered

theorem covered_run (steps : List Hearing) :
    (machine.run steps).overlay.Covered := by
  apply machine.run_induction (fun subscribed => subscribed.overlay.Covered)
  · intro visible
    cases visible
  · intro subscribed step covered
    exact covered_step covered step

/-- A step that hides the menu gives the capture back. -/
theorem requested_of_hide
    {subscribed : Subscribed}
    {step : Hearing}
    (hides : .hide ∈ (subscribed.step step).2) :
    (subscribed.step step).1.overlay.brokerRequested = false := by
  cases step with
  | own message unstreamed =>
      exact Overlay.requested_of_hide (List.mem_singleton.mp hides).symm
  | replace => cases hides
  | ready => cases hides
  | send event other => cases hides
  | fail error => cases hides
  | deliver index =>
      change .hide ∈ (subscribed.deliver index).2 at hides
      change (subscribed.deliver index).1.overlay.brokerRequested = false
      unfold Subscribed.deliver at hides ⊢
      split
      case h_1 forwarded oldest =>
          rw [oldest] at hides
          exact Overlay.requested_of_hide (List.mem_singleton.mp hides).symm
      case h_2 nothing =>
          rw [nothing] at hides
          cases hides

/-- As long as the menu is not asked for while a word of readiness is on its
way, and the broker is ready for no connection but one opened for the present
asking while the menu is asked for: what puts the menu on the screen without
an error is the word of a connection with capture, opened for the present
asking; such a menu is asked for; and a step that hides the menu gives the
capture back. -/
theorem interactive_menu_has_the_pad
    (steps : List Hearing)
    (calm : machine.Along (fun subscribed step => ¬ subscribed.Slips step)
      steps) :
    let subscribed := machine.run steps
    (subscribed.overlay.state.visible = true →
      subscribed.overlay.brokerError = none →
      subscribed.overlay.brokerRequested = true) ∧
      ∀ step,
        (subscribed.overlay.state.visible = false →
          (subscribed.step step).1.overlay.state.visible = true →
          (subscribed.step step).1.overlay.brokerError = none →
          ∃ index stream later, step = .deliver index ∧
            subscribed.streams[index]? = some stream ∧
            stream.queue = ⟨.ready, .overlay⟩ :: later ∧
            stream.opened = subscribed.asked) ∧
        (.hide ∈ (subscribed.step step).2 →
          (subscribed.step step).1.overlay.brokerRequested = false) := by
  intro subscribed
  refine ⟨covered_run steps, ?_⟩
  intro step
  refine ⟨?_, requested_of_hide⟩
  intro hidden shown well
  obtain ⟨index, forwarded, rfl, oldest, readiness, requested⟩ :=
    shown_by_ready hidden shown well
  obtain ⟨stream, found, queue⟩ := oldest_eq_some oldest
  have due : forwarded ∈ stream.due := by
    rw [Stream.due_of_cons queue (by rw [readiness]; rfl)]
    exact List.mem_cons_self
  obtain ⟨delivery, opened⟩ := sound_run steps calm requested stream
    (List.mem_of_getElem? found) forwarded due readiness
  refine ⟨index, stream, stream.deliver.queue, rfl, found, ?_, opened⟩
  rw [queue, ← readiness, ← delivery]

/-- The menu is asked for over the socket when the broker's word for the
observing connection was delivered, and the stream is replaced. -/
def asksForCapture : List Hearing :=
  [.ready, .deliver 0, .own .toggleOverlay rfl, .replace, .ready]

theorem interactive_menu_has_the_pad_asked :
    (machine.run asksForCapture).overlay.state.visible = false ∧
      (machine.run (asksForCapture ++ [.deliver 0])).overlay.state.visible =
        true ∧
      ∃ stream later,
        (machine.run asksForCapture).streams[0]? = some stream ∧
        stream.queue = ⟨.ready, .overlay⟩ :: later ∧
        stream.opened = 1 := by
  have calm : machine.Along
      (fun subscribed step => ¬ subscribed.Slips step) asksForCapture := by
    apply Machine.along_of_alongFrom
    refine ⟨?_, ?_, ?_, id, ?_, trivial⟩
    · rintro ⟨requested, _⟩
      cases requested
    · rintro ⟨forwarded, oldest, asks, _⟩
      cases oldest
      cases asks
    · rintro ⟨_, stream, member, forwarded, due, _⟩
      cases List.mem_singleton.mp member
      cases due
    · rintro ⟨_, stream, current, _, _, other⟩
      cases current
      exact other ⟨rfl, rfl⟩
  refine ⟨rfl, rfl, ?_⟩
  obtain ⟨index, stream, later, deliver, found, queue, opened⟩ :=
    ((interactive_menu_has_the_pad asksForCapture calm).2 (.deliver 0)).1
      rfl rfl rfl
  cases deliver
  exact ⟨stream, later, found, queue, opened⟩

/-- The menu is asked for while the word for the observing connection is on
its way: it opens without an error, and without the pad. -/
theorem observing_connection_opens_the_menu :
    let asked := machine.run [.ready, .own .toggleOverlay rfl]
    let shown := machine.run [.ready, .own .toggleOverlay rfl, .deliver 0]
    asked.overlay.state.visible = false ∧
      shown.overlay.state.visible = true ∧
      shown.overlay.brokerError = none ∧
      asked.streams = [{
        capture := false
        delivery := .observe
        connected := true
        queue := [⟨.ready, .observe⟩]
        opened := 0 }] := by
  decide

end Subscribed
end QuickMenu
end Hearthdeck
