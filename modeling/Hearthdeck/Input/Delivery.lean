import Hearthdeck.Input.Repeat
import Hearthdeck.Input.Wiring

/-!
# Delivery

A poll computes signals under one owner and delivers them one after the other.
What can be computed depends on the owner (`Emittable`); where a signal goes
depends on the capture and the roles.  The two agree because the owner fits
the capture in every settled state and because delivery stops as soon as the
owner changes.
-/

namespace Hearthdeck
namespace Input

open Foundation Effect Protocol

/-! ## What an owner can be signalled -/

/-- Signals that come up under an owner. -/
def Emittable (owner : Owner) : Signal → Prop
  | .keyboard => owner = .observe ∨ owner = .desktop
  | .action action =>
      action = .toggleOverlay ∨ owner = .frontend ∨ owner = .overlay ∨
        (owner = .textEntry ∧ action = .back)

/-- Every signal of a button edge can come up under its owner. -/
theorem Pad.button_emittable
    {pad : Pad}
    {owner : Owner}
    {control : Control}
    {pressed : Bool}
    {now : Nat}
    {keyboardEnabled : Bool}
    {signal : Signal}
    (returned : signal ∈
      (pad.button owner control pressed now keyboardEnabled).2) :
    Emittable owner signal := by
  have outcome :=
    pad.button_outcome owner control pressed now keyboardEnabled
  generalize pad.button owner control pressed now keyboardEnabled = result
    at outcome returned
  cases outcome with
  | guideReleased edge isGuide isReleased =>
      cases used : pad.guideUsed <;> simp [used] at returned
      rw [returned]
      exact Or.inl rfl
  | keyboardOpened edge isWest isPressed guideHeld unused enabled owned =>
      rw [List.mem_singleton.mp returned]
      exact owned
  | textBack edge noGuide isText isEast isPressed =>
      rw [List.mem_singleton.mp returned]
      exact Or.inr (Or.inr (Or.inr ⟨isText, rfl⟩))
  | chordCompleted edge noGuide isFrontend isPressed chord =>
      rw [List.mem_singleton.mp returned]
      exact Or.inr (Or.inl isFrontend)
  | selectReleased edge noGuide isFrontend isSelect isReleased fresh =>
      rw [List.mem_singleton.mp returned]
      exact Or.inr (Or.inl isFrontend)
  | acted taken edge noGuide interactive mapped isPressed =>
      rw [List.mem_singleton.mp returned]
      rcases interactive with isFrontend | isOverlay
      · exact Or.inr (Or.inl isFrontend)
      · exact Or.inr (Or.inr (Or.inl isOverlay))
  | _ => cases returned

/-- Every repeat can come up under the owner: only interactive owners
repeat. -/
theorem Ownership.tick_emittable
    (calls : List Ownership.Call)
    {order : HashOrder}
    {now : Nat}
    {signal : Signal}
    (emitted : signal ∈ ((Ownership.after calls).tick order now).2) :
    Emittable (Ownership.after calls).owner signal := by
  obtain ⟨⟨id, pad⟩, member, returned⟩ := List.mem_flatMap.mp emitted
  have found : (Ownership.after calls).pads.lookup id = some pad :=
    AList.mem_lookup_iff.mpr ((order.mem_visit _ _).mp member)
  obtain ⟨repeated, due, active, _, _, rfl⟩ :=
    (pad.mem_tick_iff now signal).mp returned
  obtain ⟨_, _, interactive, _⟩ :=
    Ownership.repeatsHeld_after calls found repeated due active
  rcases interactive with isFrontend | isOverlay
  · exact Or.inr (Or.inl isFrontend)
  · exact Or.inr (Or.inr (Or.inl isOverlay))

namespace Broker

variable (outside : Outside)

/-! ## Computing the signals of a poll -/

/-- The method only plays the ownership state and returns signals that can
come up under its owner. -/
def Signals (program : Method (List Signal)) : Prop :=
  ∀ broker, Meets program
    (fun signals after => Plays broker after ∧
      ∀ signal ∈ signals, Emittable broker.state.owner signal)
    (fun _ after => Plays broker after) broker

theorem Signals.none : Signals (pure []) := by
  intro broker
  exact ⟨refl_of Plays broker, by simp⟩

theorem Signals.append
    {first second : Method (List Signal)}
    (firstSignals : Signals first)
    (secondSignals : Signals second) :
    Signals (do
      let earlier ← first
      let later ← second
      pure (earlier ++ later)) := by
  intro broker
  rw [meets_bind]
  refine (firstSignals broker).imp ?_ (fun _ _ plays => plays)
  rintro earlier middle ⟨plays, emittable⟩
  rw [meets_bind]
  refine (secondSignals middle).imp ?_ ?_
  · rintro later after ⟨plays', emittable'⟩
    refine ⟨trans_of Plays plays plays', ?_⟩
    intro signal member
    rcases List.mem_append.mp member with early | late
    · exact emittable signal early
    · exact plays.owner ▸ emittable' signal late
  · intro _ after plays'
    exact trans_of Plays plays plays'

/-- The method does idle work and returns a given value. -/
def Returns (signals : List Signal) (program : Method (List Signal)) : Prop :=
  ∀ broker, Meets program
    (fun result after => Idles broker after ∧ result = signals)
    (fun _ after => Idles broker after) broker

theorem Returns.pure (signals : List Signal) :
    Returns signals (Pure.pure signals) := by
  intro broker
  exact ⟨refl_of Idles broker, rfl⟩

theorem Returns.after
    {signals : List Signal}
    {work : Method Unit}
    (idle : Preserves Idles work)
    {program : Unit → Method (List Signal)}
    (returns : ∀ value, Returns signals (program value)) :
    Returns signals (work >>= program) := by
  intro broker
  rw [meets_bind]
  refine (idle broker).imp ?_ (fun _ _ idles => idles)
  intro value middle idles
  refine (returns value middle).imp ?_ ?_
  · rintro result after ⟨idles', same⟩
    exact ⟨trans_of Idles idles idles', same⟩
  · intro _ after idles'
    exact trans_of Idles idles idles'

/-- Idle work after computing signals changes nothing about them. -/
theorem Signals.bind
    {program : Method (List Signal)}
    {tail : List Signal → Method (List Signal)}
    (signals : Signals program)
    (returns : ∀ computed, Returns computed (tail computed)) :
    Signals (program >>= tail) := by
  intro broker
  rw [meets_bind]
  refine (signals broker).imp ?_ (fun _ _ plays => plays)
  rintro computed middle ⟨plays, emittable⟩
  refine (returns computed middle).imp ?_ ?_
  · rintro result after ⟨idles, rfl⟩
    exact ⟨trans_of Plays plays idles.plays, emittable⟩
  · intro _ after idles
    exact trans_of Plays plays idles.plays

theorem button_signals
    (id : PadId)
    (control : Control)
    (pressed : Bool)
    (now : Nat)
    (keyboardEnabled : Bool) :
    Signals (button id control pressed now keyboardEnabled) := by
  intro broker
  exact ⟨button_plays id control pressed now keyboardEnabled broker,
    fun signal returned => Pad.button_emittable returned⟩

theorem buttons_signals
    (id : PadId)
    (now : Nat)
    (keyboardEnabled : Bool)
    (edges : List (Control × Bool)) :
    Signals (buttons id now keyboardEnabled edges) := by
  induction edges with
  | nil => exact Signals.none
  | cons edge rest inductionHypothesis =>
      exact (button_signals id edge.1 edge.2 now keyboardEnabled).append
        inductionHypothesis

theorem forward_idles
    (armed : Bool)
    (id : PadId)
    (call : Mapper → Mapper × List OutputEvent) :
    Preserves Idles (forward outside armed id call) := by
  unfold forward
  refine preserves_get.bind fun broker => ?_
  split
  · exact emitMapped_idles outside _
  · exact preserves_pure _

theorem pollEvent_signals
    (pad : OpenPad)
    (now : Nat)
    (keyboardEnabled : Bool)
    (event : InputEvent) :
    Signals (pollEvent outside pad now keyboardEnabled event) := by
  intro broker
  unfold pollEvent
  rw [meets_bind, meets_get]
  cases event with
  | key code value =>
      dsimp only
      split
      · refine (buttons_signals pad.id now keyboardEnabled _).bind ?_ broker
        intro computed
        have forwarded : Returns computed (do
            forward outside (broker.state.armed pad.id) pad.id fun mapper =>
              mapKey mapper pad.id code value
            Pure.pure computed) :=
          .after (forward_idles outside _ _ _) fun _ => .pure computed
        split
        · exact .after (emitMapped_idles outside _) fun _ => forwarded
        · exact forwarded
      · exact Signals.none broker
  | absoluteAxis code value =>
      refine (buttons_signals pad.id now keyboardEnabled _).bind ?_ broker
      intro computed
      exact .after (forward_idles outside _ _ _) fun _ => .pure computed
  | other => exact Signals.none broker

theorem pollEvents_signals
    (pad : OpenPad)
    (now : Nat)
    (keyboardEnabled : Bool)
    (events : List InputEvent) :
    Signals (pollEvents outside pad now keyboardEnabled events) := by
  induction events with
  | nil => exact Signals.none
  | cons event rest inductionHypothesis =>
      exact (pollEvent_signals outside pad now keyboardEnabled event).append
        inductionHypothesis

theorem pollPads_meets
    (now : Nat)
    (keyboardEnabled : Bool)
    (pads : List OpenPad)
    (broker : Broker) :
    Meets (pollPads outside now keyboardEnabled pads)
      (fun polled after => Plays broker after ∧
        ∀ signal ∈ polled.1, Emittable broker.state.owner signal)
      (fun _ after => Plays broker after) broker := by
  induction pads generalizing broker with
  | nil => exact ⟨refl_of Plays broker, by simp⟩
  | cons pad rest inductionHypothesis =>
      unfold pollPads
      rw [meets_bind]
      refine (ask_idles broker).imp ?_ (fun _ _ idles => idles.plays)
      intro question asked idles
      have owned : asked.state.owner = broker.state.owner := by
        rw [idles.state]
      cases outside.fetch question with
      | wouldBlock =>
          refine (inductionHypothesis asked).imp ?_ ?_
          · rintro polled after ⟨plays, emittable⟩
            exact ⟨trans_of Plays idles.plays plays, owned ▸ emittable⟩
          · intro _ after plays
            exact trans_of Plays idles.plays plays
      | failed error =>
          dsimp only
          rw [meets_bind]
          refine (inductionHypothesis asked).imp ?_ ?_
          · rintro polled after ⟨plays, emittable⟩
            exact ⟨trans_of Plays idles.plays plays, owned ▸ emittable⟩
          · intro _ after plays
            exact trans_of Plays idles.plays plays
      | events events =>
          dsimp only
          rw [meets_bind]
          refine (pollEvents_signals outside pad now keyboardEnabled events
            asked).imp ?_ ?_
          · rintro first middle ⟨plays, emittable⟩
            have plays' := trans_of Plays idles.plays plays
            rw [meets_bind]
            refine (inductionHypothesis middle).imp ?_ ?_
            · rintro polled after ⟨plays'', emittable'⟩
              refine ⟨trans_of Plays plays' plays'', ?_⟩
              intro signal member
              rcases List.mem_append.mp member with early | late
              · exact owned ▸ emittable signal early
              · exact plays'.owner ▸ emittable' signal late
            · intro _ after plays''
              exact trans_of Plays plays' plays''
          · intro _ middle plays
            exact trans_of Plays idles.plays plays

/-! ## Pads that are gone -/

/-- Pads are only lost and the ownership state is played under the same
owner. -/
structure Gathers (before after : Broker) : Prop where
  clients : after.clients = before.clients
  pads : after.pads ⊆ before.pads
  capture : after.capture = before.capture
  keyboard : after.keyboard = before.keyboard
  queued : after.queued = before.queued
  owner : after.state.owner = before.state.owner
  reached : Reached before.state → Reached after.state

instance : IsPreorder Broker Gathers where
  refl _ := ⟨rfl, List.Subset.refl _, rfl, rfl, rfl, rfl, id⟩
  trans _ _ _ first second :=
    ⟨second.clients.trans first.clients,
      List.Subset.trans second.pads first.pads,
      second.capture.trans first.capture,
      second.keyboard.trans first.keyboard,
      second.queued.trans first.queued, second.owner.trans first.owner,
      fun reached => second.reached (first.reached reached)⟩

theorem Plays.gathers
    {before after : Broker}
    (plays : Plays before after) :
    Gathers before after :=
  ⟨plays.clients, by rw [plays.pads]; exact List.Subset.refl _,
    plays.capture, plays.keyboard, plays.queued, plays.owner, plays.reached⟩

theorem Gathers.moves
    {before after : Broker}
    (gathers : Gathers before after)
    (allowed : Queued → Prop) :
    Moves allowed before after :=
  ⟨by rw [gathers.clients]; exact List.Subset.refl _,
    Or.inr gathers.capture, [], by simp [gathers.queued], by simp⟩

theorem Settled.gathers
    {before after : Broker}
    (settled : Settled before)
    (gathers : Gathers before after) :
    Settled after where
  roles := gathers.clients ▸ settled.roles
  ids := gathers.clients ▸ settled.ids
  valid := gathers.clients ▸ settled.valid
  grabs := fun pad member =>
    gathers.capture ▸ settled.grabs pad (gathers.pads member)
  handedOver := fun running => by
    have before := settled.handedOver (gathers.keyboard ▸ running)
    refine ⟨List.subset_nil.mp ?_, gathers.capture.trans before.2⟩
    exact before.1 ▸ gathers.pads
  reached := gathers.reached settled.reached
  holder := gathers.clients ▸ gathers.capture ▸ settled.holder
  owner := gathers.owner ▸
    settled.owner.congr gathers.clients gathers.capture gathers.keyboard

theorem forgetPad_gathers (id : PadId) :
    Preserves Gathers (forgetPad outside id) := by
  unfold forgetPad
  refine Preserves.bind (preserves_modify fun broker => ?_) fun _ broker => ?_
  · exact ⟨rfl, List.filter_sublist.subset, rfl, rfl, rfl, rfl,
      fun reached => reached_step reached (.remove id)⟩
  · exact (emitMapped_idles outside _ broker).imp
      (fun _ _ idles => idles.plays.gathers)
      (fun _ _ idles => idles.plays.gathers)

theorem elapsed_idles : Preserves Idles (elapsed outside) := by
  unfold elapsed
  refine ask_idles.bind fun question => ?_
  dsimp only
  split
  · exact preserves_pure _
  · exact preserves_throw _

theorem keyboardEnabled_idles :
    Preserves Idles (keyboardEnabled outside) := by
  unfold keyboardEnabled
  refine preserves_get.bind fun broker => ?_
  split
  · exact sessionHasFocus_idles outside
  · exact preserves_pure _

/-- Computing the signals of a poll keeps the owner, and every signal can come
up under it. -/
theorem gather_meets
    {broker : Broker}
    (settled : Settled broker) :
    Meets (gather outside)
      (fun signals after => Gathers broker after ∧
        ∀ signal ∈ signals, Emittable broker.state.owner signal)
      (fun _ after => Gathers broker after) broker := by
  unfold gather
  rw [meets_bind]
  refine (elapsed_idles outside broker).imp ?_
    (fun _ _ idles => idles.plays.gathers)
  intro now timed idles
  rw [meets_bind]
  refine (keyboardEnabled_idles outside timed).imp ?_
    (fun _ _ idles' => (trans_of Idles idles idles').plays.gathers)
  intro enabled ready idles'
  have plays := (trans_of Idles idles idles').plays
  rw [meets_bind, meets_get, meets_bind]
  refine (pollPads_meets outside now enabled ready.pads ready).imp ?_
    (fun _ _ plays' => (trans_of Plays plays plays').gathers)
  rintro polled played ⟨plays', emittable⟩
  have gathered := (trans_of Plays plays plays').gathers
  rw [meets_bind]
  refine (preserves_forM (forgetPad_gathers outside) polled.2 played).imp ?_
    (fun _ _ gathers => trans_of Gathers gathered gathers)
  intro _ forgotten gathers
  have gathered' := trans_of Gathers gathered gathers
  rw [meets_bind]
  refine (ask_idles forgotten).imp ?_
    (fun _ _ idles'' => trans_of Gathers gathered' idles''.plays.gathers)
  intro question asked idles''
  have gathered'' := trans_of Gathers gathered' idles''.plays.gathers
  have ticked : Gathers asked { asked with
      state := (asked.state.tick (outside.order question) now).1 } :=
    ⟨rfl, List.Subset.refl _, rfl, rfl, rfl, rfl,
      fun reached =>
        reached_step reached (.tick (outside.order question) now)⟩
  dsimp only
  rw [meets_bind, meets_get, meets_bind, meets_modify, meets_pure]
  refine ⟨trans_of Gathers gathered'' ticked, ?_⟩
  intro signal member
  rcases List.mem_append.mp member with early | late
  · exact plays.owner ▸ emittable signal early
  · obtain ⟨calls, same⟩ := gathered''.reached settled.reached
    rw [same] at late
    have owned : (Ownership.after calls).owner = broker.state.owner := by
      rw [← same]
      exact gathered''.owner
    exact owned ▸ Ownership.tick_emittable calls late

/-! ## The keyboard adapter -/

theorem foldl_remove
    (pads : List OpenPad)
    (state : Ownership) :
    (pads.foldl (fun state pad => state.remove pad.id) state).owner =
        state.owner ∧
      (Reached state →
        Reached (pads.foldl (fun state pad => state.remove pad.id) state)) := by
  induction pads generalizing state with
  | nil => exact ⟨rfl, id⟩
  | cons pad rest inductionHypothesis =>
      obtain ⟨owner, reaches⟩ := inductionHypothesis (state.remove pad.id)
      exact ⟨owner, fun reached =>
        reaches (reached_step reached (.remove pad.id))⟩

/-- Closing every controller keeps the broker settled. -/
theorem Settled.drain
    {broker : Broker}
    (settled : Settled broker) :
    Settled { broker with
      pads := []
      state := broker.pads.foldl (fun state pad => state.remove pad.id)
        broker.state } where
  roles := settled.roles
  ids := settled.ids
  valid := settled.valid
  grabs := by simp
  handedOver := fun running => ⟨rfl, (settled.handedOver running).2⟩
  reached := (foldl_remove _ _).2 settled.reached
  holder := settled.holder
  owner := by
    rw [(foldl_remove _ _).1]
    exact settled.owner.congr rfl rfl rfl

/-- The adapter may start when no controller is open and nothing is
captured. -/
theorem Wired.startKeyboard
    {broker : Broker}
    (wired : Wired broker)
    (noPads : broker.pads = [])
    (uncaptured : broker.capture = none)
    (program : String) :
    Wired { broker with keyboard := some program } where
  roles := wired.roles
  ids := wired.ids
  valid := wired.valid
  grabs := wired.grabs
  handedOver := fun _ => ⟨noPads, uncaptured⟩
  reached := wired.reached
  holder := wired.holder

section Failures

variable
  {allowed : Queued → Prop}
  (failures : ∀ (broker : Broker) client reason,
    allowed (broker.entry client (.failed reason)))

/-- Handing over to the adapter leaves no controller behind.  A failure leaves
the broker wired, with whatever part of the hand-over was done. -/
theorem handOver_meets
    {broker : Broker}
    (settled : Settled broker)
    (uncaptured : broker.capture = none) :
    Meets (handOver outside)
      (fun _ after => Settled after ∧ Moves allowed broker after)
      (fun _ after => Wired after ∧ Moves allowed broker after) broker := by
  unfold handOver
  cases outside.adapter with
  | none => exact ⟨settled.toWired, refl_of (Moves allowed) broker⟩
  | some program =>
      dsimp only
      rw [meets_bind]
      refine (setActive_idles outside false broker).imp ?_
        (fun _ _ idles => ⟨settled.toWired.keeps idles.keeps,
          idles.keeps.moves allowed⟩)
      intro _ silent idles
      rw [meets_bind]
      refine (release_uncaptured outside
        (idles.capture.trans uncaptured)).imp ?_ (fun _ _ never => never.elim)
      intro _ freed idles'
      have idled := trans_of Idles idles idles'
      have drained := (settled.idles idled).drain
      have freeing := idled.keeps.moves allowed
      have moved : Moves allowed broker { freed with
          pads := []
          state := freed.pads.foldl (fun state pad => state.remove pad.id)
            freed.state } :=
        ⟨freeing.clients, freeing.capture, freeing.queued⟩
      rw [meets_bind, meets_modify, meets_bind]
      refine (orError_idles outside _).imp ?_ ?_
      · intro _ spawned idles''
        have moved' := trans_of (Moves allowed) moved
          (idles''.keeps.moves allowed)
        have started := (drained.idles idles'').toWired.startKeyboard
          idles''.pads (idles''.capture.trans
            (idled.capture.trans uncaptured)) program
        have moved'' : Moves allowed broker
            { spawned with keyboard := some program } :=
          ⟨moved'.clients, moved'.capture, moved'.queued⟩
        rw [meets_bind, meets_modify]
        refine (reconcile_meets outside _).imp ?_ ?_
        · rintro _ after ⟨keeps, fits⟩
          exact ⟨⟨started.keeps keeps, fits⟩,
            trans_of (Moves allowed) moved'' (keeps.moves allowed)⟩
        · intro _ after keeps
          exact ⟨started.keeps keeps,
            trans_of (Moves allowed) moved'' (keeps.moves allowed)⟩
      · intro _ spawned idles''
        exact ⟨(drained.idles idles'').toWired,
          trans_of (Moves allowed) moved (idles''.keeps.moves allowed)⟩

include failures

/-- Opening the keyboard keeps the invariant, also when the hand-over fails
halfway. -/
theorem openKeyboard_meets
    {broker : Broker}
    (settled : Settled broker)
    (uncaptured : broker.capture = none) :
    Meets (openKeyboard outside)
      (fun _ after => Settled after ∧ Moves allowed broker after)
      (fun _ after => Moves allowed broker after) broker := by
  unfold openKeyboard
  rw [meets_tryCatch]
  refine (handOver_meets outside settled uncaptured).imp
    (fun _ _ done => done) ?_
  rintro error failed ⟨wired, moves⟩
  rw [meets_bind, meets_get, meets_bind]
  refine (meets_forM
    (fun client => send outside client.id (.failed error))
    (fun after => Wired after ∧ Moves allowed broker after)
    (fun _ after => Moves allowed broker after) failed.clients ?_
    ⟨wired, moves⟩).imp ?_ (fun _ _ moves' => moves')
  · rintro client _ middle ⟨wiredAt, moves'⟩
    refine (send_meets outside wiredAt client.id (.failed error) allowed
      fun other _ _ => failures middle other error).imp ?_ ?_
    · rintro _ after ⟨wiredAfter, _, moves'', _⟩
      exact ⟨wiredAfter, trans_of (Moves allowed) moves' moves''⟩
    · intro _ after moves''
      exact trans_of (Moves allowed) moves' moves''
  · rintro _ told ⟨wiredAt, moves'⟩
    refine (reconcile_meets outside told).imp ?_ ?_
    · rintro _ after ⟨keeps, fits⟩
      exact ⟨⟨wiredAt.keeps keeps, fits⟩,
        trans_of (Moves allowed) moves' (keeps.moves allowed)⟩
    · intro _ after keeps
      exact trans_of (Moves allowed) moves' (keeps.moves allowed)

end Failures

end Broker

/-! ## Where actions go -/

namespace Queued

/-- `Ready` goes to a client that asked for capture only while it holds the
capture. -/
def Acknowledged (entry : Queued) : Prop :=
  entry.event = .ready →
  entry.client.hello.delivery = .overlay →
    entry.capture = some entry.client.id

/-- The overlay toggle goes to the overlay.  Any other action goes, while no
keyboard adapter runs, to the client that holds the capture, or without a
capture to a frontend that asked for navigation, or for text entry if the
action is Back. -/
def Routed (entry : Queued) : Prop :=
  ∀ action, entry.event = .action action →
    (action = .toggleOverlay → entry.client.hello.role = .overlay) ∧
    (action ≠ .toggleOverlay →
      entry.keyboard = false ∧
        (entry.capture = some entry.client.id ∧
            entry.client.hello.role = .overlay ∧
            entry.client.hello.delivery = .overlay ∨
          entry.capture = none ∧
            entry.client.hello.role = .frontend ∧
            (entry.client.hello.delivery = .frontend ∨
              entry.client.hello.delivery = .textEntry ∧ action = .back)))

/-- The entry is acknowledged and routed as it should be, and an action in it
was queued under the given owner. -/
structure Delivered (owner : Owner) (entry : Queued) : Prop where
  acknowledged : entry.Acknowledged
  routed : entry.Routed
  owned : ∀ action, entry.event = .action action → entry.owner = owner

end Queued

namespace Broker

variable (outside : Outside)

theorem delivered_failed
    (owner : Owner)
    (broker : Broker)
    (client : Client)
    (reason : String) :
    Queued.Delivered owner (broker.entry client (.failed reason)) where
  acknowledged := fun isReady => by cases isReady
  routed := fun _ isAction => by cases isAction
  owned := fun _ isAction => by cases isAction

/-- Two clients of one role are the same client. -/
theorem Loose.eq_of_role
    {broker : Broker}
    (loose : Loose broker)
    {first second : Client}
    (firstMember : first ∈ broker.clients)
    (secondMember : second ∈ broker.clients)
    (same : first.hello.role = second.hello.role) :
    first = second :=
  List.inj_on_of_nodup_map loose.roles firstMember secondMember same

/-- Two clients of one identifier are the same client. -/
theorem Loose.eq_of_id
    {broker : Broker}
    (loose : Loose broker)
    {first second : Client}
    (firstMember : first ∈ broker.clients)
    (secondMember : second ∈ broker.clients)
    (same : first.id = second.id) :
    first = second :=
  List.inj_on_of_nodup_map loose.ids firstMember secondMember same

/-- An action that can come up under the owner may be queued for the client
that `Broker::deliver` picks. -/
theorem Settled.routes
    {broker : Broker}
    (settled : Settled broker)
    {action : Action}
    (emittable : Emittable broker.state.owner (.action action))
    {role : Role}
    (picked : role = if action = .toggleOverlay ∨ broker.capture.isSome
      then .overlay else .frontend)
    {client : Client}
    (found : (broker.clients.find? fun client =>
      client.hello.role = role) = some client) :
    (broker.entry client (.action action)).Routed := by
  have member := List.mem_of_find?_eq_some found
  have hasRole : client.hello.role = role := by
    simpa using List.find?_some found
  intro taken isAction
  cases isAction
  refine ⟨?_, ?_⟩
  · intro toggles
    rw [show (broker.entry client (.action action)).client = client from rfl,
      hasRole, picked, if_pos (Or.inl toggles)]
  · intro notToggle
    have owned : broker.state.owner = .frontend ∨
        broker.state.owner = .overlay ∨
        (broker.state.owner = .textEntry ∧ action = .back) :=
      emittable.resolve_left notToggle
    have noKeyboard : broker.keyboard.isSome = false := by
      cases running : broker.keyboard.isSome with
      | false => rfl
      | true =>
          have isKeyboard := settled.owner.keyboard.mpr running
          rw [isKeyboard] at owned
          simp at owned
    refine ⟨noKeyboard, ?_⟩
    cases captured : broker.capture with
    | some id =>
        left
        obtain ⟨holder, isClient, sameId, asked⟩ :=
          settled.holder id captured
        have holderRole := Hello.role_of_overlay_delivery
          (settled.valid holder isClient) asked
        have clientRole : client.hello.role = .overlay := by
          rw [hasRole, picked, if_pos (Or.inr (by simp [captured]))]
        have same := settled.eq_of_role isClient member
          (holderRole.trans clientRole.symm)
        subst same
        exact ⟨captured.trans (congrArg some sameId.symm), clientRole, asked⟩
    | none =>
        right
        have clientRole : role = .frontend := by
          rw [picked, if_neg (by simp [notToggle, captured])]
        have delivery : broker.frontendDelivery =
            some client.hello.delivery := by
          rw [clientRole] at found
          rw [frontendDelivery, found]
          rfl
        have notOverlay : broker.state.owner ≠ .overlay := by
          intro isOverlay
          have isCaptured := (settled.owner.overlay.mp isOverlay).2
          simp [captured] at isCaptured
        refine ⟨captured, hasRole.trans clientRole, ?_⟩
        rcases owned with isFrontend | isOverlay | ⟨isText, isBack⟩
        · have asked := settled.owner.frontend isFrontend
          rw [delivery] at asked
          exact Or.inl (Option.some.inj asked)
        · exact absurd isOverlay notOverlay
        · have asked := settled.owner.textEntry isText
          rw [delivery] at asked
          exact Or.inr ⟨Option.some.inj asked, isBack⟩

/-- Delivering a signal that can come up under the owner keeps the invariant
and routes the action. -/
theorem deliver_meets
    {broker : Broker}
    (settled : Settled broker)
    {signal : Signal}
    (emittable : Emittable broker.state.owner signal) :
    Meets (deliver outside signal)
      (fun _ after => Settled after ∧
        Moves (Queued.Delivered broker.state.owner) broker after)
      (fun _ after => Moves (Queued.Delivered broker.state.owner) broker after)
      broker := by
  cases signal with
  | keyboard =>
      refine openKeyboard_meets outside (delivered_failed _) settled ?_
      -- Only observing owners ask for the keyboard, and they have no capture.
      cases captured : broker.capture with
      | none => rfl
      | some id =>
          have noKeyboard : broker.keyboard.isSome = false := by
            cases running : broker.keyboard.isSome with
            | false => rfl
            | true =>
                have free := (settled.handedOver running).2
                rw [captured] at free
                cases free
          have isOverlay := settled.owner.overlay.mpr
            ⟨noKeyboard, by simp [captured]⟩
          rw [isOverlay] at emittable
          simp [Emittable] at emittable
  | action action =>
      unfold deliver
      rw [meets_bind, meets_get]
      dsimp only
      generalize picked : (if action = .toggleOverlay ∨
        broker.capture.isSome = true then Role.overlay else .frontend) = role
      cases found : broker.clients.find? fun client =>
          client.hello.role = role with
      | none => exact ⟨settled, refl_of (Moves _) broker⟩
      | some client =>
          have routed := settled.routes emittable picked.symm found
          have member := List.mem_of_find?_eq_some found
          refine (send_meets outside settled.toWired client.id
            (.action action) (Queued.Delivered broker.state.owner) ?_).imp ?_
            (fun _ _ moves => moves)
          · intro other isClient sameId
            rw [settled.eq_of_id isClient member sameId]
            exact ⟨fun isReady => (by cases isReady), routed, fun _ _ => rfl⟩
          · rintro _ after ⟨_, settles, moves, _⟩
            exact ⟨settles settled.owner, moves⟩

/-- The signals of one poll are delivered under the owner they were computed
under, or not at all. -/
theorem deliverAll_meets
    {broker : Broker}
    (settled : Settled broker)
    (signals : List Signal)
    (emittable : ∀ signal ∈ signals, Emittable broker.state.owner signal) :
    Meets (deliverAll outside signals)
      (fun _ after => Settled after ∧
        Moves (Queued.Delivered broker.state.owner) broker after)
      (fun _ after => Moves (Queued.Delivered broker.state.owner) broker after)
      broker := by
  induction signals generalizing broker with
  | nil => exact ⟨settled, refl_of (Moves _) broker⟩
  | cons signal rest inductionHypothesis =>
      unfold deliverAll
      rw [meets_bind, meets_get, meets_bind]
      refine (deliver_meets outside settled
        (emittable signal (by simp))).imp ?_ (fun _ _ moves => moves)
      rintro _ middle ⟨settledAt, moves⟩
      rw [meets_bind, meets_get]
      split
      · exact ⟨settledAt, moves⟩
      · rename_i same
        have owned : middle.state.owner = broker.state.owner :=
          not_not.mp same
        rw [← owned] at moves emittable ⊢
        refine (inductionHypothesis settledAt fun later member =>
          emittable later (by simp [member])).imp ?_ ?_
        · rintro _ after ⟨settledAfter, moves'⟩
          exact ⟨settledAfter, trans_of (Moves _) moves moves'⟩
        · intro _ after moves'
          exact trans_of (Moves _) moves moves'

theorem movePointer_idles : Preserves Idles (movePointer outside) := by
  unfold movePointer
  refine ask_idles.bind fun question => preserves_get.bind fun broker => ?_
  dsimp only
  split
  · refine ask_idles.bind fun question => ?_
    refine Preserves.bind (preserves_modify fun _ => ?_) fun _ =>
      emit_idles outside _
    exact ⟨rfl, rfl, rfl, rfl, rfl, rfl⟩
  · exact preserves_pure _

/-- A poll from this state computes its signals under the owner, the one its
first reconciliation leaves. -/
def ComputesUnder (broker : Broker) (owner : Owner) : Prop :=
  ∀ reconciled, reconcile outside broker = .ok ⟨⟩ reconciled →
    reconciled.state.owner = owner

theorem exists_computesUnder (broker : Broker) :
    ∃ owner, ComputesUnder outside broker owner := by
  cases outcome : reconcile outside broker with
  | ok value reconciled =>
      refine ⟨reconciled.state.owner, ?_⟩
      intro other same
      rw [outcome] at same
      cases same
      rfl
  | error error failed =>
      refine ⟨.observe, ?_⟩
      intro other same
      rw [outcome] at same
      cases same

/-- The broker stays wired when the adapter has exited. -/
theorem Wired.endKeyboard
    {broker : Broker}
    (wired : Wired broker) :
    Wired { broker with keyboard := none } where
  roles := wired.roles
  ids := wired.ids
  valid := wired.valid
  grabs := wired.grabs
  handedOver := fun running => by cases running
  reached := wired.reached
  holder := wired.holder

/-- While the adapter runs, a poll waits for it to exit and takes the
controllers back. -/
theorem takeBack_meets
    {broker : Broker}
    (settled : Settled broker)
    {allowed : Queued → Prop}
    (failures : ∀ (broker : Broker) client reason,
      allowed (broker.entry client (.failed reason))) :
    Meets
      (do
        orError outside
        if outside.exited (← ask) then
          modify fun broker => { broker with keyboard := none }
          reconcile outside
          scan outside)
      (fun _ after => Settled after ∧ Moves allowed broker after)
      (fun _ after => Moves allowed broker after) broker := by
  rw [meets_bind]
  refine (orError_idles outside broker).imp ?_
    (fun _ _ idles => idles.keeps.moves allowed)
  intro _ waited idles
  rw [meets_bind]
  refine (ask_idles waited).imp ?_
    (fun _ _ idles' => (trans_of Idles idles idles').keeps.moves allowed)
  intro question asked idles'
  have idled := trans_of Idles idles idles'
  have moved := idled.keeps.moves allowed
  split
  · have wired := (settled.idles idled).toWired.endKeyboard
    have ended : Moves allowed broker { asked with keyboard := none } :=
      ⟨moved.clients, moved.capture, moved.queued⟩
    rw [meets_bind, meets_modify, meets_bind]
    refine (reconcile_meets outside _).imp ?_
      (fun _ _ keeps => trans_of (Moves allowed) ended (keeps.moves allowed))
    rintro _ settledAt ⟨keeps, fits⟩
    have moved' := trans_of (Moves allowed) ended (keeps.moves allowed)
    refine (scan_meets outside failures ⟨wired.keeps keeps, fits⟩).imp ?_
      (fun _ _ moves => trans_of (Moves allowed) moved' moves)
    rintro _ after ⟨settledAfter, moves⟩
    exact ⟨settledAfter, trans_of (Moves allowed) moved' moves⟩
  · exact ⟨settled.idles idled, moved⟩

/-- A poll keeps the invariant, and whatever it queues is routed and was
computed under the owner it is queued under. -/
theorem poll_meets
    {broker : Broker}
    (settled : Settled broker)
    {owner : Owner}
    (computes : ComputesUnder outside broker owner) :
    Meets (poll outside)
      (fun _ after => Settled after ∧
        Moves (Queued.Delivered owner) broker after)
      (fun _ after => Moves (Queued.Delivered owner) broker after) broker := by
  unfold poll
  rw [meets_bind]
  refine (reconcile_meets outside broker).result.imp ?_
    (fun _ _ keeps => keeps.moves _)
  rintro ⟨⟩ reconciled ⟨⟨keeps, fits⟩, ran⟩
  have settledAt : Settled reconciled := ⟨settled.toWired.keeps keeps, fits⟩
  have moved := keeps.moves (Queued.Delivered owner)
  have owned := computes reconciled ran
  rw [meets_bind, meets_get]
  split
  · refine (takeBack_meets outside settledAt (delivered_failed owner)).imp ?_
      (fun _ _ moves => trans_of (Moves _) moved moves)
    rintro _ after ⟨settledAfter, moves⟩
    exact ⟨settledAfter, trans_of (Moves _) moved moves⟩
  · rw [meets_bind]
    refine (gather_meets outside settledAt).imp ?_
      (fun _ _ gathers => trans_of (Moves _) moved (gathers.moves _))
    rintro signals gathered ⟨gathers, emittable⟩
    have moved' := trans_of (Moves _) moved
      (gathers.moves (Queued.Delivered owner))
    have owned' : gathered.state.owner = owner := gathers.owner.trans owned
    rw [owned, ← owned'] at emittable
    rw [meets_bind]
    refine (deliverAll_meets outside (settledAt.gathers gathers) signals
      emittable).imp ?_ ?_
    · rintro _ delivered ⟨settledAfter, moves⟩
      rw [owned'] at moves
      have moved'' := trans_of (Moves _) moved' moves
      refine (movePointer_idles outside delivered).imp ?_ ?_
      · intro _ after idles
        exact ⟨settledAfter.idles idles,
          trans_of (Moves _) moved'' (idles.keeps.moves _)⟩
      · intro _ after idles
        exact trans_of (Moves _) moved'' (idles.keeps.moves _)
    · intro _ delivered moves
      rw [owned'] at moves
      exact trans_of (Moves _) moved' moves

end Broker
end Input
end Hearthdeck
