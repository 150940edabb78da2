import Hearthdeck.Input.Broker
import Hearthdeck.Input.OnePad

/-!
# The wiring of the broker

The broker's invariant: one client per role, a capture that belongs to a
connected overlay, grabs that agree with the capture, no controllers while the
keyboard adapter runs, and an owner that agrees with all of this.  One lemma
per method says how the invariant moves through it, whether the method returns
or fails.
-/

namespace Hearthdeck
namespace Input
namespace Broker

open Foundation Effect Protocol

/-! ## What methods leave alone -/

/-- Only the mapper, the virtual device, the counters and the session
settings may differ. -/
structure Idles (before after : Broker) : Prop where
  clients : after.clients = before.clients
  pads : after.pads = before.pads
  capture : after.capture = before.capture
  keyboard : after.keyboard = before.keyboard
  queued : after.queued = before.queued
  state : after.state = before.state

instance : IsPreorder Broker Idles where
  refl _ := ⟨rfl, rfl, rfl, rfl, rfl, rfl⟩
  trans _ _ _ first second :=
    ⟨second.clients.trans first.clients, second.pads.trans first.pads,
      second.capture.trans first.capture,
      second.keyboard.trans first.keyboard,
      second.queued.trans first.queued, second.state.trans first.state⟩

/-- The ownership state is one that calls of its interface lead to. -/
def Reached (state : Ownership) : Prop :=
  ∃ calls, state = Ownership.after calls

theorem reached_step
    {state : Ownership}
    (reached : Reached state)
    (call : Ownership.Call) :
    Reached (state.step call).1 := by
  obtain ⟨calls, rfl⟩ := reached
  exact ⟨calls ++ [call], (Ownership.after_concat calls call).symm⟩

variable (outside : Outside)

theorem ask_idles : Preserves Idles ask := by
  intro broker
  exact ⟨rfl, rfl, rfl, rfl, rfl, rfl⟩

theorem orFail_idles (context : String) :
    Preserves Idles (orFail outside context) := by
  unfold orFail
  refine ask_idles.bind fun question => ?_
  cases outside.failure question with
  | none => exact preserves_pure _
  | some error => exact preserves_throw _

theorem orError_idles : Preserves Idles (orError outside) := by
  unfold orError
  refine ask_idles.bind fun question => ?_
  cases outside.failure question with
  | none => exact preserves_pure _
  | some error => exact preserves_throw _

theorem emit_idles (events : List OutputEvent) :
    Preserves Idles (emit outside events) := by
  unfold emit
  split
  · refine (orFail_idles outside _).bind fun _ => preserves_modify fun _ => ?_
    exact ⟨rfl, rfl, rfl, rfl, rfl, rfl⟩
  · exact preserves_pure _

theorem emitMapped_idles
    (call : HashOrder → Mapper → Mapper × List OutputEvent) :
    Preserves Idles (emitMapped outside call) := by
  unfold emitMapped
  refine ask_idles.bind fun question => ?_
  refine preserves_get.bind fun broker => ?_
  refine Preserves.bind (preserves_modify fun _ => ?_) fun _ => emit_idles _ _
  exact ⟨rfl, rfl, rfl, rfl, rfl, rfl⟩

theorem setActive_idles (active : Bool) :
    Preserves Idles (setActive outside active) :=
  emitMapped_idles outside _

theorem sessionHasFocus_idles : Preserves Idles (sessionHasFocus outside) := by
  unfold sessionHasFocus
  refine ask_idles.bind fun question => ?_
  exact preserves_get.bind fun broker => preserves_pure _

/-! ## The owner -/

/-- The clients, pads, capture, keyboard and log are the same, and the
ownership state is still one its interface leads to. -/
structure Keeps (before after : Broker) : Prop where
  clients : after.clients = before.clients
  pads : after.pads = before.pads
  capture : after.capture = before.capture
  keyboard : after.keyboard = before.keyboard
  queued : after.queued = before.queued
  reached : Reached before.state → Reached after.state

instance : IsPreorder Broker Keeps where
  refl _ := ⟨rfl, rfl, rfl, rfl, rfl, id⟩
  trans _ _ _ first second :=
    ⟨second.clients.trans first.clients, second.pads.trans first.pads,
      second.capture.trans first.capture,
      second.keyboard.trans first.keyboard,
      second.queued.trans first.queued,
      fun reached => second.reached (first.reached reached)⟩

theorem Idles.keeps
    {before after : Broker}
    (idles : Idles before after) :
    Keeps before after :=
  ⟨idles.clients, idles.pads, idles.capture, idles.keyboard, idles.queued,
    fun reached => idles.state ▸ reached⟩

/-- The owner goes with the keyboard, the capture and the delivery the
frontend asked for. -/
structure Fits (broker : Broker) (owner : Owner) : Prop where
  overlay : owner = .overlay ↔
    broker.keyboard.isSome = false ∧ broker.capture.isSome = true
  keyboard : owner = .keyboard ↔ broker.keyboard.isSome = true
  frontend : owner = .frontend → broker.frontendDelivery = some .frontend
  textEntry : owner = .textEntry → broker.frontendDelivery = some .textEntry

theorem Fits.congr
    {first second : Broker}
    {owner : Owner}
    (fits : Fits first owner)
    (clients : second.clients = first.clients)
    (capture : second.capture = first.capture)
    (keyboard : second.keyboard = first.keyboard) :
    Fits second owner := by
  have delivery : second.frontendDelivery = first.frontendDelivery := by
    rw [frontendDelivery, clients]
    rfl
  refine ⟨?_, ?_, ?_, ?_⟩
  · rw [keyboard, capture]
    exact fits.overlay
  · rw [keyboard]
    exact fits.keyboard
  · rw [delivery]
    exact fits.frontend
  · rw [delivery]
    exact fits.textEntry

theorem decideOwner_meets (broker : Broker) :
    Meets (decideOwner outside)
      (fun owner after => Idles broker after ∧ Fits broker owner)
      (fun _ after => Idles broker after) broker := by
  have same : Idles broker broker := refl_of Idles broker
  unfold decideOwner
  rw [meets_bind, meets_get]
  cases keyboard : broker.keyboard.isSome with
  | true =>
      refine ⟨same, ?_, ?_, ?_, ?_⟩ <;> simp [keyboard]
  | false =>
      cases capture : broker.capture.isSome with
      | true =>
          refine ⟨same, ?_, ?_, ?_, ?_⟩ <;> simp [keyboard, capture]
      | false =>
          have elsewhere : ∀ owner : Owner,
              owner = .observe ∨ owner = .desktop → Fits broker owner := by
            rintro owner (rfl | rfl) <;>
              exact ⟨by simp [capture], by simp [keyboard], by simp, by simp⟩
          have unfocused : Meets
              (if broker.mode.profile = .desktop then do
                  if ← sessionHasFocus outside then pure .desktop
                  else pure .observe
                else pure .observe : Method Owner)
              (fun owner after => Idles broker after ∧ Fits broker owner)
              (fun _ after => Idles broker after) broker := by
            split
            · rw [meets_bind]
              refine (sessionHasFocus_idles outside broker).imp ?_
                (fun _ _ idles => idles)
              intro focused after idles
              cases focused with
              | true => exact ⟨idles, elsewhere _ (Or.inr rfl)⟩
              | false => exact ⟨idles, elsewhere _ (Or.inl rfl)⟩
            · exact ⟨same, elsewhere _ (Or.inl rfl)⟩
          cases delivery : broker.frontendDelivery with
          | none => exact unfocused
          | some delivered =>
              cases delivered with
              | frontend =>
                  refine ⟨same, ?_, ?_, ?_, ?_⟩ <;>
                    simp [keyboard, capture, delivery]
              | textEntry =>
                  refine ⟨same, ?_, ?_, ?_, ?_⟩ <;>
                    simp [keyboard, capture, delivery]
              | handoff => exact ⟨same, elsewhere _ (Or.inl rfl)⟩
              | observe => exact unfocused
              | overlay => exact unfocused

theorem setOwner_owner
    (state : Ownership)
    (owner : Owner) :
    (state.setOwner owner).owner = owner := by
  unfold Ownership.setOwner
  split
  · rfl
  · rename_i same
    simpa using same

/-- Reconciling changes the owner only, to one that fits. -/
theorem reconcile_meets (broker : Broker) :
    Meets (reconcile outside)
      (fun _ after => Keeps broker after ∧ Fits after after.state.owner)
      (fun _ after => Keeps broker after) broker := by
  unfold reconcile
  rw [meets_bind]
  refine (decideOwner_meets outside broker).imp ?_
    (fun _ _ idles => idles.keeps)
  rintro owner decided ⟨idles, fits⟩
  -- Whatever happens to the owner, the mapper is switched last.
  have switch : ∀ middle, Keeps broker middle → middle.state.owner = owner →
      Meets (setActive outside (decide (owner = .desktop)))
        (fun _ after => Keeps broker after ∧ Fits after after.state.owner)
        (fun _ after => Keeps broker after) middle := by
    intro middle keeps owned
    refine (setActive_idles outside _ middle).imp ?_ ?_
    · intro _ after idles
      have kept : Keeps broker after := trans_of Keeps keeps idles.keeps
      refine ⟨kept, ?_⟩
      rw [idles.state, owned]
      exact fits.congr kept.clients kept.capture kept.keyboard
    · intro _ after idles
      exact trans_of Keeps keeps idles.keeps
  rw [meets_bind, meets_get]
  dsimp only
  split
  · rw [meets_bind]
    refine (setActive_idles outside false decided).imp ?_ ?_
    · intro _ silent idles'
      rw [meets_bind, meets_modify]
      have keeps : Keeps broker silent :=
        trans_of Keeps idles.keeps idles'.keeps
      refine switch _ ⟨keeps.clients, keeps.pads, keeps.capture,
        keeps.keyboard, keeps.queued, ?_⟩ (setOwner_owner _ _)
      intro reached
      exact reached_step (keeps.reached reached) (.setOwner owner)
    · intro _ silent idles'
      exact trans_of Keeps idles.keeps idles'.keeps
  · rename_i same
    refine switch decided idles.keeps ?_
    simpa using (not_not.mp same).symm

/-! ## The invariant -/

/-- What holds even while a client that held the capture is being removed. -/
structure Loose (broker : Broker) : Prop where
  roles : (broker.clients.map fun client => client.hello.role).Nodup
  ids : (broker.clients.map fun client => client.id).Nodup
  valid : ∀ client ∈ broker.clients, client.hello.valid = true
  grabs : ∀ pad ∈ broker.pads, pad.grabbed = broker.capture.isSome
  handedOver : broker.keyboard.isSome = true →
    broker.pads = [] ∧ broker.capture = none
  reached : Reached broker.state

/-- What holds whenever no method is in the middle of changing the capture:
the capture belongs to a connected client that asked for it. -/
structure Wired (broker : Broker) : Prop extends Loose broker where
  holder : ∀ id, broker.capture = some id →
    ∃ client ∈ broker.clients, client.id = id ∧
      client.hello.delivery = .overlay

/-- What holds between two turns of the event loop. -/
structure Settled (broker : Broker) : Prop extends Wired broker where
  owner : Fits broker broker.state.owner

theorem Loose.keeps
    {before after : Broker}
    (loose : Loose before)
    (keeps : Keeps before after) :
    Loose after where
  roles := keeps.clients ▸ loose.roles
  ids := keeps.clients ▸ loose.ids
  valid := keeps.clients ▸ loose.valid
  grabs := keeps.pads ▸ keeps.capture ▸ loose.grabs
  handedOver := keeps.pads ▸ keeps.capture ▸ keeps.keyboard ▸ loose.handedOver
  reached := keeps.reached loose.reached

theorem Wired.keeps
    {before after : Broker}
    (wired : Wired before)
    (keeps : Keeps before after) :
    Wired after where
  toLoose := wired.toLoose.keeps keeps
  holder := keeps.clients ▸ keeps.capture ▸ wired.holder

theorem Settled.idles
    {before after : Broker}
    (settled : Settled before)
    (idles : Idles before after) :
    Settled after where
  toWired := settled.toWired.keeps idles.keeps
  owner := idles.state ▸
    settled.owner.congr idles.clients idles.capture idles.keyboard

/-- Only allowed events are queued. -/
def Logs (allowed : Queued → Prop) (before after : Broker) : Prop :=
  ∃ new, after.queued = before.queued ++ new ∧ ∀ entry ∈ new, allowed entry

instance (allowed : Queued → Prop) : IsPreorder Broker (Logs allowed) where
  refl _ := ⟨[], by simp, by simp⟩
  trans _ _ _ first second := by
    obtain ⟨earlier, split, allowedEarlier⟩ := first
    obtain ⟨later, split', allowedLater⟩ := second
    refine ⟨earlier ++ later, by rw [split', split, List.append_assoc], ?_⟩
    intro entry member
    rcases List.mem_append.mp member with inEarlier | inLater
    · exact allowedEarlier entry inEarlier
    · exact allowedLater entry inLater

/-- Clients and captures are only lost, and only allowed events are
queued. -/
structure Moves
    (allowed : Queued → Prop)
    (before after : Broker) : Prop where
  clients : after.clients ⊆ before.clients
  capture : after.capture = none ∨ after.capture = before.capture
  queued : Logs allowed before after

instance (allowed : Queued → Prop) : IsPreorder Broker (Moves allowed) where
  refl _ := ⟨List.Subset.refl _, Or.inr rfl, refl_of (Logs allowed) _⟩
  trans _ _ _ first second := by
    refine ⟨List.Subset.trans second.clients first.clients, ?_,
      trans_of (Logs allowed) first.queued second.queued⟩
    rcases second.capture with gone | same
    · exact Or.inl gone
    · rw [same]
      exact first.capture

theorem Keeps.moves
    {before after : Broker}
    (keeps : Keeps before after)
    (allowed : Queued → Prop) :
    Moves allowed before after :=
  ⟨by rw [keeps.clients]; exact List.Subset.refl _, Or.inr keeps.capture, [],
    by simp [keeps.queued], by simp⟩

/-! ## Grabs -/

section Grabs

variable {Pad : Type}

theorem ungrabAll_meets
    (context : String)
    (release : Pad → Pad)
    (devices : List Pad)
    (broker : Broker) :
    Meets (ungrabAll outside context release devices)
      (fun released after => Idles broker after ∧
        released = devices.map release)
      (fun _ after => Idles broker after) broker := by
  induction devices generalizing broker with
  | nil => exact ⟨refl_of Idles broker, rfl⟩
  | cons device rest inductionHypothesis =>
      unfold ungrabAll
      rw [meets_bind]
      refine (orFail_idles outside context broker).imp ?_
        (fun _ _ idles => idles)
      intro _ middle idles
      rw [meets_bind]
      refine (inductionHypothesis middle).imp ?_ ?_
      · rintro released after ⟨idles', rfl⟩
        exact ⟨trans_of Idles idles idles', rfl⟩
      · intro _ after idles'
        exact trans_of Idles idles idles'

/-- Either every device is grabbed, or those grabbed on the way are released
again. -/
theorem grabAll_meets
    (grab release : Pad → Pad)
    (grabbed devices : List Pad)
    (broker : Broker) :
    Meets (grabAll outside grab release grabbed devices)
      (fun result after => Idles broker after ∧
        (result.2 = none ∧ result.1 = grabbed ++ devices.map grab ∨
          result.2.isSome ∧ ∃ done rest, devices = done ++ rest ∧
            result.1 = (grabbed ++ done.map grab).map release ++ rest))
      (fun _ after => Idles broker after) broker := by
  induction devices generalizing grabbed broker with
  | nil => exact ⟨refl_of Idles broker, Or.inl ⟨rfl, by simp⟩⟩
  | cons device rest inductionHypothesis =>
      unfold grabAll
      rw [meets_bind]
      refine (ask_idles broker).imp ?_ (fun _ _ idles => idles)
      intro question middle idles
      cases outside.failure question with
      | none =>
          refine (inductionHypothesis _ middle).imp ?_ ?_
          · rintro result after ⟨idles', outcome⟩
            refine ⟨trans_of Idles idles idles', ?_⟩
            rcases outcome with ⟨ok, all⟩ | ⟨failed, done, left, split, rolled⟩
            · exact Or.inl ⟨ok, by simp [all]⟩
            · exact Or.inr ⟨failed, device :: done, left, by simp [split],
                by simp [rolled]⟩
          · intro _ after idles'
            exact trans_of Idles idles idles'
      | some error =>
          rw [meets_bind]
          refine (ungrabAll_meets outside _ release grabbed middle).imp ?_ ?_
          · rintro released after ⟨idles', rfl⟩
            exact ⟨trans_of Idles idles idles', Or.inr ⟨rfl, [], device :: rest,
              rfl, by simp⟩⟩
          · intro _ after idles'
            exact trans_of Idles idles idles'

end Grabs

/-- The capture is gone; clients, keyboard, log and ownership are the same. -/
structure Frees (before after : Broker) : Prop where
  clients : after.clients = before.clients
  capture : after.capture = none
  keyboard : after.keyboard = before.keyboard
  queued : after.queued = before.queued
  state : after.state = before.state

theorem Frees.moves
    {before after : Broker}
    (frees : Frees before after)
    (allowed : Queued → Prop) :
    Moves allowed before after :=
  ⟨by rw [frees.clients]; exact List.Subset.refl _, Or.inl frees.capture, [],
    by simp [frees.queued], by simp⟩

/-- Releasing a capture ends it and releases every grab. -/
theorem release_meets
    {broker : Broker}
    (loose : Loose broker) :
    Meets (release outside)
      (fun _ after => Frees broker after ∧ Wired after)
      (fun _ after => Frees broker after) broker := by
  unfold release
  rw [meets_bind, meets_get, meets_bind, meets_modify]
  split
  · rw [meets_bind]
    refine (ungrabAll_meets outside _ _ broker.pads _).imp ?_ ?_
    · rintro pads after ⟨idles, rfl⟩
      rw [meets_modify]
      have frees : Frees broker _ :=
        ⟨idles.clients, idles.capture, idles.keyboard, idles.queued,
          idles.state⟩
      refine ⟨⟨frees.clients, frees.capture, frees.keyboard, frees.queued,
        frees.state⟩, ⟨?_, ?_, ?_, ?_, ?_, ?_⟩, ?_⟩
      · exact idles.clients ▸ loose.roles
      · exact idles.clients ▸ loose.ids
      · exact idles.clients ▸ loose.valid
      · intro pad member
        obtain ⟨old, _, rfl⟩ := List.mem_map.mp member
        simp [frees.capture]
      · intro running
        have before := (loose.handedOver (idles.keyboard ▸ running)).1
        exact ⟨by simp [before], frees.capture⟩
      · exact idles.state ▸ loose.reached
      · intro id captured
        rw [show _ = none from frees.capture] at captured
        cases captured
    · intro _ after idles
      exact ⟨idles.clients, idles.capture, idles.keyboard, idles.queued,
        idles.state⟩
  · rename_i uncaptured
    have none_captured : broker.capture = none := by simpa using uncaptured
    refine ⟨⟨rfl, rfl, rfl, rfl, rfl⟩, ⟨loose.roles, loose.ids, loose.valid,
      ?_, ?_, loose.reached⟩, ?_⟩
    · intro pad member
      rw [loose.grabs pad member, none_captured]
    · intro running
      exact ⟨(loose.handedOver running).1, rfl⟩
    · intro id captured
      cases captured

/-- Without a capture there is nothing to release. -/
theorem release_uncaptured
    {broker : Broker}
    (uncaptured : broker.capture = none) :
    Meets (release outside) (fun _ after => Idles broker after)
      (fun _ _ => False) broker := by
  unfold release
  rw [meets_bind, meets_get, meets_bind, meets_modify, uncaptured]
  exact ⟨rfl, rfl, uncaptured.symm, rfl, rfl, rfl⟩

/-! ## Clients -/

/-- Forgetting clients keeps what is said about each of them. -/
theorem Loose.filter
    {broker : Broker}
    (loose : Loose broker)
    (keep : Client → Bool) :
    Loose { broker with clients := broker.clients.filter keep } where
  roles := loose.roles.sublist (List.filter_sublist.map _)
  ids := loose.ids.sublist (List.filter_sublist.map _)
  valid := fun client member => loose.valid client (List.mem_filter.mp member).1
  grabs := loose.grabs
  handedOver := loose.handedOver
  reached := loose.reached

/-- Disconnecting removes exactly the client, with its capture. -/
theorem disconnect_meets
    {broker : Broker}
    (wired : Wired broker)
    (id : Nat)
    (allowed : Queued → Prop) :
    Meets (disconnect outside id)
      (fun _ after => Settled after ∧ Moves allowed broker after ∧
        after.clients = broker.clients.filter (fun client => client.id ≠ id) ∧
        after.keyboard = broker.keyboard)
      (fun _ after => Moves allowed broker after) broker := by
  unfold disconnect
  rw [meets_bind, meets_modify, meets_bind, meets_get]
  dsimp only
  have loose : Loose { broker with
      clients := broker.clients.filter fun client => client.id ≠ id } :=
    wired.toLoose.filter _
  have removed : Moves allowed broker { broker with
      clients := broker.clients.filter fun client => client.id ≠ id } :=
    ⟨List.filter_sublist.subset, Or.inr rfl, [], by simp, by simp⟩
  -- Reconciling settles whatever the removal has left.
  have settle : ∀ middle, Wired middle → Moves allowed broker middle →
      middle.clients = broker.clients.filter (fun client => client.id ≠ id) →
      middle.keyboard = broker.keyboard →
      Meets (reconcile outside)
        (fun _ after => Settled after ∧ Moves allowed broker after ∧
          after.clients =
            broker.clients.filter (fun client => client.id ≠ id) ∧
          after.keyboard = broker.keyboard)
        (fun _ after => Moves allowed broker after) middle := by
    intro middle isWired moves clients keyboard
    refine (reconcile_meets outside middle).imp ?_ ?_
    · rintro _ after ⟨keeps, fits⟩
      exact ⟨⟨isWired.keeps keeps, fits⟩,
        trans_of (Moves allowed) moves (keeps.moves allowed),
        keeps.clients.trans clients, keeps.keyboard.trans keyboard⟩
    · intro _ after keeps
      exact trans_of (Moves allowed) moves (keeps.moves allowed)
  split
  · rw [meets_bind]
    refine (release_meets outside loose).imp ?_ ?_
    · rintro _ middle ⟨frees, isWired⟩
      exact settle middle isWired
        (trans_of (Moves allowed) removed (frees.moves allowed))
        frees.clients frees.keyboard
    · intro _ middle frees
      exact trans_of (Moves allowed) removed (frees.moves allowed)
  · rename_i other
    refine settle _ ⟨loose, ?_⟩ removed rfl rfl
    intro holder captured
    obtain ⟨client, member, same, asked⟩ := wired.holder holder captured
    refine ⟨client, List.mem_filter.mpr ⟨member, ?_⟩, same, asked⟩
    have different : client.id ≠ id := by
      intro equal
      apply other
      rw [captured, ← same, equal]
    simpa using different

/-- Sending queues the event for the client, or disconnects it. -/
theorem send_meets
    {broker : Broker}
    (wired : Wired broker)
    (id : Nat)
    (event : Event)
    (allowed : Queued → Prop)
    (allows : ∀ client ∈ broker.clients, client.id = id →
      allowed (broker.entry client event)) :
    Meets (send outside id event)
      (fun _ after => Wired after ∧
        (Fits broker broker.state.owner → Settled after) ∧
        Moves allowed broker after ∧ after.keyboard = broker.keyboard)
      (fun _ after => Moves allowed broker after) broker := by
  unfold send
  rw [meets_bind, meets_get]
  cases found : broker.clients.find? fun client => client.id = id with
  | none =>
      exact ⟨wired, fun fits => ⟨wired, fits⟩, refl_of (Moves allowed) broker,
        rfl⟩
  | some client =>
      have member := List.mem_of_find?_eq_some found
      have same : client.id = id := by
        simpa using List.find?_some found
      dsimp only
      rw [meets_bind]
      refine (ask_idles broker).imp ?_
        (fun _ _ idles => idles.keeps.moves allowed)
      intro question asked idles
      have stillWired := wired.keeps idles.keeps
      cases outside.failure question with
      | none =>
          dsimp only
          rw [meets_modify]
          have sameEntry : asked.entry client event =
              broker.entry client event := by
            rw [entry, entry, idles.capture, idles.keyboard, idles.state]
          have queuedWired : Wired { asked with
              queued := asked.queued ++ [asked.entry client event] } :=
            ⟨⟨stillWired.roles, stillWired.ids, stillWired.valid,
              stillWired.grabs, stillWired.handedOver, stillWired.reached⟩,
              stillWired.holder⟩
          refine ⟨queuedWired, fun fits => ⟨queuedWired, ?_⟩, ?_,
            idles.keyboard⟩
          · rw [← idles.state] at fits
            exact fits.congr idles.clients idles.capture idles.keyboard
          · refine ⟨?_, Or.inr idles.capture, [asked.entry client event], ?_,
              ?_⟩
            · rw [show _ = _ from idles.clients]
              exact List.Subset.refl _
            · rw [← idles.queued]
            · intro new isNew
              rw [List.mem_singleton.mp isNew, sameEntry]
              exact allows client member same
      | some error =>
          refine (disconnect_meets outside stillWired id allowed).imp ?_ ?_
          · rintro _ after ⟨settled, moves, _, keyboard⟩
            exact ⟨settled.toWired, fun _ => settled,
              trans_of (Moves allowed) (idles.keeps.moves allowed) moves,
              keyboard.trans idles.keyboard⟩
          · intro _ after moves
            exact trans_of (Moves allowed) (idles.keeps.moves allowed) moves

section Failures

variable
  {allowed : Queued → Prop}
  (failures : ∀ (broker : Broker) client reason,
    allowed (broker.entry client (.failed reason)))

include failures

/-- Revoking ends the capture. -/
theorem revoke_meets
    {broker : Broker}
    (wired : Wired broker)
    (reason : String) :
    Meets (revoke outside reason)
      (fun _ after => Settled after ∧ Moves allowed broker after ∧
        after.capture = none ∧ after.keyboard = broker.keyboard)
      (fun _ after => Moves allowed broker after) broker := by
  unfold revoke
  rw [meets_bind, meets_get, meets_bind]
  refine (release_meets outside wired.toLoose).imp ?_
    (fun _ _ frees => frees.moves allowed)
  rintro _ freed ⟨frees, isWired⟩
  rw [meets_bind]
  refine (reconcile_meets outside freed).imp ?_ ?_
  · rintro _ settledAt ⟨keeps, fits⟩
    have stillWired := isWired.keeps keeps
    have moves : Moves allowed broker settledAt :=
      trans_of (Moves allowed) (frees.moves allowed) (keeps.moves allowed)
    have uncaptured : settledAt.capture = none :=
      keeps.capture.trans frees.capture
    have keyboard := keeps.keyboard.trans frees.keyboard
    cases broker.capture with
    | none => exact ⟨⟨stillWired, fits⟩, moves, uncaptured, keyboard⟩
    | some id =>
        refine (send_meets outside stillWired id (.failed reason) allowed
          fun client _ _ => failures _ client reason).imp ?_ ?_
        · rintro _ after ⟨_, settles, moves', keyboard'⟩
          refine ⟨settles fits, trans_of (Moves allowed) moves moves', ?_,
            keyboard'.trans keyboard⟩
          rcases moves'.capture with gone | same
          · exact gone
          · rw [same, uncaptured]
        · intro _ after moves'
          exact trans_of (Moves allowed) moves moves'
  · intro _ after keeps
    exact trans_of (Moves allowed) (frees.moves allowed) (keeps.moves allowed)

/-- A new device is grabbed exactly when there is a capture afterwards. -/
theorem captureNew_meets
    {broker : Broker}
    (settled : Settled broker) :
    Meets (captureNew outside)
      (fun grabbed after => Settled after ∧ Moves allowed broker after ∧
        grabbed = after.capture.isSome ∧ after.keyboard = broker.keyboard)
      (fun _ after => Moves allowed broker after) broker := by
  unfold captureNew
  rw [meets_bind, meets_get]
  cases captured : broker.capture.isSome with
  | false =>
      exact ⟨settled, refl_of (Moves allowed) broker, captured.symm, rfl⟩
  | true =>
      rw [if_pos rfl, meets_bind]
      refine (ask_idles broker).imp ?_
        (fun _ _ idles => idles.keeps.moves allowed)
      intro question asked idles
      cases outside.failure question with
      | none =>
          exact ⟨settled.idles idles, idles.keeps.moves allowed,
            by rw [idles.capture, captured], idles.keyboard⟩
      | some error =>
          dsimp only
          rw [meets_bind]
          refine (revoke_meets outside failures
            (settled.toWired.keeps idles.keeps) _).imp ?_ ?_
          · rintro _ after ⟨settledAfter, moves, uncaptured, keyboard⟩
            exact ⟨settledAfter,
              trans_of (Moves allowed) (idles.keeps.moves allowed) moves,
              by rw [uncaptured]; rfl, keyboard.trans idles.keyboard⟩
          · intro _ after moves
            exact trans_of (Moves allowed) (idles.keeps.moves allowed) moves

end Failures

/-! ## Controllers -/

/-- Only the ownership state moves, under the same owner. -/
structure Plays (before after : Broker) : Prop where
  clients : after.clients = before.clients
  pads : after.pads = before.pads
  capture : after.capture = before.capture
  keyboard : after.keyboard = before.keyboard
  queued : after.queued = before.queued
  owner : after.state.owner = before.state.owner
  reached : Reached before.state → Reached after.state

instance : IsPreorder Broker Plays where
  refl _ := ⟨rfl, rfl, rfl, rfl, rfl, rfl, id⟩
  trans _ _ _ first second :=
    ⟨second.clients.trans first.clients, second.pads.trans first.pads,
      second.capture.trans first.capture,
      second.keyboard.trans first.keyboard,
      second.queued.trans first.queued, second.owner.trans first.owner,
      fun reached => second.reached (first.reached reached)⟩

theorem Idles.plays
    {before after : Broker}
    (idles : Idles before after) :
    Plays before after :=
  ⟨idles.clients, idles.pads, idles.capture, idles.keyboard, idles.queued,
    by rw [idles.state], fun reached => idles.state ▸ reached⟩

theorem Plays.keeps
    {before after : Broker}
    (plays : Plays before after) :
    Keeps before after :=
  ⟨plays.clients, plays.pads, plays.capture, plays.keyboard, plays.queued,
    plays.reached⟩

theorem Settled.plays
    {before after : Broker}
    (settled : Settled before)
    (plays : Plays before after) :
    Settled after where
  toWired := settled.toWired.keeps plays.keeps
  owner := plays.owner ▸
    settled.owner.congr plays.clients plays.capture plays.keyboard

theorem button_plays
    (id : PadId)
    (control : Control)
    (pressed : Bool)
    (now : Nat)
    (keyboardEnabled : Bool) :
    Preserves Plays (button id control pressed now keyboardEnabled) := by
  intro broker
  exact ⟨rfl, rfl, rfl, rfl, rfl, rfl, fun reached =>
    reached_step reached (.button id control pressed now keyboardEnabled)⟩

theorem seed_plays
    (id : PadId)
    (edges : List (Control × Bool)) :
    Preserves Plays (seed id edges) := by
  unfold seed
  refine preserves_forM (fun edge => ?_) edges
  exact (button_plays id edge.1 edge.2 0 false).bind fun _ => preserves_pure _

theorem snapshot_plays
    (id : PadId)
    (device : Device) :
    Preserves Plays (snapshot outside id device) := by
  have read : Preserves Plays (orError outside) := fun broker =>
    (orError_idles outside broker).imp (fun _ _ idles => idles.plays)
      (fun _ _ idles => idles.plays)
  unfold snapshot
  refine read.bind fun _ => read.bind fun _ => ?_
  refine (seed_plays id _).bind fun _ => read.bind fun _ => ?_
  exact (seed_plays id _).bind fun _ => seed_plays id _

/-- Opening a pad that is grabbed exactly under a capture keeps the
invariant. -/
theorem Settled.openPad
    {broker : Broker}
    (settled : Settled broker)
    (noKeyboard : broker.keyboard.isSome = false)
    {pad : OpenPad}
    (grabbed : pad.grabbed = broker.capture.isSome) :
    Settled { broker with pads := broker.pads ++ [pad] } := by
  refine ⟨⟨⟨settled.roles, settled.ids, settled.valid, ?_, ?_,
    settled.reached⟩, settled.holder⟩, settled.owner.congr rfl rfl rfl⟩
  · intro other member
    rcases List.mem_append.mp member with known | new
    · exact settled.grabs other known
    · rw [List.mem_singleton.mp new]
      exact grabbed
  · intro running
    rw [show _ = false from noKeyboard] at running
    cases running

section Failures

variable
  {allowed : Queued → Prop}
  (failures : ∀ (broker : Broker) client reason,
    allowed (broker.entry client (.failed reason)))

include failures

/-- Opening a device keeps the invariant, whether or not it can be grabbed. -/
theorem openDevice_meets
    {broker : Broker}
    (settled : Settled broker)
    (noKeyboard : broker.keyboard.isSome = false)
    (device : Device) :
    Meets (openDevice outside device)
      (fun _ after => Settled after ∧ Moves allowed broker after ∧
        after.keyboard.isSome = false)
      (fun _ after => Moves allowed broker after) broker := by
  unfold openDevice
  rw [meets_bind, meets_get]
  dsimp only
  split
  · exact ⟨settled, refl_of (Moves allowed) broker, noKeyboard⟩
  rw [meets_bind]
  refine (orError_idles outside broker).imp ?_
    (fun _ _ idles => idles.keeps.moves allowed)
  intro _ opened idles
  rw [meets_bind]
  refine (captureNew_meets outside failures (settled.idles idles)).imp ?_ ?_
  · rintro grabbed captured ⟨settledAfter, moves, agrees, keyboard⟩
    have moved : Moves allowed broker captured :=
      trans_of (Moves allowed) (idles.keeps.moves allowed) moves
    have silent : captured.keyboard.isSome = false := by
      rw [keyboard, idles.keyboard]
      exact noKeyboard
    have numbered : Plays captured
        { captured with nextPad := captured.nextPad + 1 } :=
      ⟨rfl, rfl, rfl, rfl, rfl, rfl, id⟩
    rw [meets_bind, meets_get, meets_bind, meets_modify, meets_bind]
    refine (snapshot_plays outside _ device _).imp ?_ ?_
    · intro _ seeded plays
      have plays' := trans_of Plays numbered plays
      rw [meets_bind]
      refine (ask_idles seeded).imp ?_ ?_
      · intro question asked idles'
        have plays'' : Plays captured asked :=
          trans_of Plays plays' idles'.plays
        have moved' : Moves allowed broker asked :=
          trans_of (Moves allowed) moved (plays''.keeps.moves allowed)
        have agrees' : grabbed = asked.capture.isSome := by
          rw [plays''.capture]
          exact agrees
        have silent' : asked.keyboard.isSome = false := by
          rw [plays''.keyboard]
          exact silent
        have settled' := settledAfter.plays plays''
        cases outside.fetch question with
        | failed error => exact moved'
        | wouldBlock =>
            exact ⟨settled'.openPad silent' agrees',
              ⟨moved'.clients, moved'.capture, moved'.queued⟩, silent'⟩
        | events events =>
            exact ⟨settled'.openPad silent' agrees',
              ⟨moved'.clients, moved'.capture, moved'.queued⟩, silent'⟩
      · intro _ asked idles'
        exact trans_of (Moves allowed) moved
          ((trans_of Plays plays' idles'.plays).keeps.moves allowed)
    · intro _ seeded plays
      have plays' := trans_of Plays numbered plays
      exact trans_of (Moves allowed) moved (plays'.keeps.moves allowed)
  · intro _ captured moves
    exact trans_of (Moves allowed) (idles.keeps.moves allowed) moves

/-- Scanning keeps the invariant, whatever devices it finds. -/
theorem scan_meets
    {broker : Broker}
    (settled : Settled broker) :
    Meets (scan outside)
      (fun _ after => Settled after ∧ Moves allowed broker after)
      (fun _ after => Moves allowed broker after) broker := by
  unfold scan
  rw [meets_bind, meets_get]
  dsimp only
  split
  · exact ⟨settled, refl_of (Moves allowed) broker⟩
  rename_i running
  rw [meets_bind]
  refine (ask_idles broker).imp ?_ (fun _ _ idles => idles.keeps.moves allowed)
  intro question asked idles
  refine (meets_forM (fun device => openDevice outside device)
    (fun after => Settled after ∧ Moves allowed broker after ∧
      after.keyboard.isSome = false)
    (fun _ after => Moves allowed broker after) (outside.devices question)
    ?_ ⟨settled.idles idles, idles.keeps.moves allowed, ?_⟩).imp
    (fun _ _ kept => ⟨kept.1, kept.2.1⟩) (fun _ _ moves => moves)
  · rintro device _ middle ⟨settledAt, moves, silent⟩
    refine (openDevice_meets outside failures settledAt silent device).imp ?_ ?_
    · rintro _ after ⟨settledAfter, moves', silent'⟩
      exact ⟨settledAfter, trans_of (Moves allowed) moves moves', silent'⟩
    · intro _ after moves'
      exact trans_of (Moves allowed) moves moves'
  · rw [idles.keyboard]
    simpa using running

end Failures

/-! ## New connections -/

/-- Every pad but its grab is the same, and so is everything else. -/
structure Regrabs (before after : Broker) : Prop where
  clients : after.clients = before.clients
  capture : after.capture = before.capture
  keyboard : after.keyboard = before.keyboard
  queued : after.queued = before.queued
  state : after.state = before.state

/-- Grabbing the pads grabs all of them or none. -/
theorem grabPads_meets
    {broker : Broker}
    (ungrabbed : ∀ pad ∈ broker.pads, pad.grabbed = false) :
    Meets (grabPads outside)
      (fun error after => Regrabs broker after ∧
        ∀ pad ∈ after.pads, pad.grabbed = error.isNone)
      (fun _ after => Idles broker after) broker := by
  unfold grabPads
  rw [meets_bind, meets_get, meets_bind]
  refine (grabAll_meets outside _ _ [] broker.pads broker).imp ?_
    (fun _ _ idles => idles)
  rintro ⟨pads, error⟩ grabbedAt ⟨idles, outcome⟩
  refine ⟨⟨idles.clients, idles.capture, idles.keyboard, idles.queued,
    idles.state⟩, ?_⟩
  intro pad member
  rcases outcome with ⟨rfl, rfl⟩ | ⟨failed, done, rest, split, rfl⟩
  · obtain ⟨old, _, rfl⟩ := List.mem_map.mp member
    rfl
  · have isFalse : error.isNone = false := by simpa using failed
    rw [isFalse]
    rcases List.mem_append.mp member with rolled | untouched
    · obtain ⟨old, _, rfl⟩ := List.mem_map.mp rolled
      rfl
    · exact ungrabbed pad (split ▸ List.mem_append_right done untouched)

/-- Replacing connections removes exactly those clients. -/
theorem disconnectAll_meets
    {broker : Broker}
    (settled : Settled broker)
    (replaced : List Client)
    (allowed : Queued → Prop) :
    Meets (forM replaced fun other => disconnect outside other.id)
      (fun _ after => Settled after ∧ Moves allowed broker after ∧
        (∀ client ∈ after.clients, ∀ other ∈ replaced,
          client.id ≠ other.id) ∧
        after.keyboard = broker.keyboard)
      (fun _ after => Moves allowed broker after) broker := by
  induction replaced generalizing broker with
  | nil =>
      exact ⟨settled, refl_of (Moves allowed) broker, by simp, rfl⟩
  | cons first rest inductionHypothesis =>
      rw [List.forM_cons, meets_bind]
      refine (disconnect_meets outside settled.toWired first.id allowed).imp ?_
        (fun _ _ moves => moves)
      rintro _ middle ⟨settledAt, moves, clients, keyboard⟩
      refine (inductionHypothesis settledAt).imp ?_ ?_
      · rintro _ after ⟨settledAfter, moves', gone, keyboard'⟩
        refine ⟨settledAfter, trans_of (Moves allowed) moves moves', ?_,
          keyboard'.trans keyboard⟩
        intro client member other isReplaced
        rcases List.mem_cons.mp isReplaced with rfl | later
        · have kept := moves'.clients member
          rw [clients] at kept
          simpa using (List.mem_filter.mp kept).2
        · exact gone client member other later
      · intro _ after moves'
        exact trans_of (Moves allowed) moves moves'

/-- A client of a new role and a new identifier can be registered. -/
theorem Wired.register
    {broker : Broker}
    (wired : Wired broker)
    {client : Client}
    (valid : client.hello.valid = true)
    (newRole : ∀ other ∈ broker.clients, other.hello.role ≠ client.hello.role)
    (newId : ∀ other ∈ broker.clients, other.id ≠ client.id) :
    Wired { broker with clients := broker.clients ++ [client] } := by
  refine ⟨⟨?_, ?_, ?_, wired.grabs, wired.handedOver, wired.reached⟩, ?_⟩
  · simp only [List.map_append, List.map_cons, List.map_nil]
    rw [List.nodup_append]
    refine ⟨wired.roles, by simp, ?_⟩
    intro role known other isNew
    obtain ⟨present, member, rfl⟩ := List.mem_map.mp known
    rw [List.mem_singleton.mp isNew]
    exact newRole present member
  · simp only [List.map_append, List.map_cons, List.map_nil]
    rw [List.nodup_append]
    refine ⟨wired.ids, by simp, ?_⟩
    intro id known other isNew
    obtain ⟨present, member, rfl⟩ := List.mem_map.mp known
    rw [List.mem_singleton.mp isNew]
    exact newId present member
  · intro other member
    rcases List.mem_append.mp member with known | new
    · exact wired.valid other known
    · rw [List.mem_singleton.mp new]
      exact valid
  · intro id captured
    obtain ⟨holder, member, rest⟩ := wired.holder id captured
    exact ⟨holder, List.mem_append_left _ member, rest⟩

/-- The frontend's delivery does not depend on overlay clients. -/
theorem frontendDelivery_register
    (broker : Broker)
    {client : Client}
    (isOverlay : client.hello.role = .overlay) :
    frontendDelivery { broker with clients := broker.clients ++ [client] } =
      broker.frontendDelivery := by
  simp [frontendDelivery, List.find?_append, isOverlay]

end Broker
end Input
end Hearthdeck
