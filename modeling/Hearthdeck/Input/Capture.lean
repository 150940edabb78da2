import Hearthdeck.Input.Delivery

/-!
# Capture

New connections, and the results about whole runs of the broker: who may hold
the capture and what it says about the controllers, where actions go, and how
far keyboard and overlay capture exclude each other.
-/

namespace Hearthdeck
namespace Input
namespace Broker

open Foundation Effect Protocol

variable (outside : Outside)

/-! ## Connecting -/

/-- No client is in text entry while there is a capture. -/
def NoTextUnderCapture (broker : Broker) : Prop :=
  broker.capture.isSome = true →
    ∀ client ∈ broker.clients, client.hello.delivery ≠ .textEntry

theorem NoTextUnderCapture.moves
    {before after : Broker}
    {allowed : Queued → Prop}
    (noText : NoTextUnderCapture before)
    (moves : Moves allowed before after) :
    NoTextUnderCapture after := by
  intro captured client member
  rcases moves.capture with gone | same
  · simp [gone] at captured
  · exact noText (same ▸ captured) client (moves.clients member)

/-- Granting the capture: every pad is grabbed, the client is connected, and
nothing else holds the controllers. -/
structure Grants (id : Nat) (before after : Broker) : Prop where
  wired : Wired after
  captured : after.capture = some id
  clients : after.clients = before.clients
  queued : after.queued = before.queued
  noText : ∀ client ∈ before.clients, client.hello.delivery ≠ .textEntry

/-- A client that asks for capture gets it with every pad grabbed, or it is
told why not and nothing stays grabbed. -/
theorem requestCapture_meets
    {broker : Broker}
    (settled : Settled broker)
    (uncaptured : broker.capture = none)
    {client : Client}
    (member : client ∈ broker.clients)
    (asks : client.hello.delivery = .overlay)
    {allowed : Queued → Prop}
    (failures : ∀ (broker : Broker) client reason,
      allowed (broker.entry client (.failed reason))) :
    Meets (requestCapture outside client.id)
      (fun granted after =>
        granted = true ∧ Grants client.id broker after ∨
        granted = false ∧ Settled after ∧ Moves allowed broker after)
      (fun _ after => Moves allowed broker after) broker := by
  unfold requestCapture
  rw [meets_bind]
  refine (setActive_idles outside false broker).imp ?_
    (fun _ _ idles => idles.keeps.moves allowed)
  intro _ silent idles
  rw [meets_bind, meets_modify, meets_bind, meets_get]
  have suspends : Plays silent { silent with state := silent.state.suspend } :=
    ⟨rfl, rfl, rfl, rfl, rfl, rfl, fun reached =>
      reached_step reached .suspend⟩
  have plays := trans_of Plays idles.plays suspends
  have settledAt := settled.plays plays
  have moved := plays.keeps.moves allowed
  have free := plays.capture.trans uncaptured
  generalize { silent with state := silent.state.suspend } = suspended at *
  split
  · rw [meets_bind]
    refine (send_meets outside settledAt.toWired client.id (.failed _) allowed
      fun other _ _ => failures suspended other _).imp ?_
      (fun _ _ moves => trans_of (Moves allowed) moved moves)
    rintro _ after ⟨_, settles, moves, _⟩
    exact Or.inr ⟨rfl, settles settledAt.owner,
      trans_of (Moves allowed) moved moves⟩
  · rename_i clear
    rw [not_or] at clear
    have noKeyboard : suspended.keyboard.isSome = false := by
      simpa using clear.1
    have noText : ∀ other ∈ suspended.clients,
        other.hello.delivery ≠ .textEntry := by
      simpa using clear.2
    have ungrabbed : ∀ pad ∈ suspended.pads, pad.grabbed = false := by
      intro pad isOpen
      rw [settledAt.grabs pad isOpen, free]
      rfl
    rw [meets_bind]
    refine (grabPads_meets outside ungrabbed).imp ?_
      (fun _ _ idles' => trans_of (Moves allowed) moved
        (idles'.keeps.moves allowed))
    rintro error grabbed ⟨regrabs, grabs⟩
    have regrabbing : Moves allowed suspended grabbed :=
      ⟨by rw [regrabs.clients]; exact List.Subset.refl _,
        Or.inr regrabs.capture, [], by simp [regrabs.queued], by simp⟩
    have movedGrabs := trans_of (Moves allowed) moved regrabbing
    have stillFree : grabbed.capture = none := regrabs.capture.trans free
    have stillSilent : grabbed.keyboard.isSome = false := by
      rw [regrabs.keyboard]
      exact noKeyboard
    cases error with
    | some error =>
        have settledRolled : Settled grabbed :=
          { roles := regrabs.clients ▸ settledAt.roles
            ids := regrabs.clients ▸ settledAt.ids
            valid := regrabs.clients ▸ settledAt.valid
            grabs := fun pad isOpen => by
              rw [grabs pad isOpen, stillFree]
              rfl
            handedOver := fun running => by
              rw [stillSilent] at running
              cases running
            reached := regrabs.state ▸ settledAt.reached
            holder := regrabs.clients ▸ regrabs.capture ▸ settledAt.holder
            owner := regrabs.state ▸ settledAt.owner.congr regrabs.clients
              regrabs.capture regrabs.keyboard }
        dsimp only
        rw [meets_bind]
        refine (send_meets outside settledRolled.toWired client.id (.failed _)
          allowed fun other _ _ => failures grabbed other _).imp ?_
          (fun _ _ moves => trans_of (Moves allowed) movedGrabs moves)
        rintro _ told ⟨wired, _, moves, _⟩
        have movedTold := trans_of (Moves allowed) movedGrabs moves
        rw [meets_bind]
        refine (reconcile_meets outside told).imp ?_
          (fun _ _ keeps => trans_of (Moves allowed) movedTold
            (keeps.moves allowed))
        rintro _ after ⟨keeps, fits⟩
        exact Or.inr ⟨rfl, ⟨wired.keeps keeps, fits⟩,
          trans_of (Moves allowed) movedTold (keeps.moves allowed)⟩
    | none =>
        dsimp only
        rw [meets_bind, meets_modify, meets_pure]
        refine Or.inl ⟨rfl, ?_, rfl, regrabs.clients.trans plays.clients,
          regrabs.queued.trans plays.queued, plays.clients ▸ noText⟩
        exact
          { roles := regrabs.clients ▸ settledAt.roles
            ids := regrabs.clients ▸ settledAt.ids
            valid := regrabs.clients ▸ settledAt.valid
            grabs := grabs
            handedOver := fun running => by
              rw [show _ = false from stillSilent] at running
              cases running
            reached := regrabs.state ▸ settledAt.reached
            holder := fun id captured => by
              cases captured
              refine ⟨client, ?_, rfl, asks⟩
              rw [show _ = _ from regrabs.clients, plays.clients]
              exact member }

theorem delivered_ready
    (owner : Owner)
    (broker : Broker)
    (client : Client)
    (granted : client.hello.delivery = .overlay →
      broker.capture = some client.id) :
    Queued.Delivered owner (broker.entry client .ready) where
  acknowledged := fun _ => granted
  routed := fun _ isAction => by cases isAction
  owned := fun _ isAction => by cases isAction

/-- A registered client is served what it asks for or told why not; it is
acknowledged only once the broker is wired for it. -/
theorem serve_meets
    {broker : Broker}
    (wired : Wired broker)
    {client : Client}
    (member : client ∈ broker.clients)
    (prepared : client.hello.delivery = .overlay →
      broker.capture = none ∧ Fits broker broker.state.owner)
    {allowed : Queued → Prop}
    (failures : ∀ (broker : Broker) client reason,
      allowed (broker.entry client (.failed reason))) :
    Meets (serve outside client)
      (fun served after =>
        served = true ∧ Wired after ∧ after.clients = broker.clients ∧
          Logs allowed broker after ∧
          (client.hello.delivery = .overlay →
            after.capture = some client.id) ∧
          (NoTextUnderCapture broker → NoTextUnderCapture after) ∨
        served = false ∧ Settled after ∧ Moves allowed broker after)
      (fun _ after => Moves allowed broker after) broker := by
  unfold serve
  split
  · rename_i asks
    obtain ⟨uncaptured, fits⟩ := prepared asks
    refine (requestCapture_meets outside ⟨wired, fits⟩ uncaptured member asks
      failures).imp ?_ (fun _ _ moves => moves)
    rintro granted after (⟨isGranted, grants⟩ | refused)
    · refine Or.inl ⟨isGranted, grants.wired, grants.clients,
        ⟨[], by simp [grants.queued], by simp⟩, fun _ => grants.captured, ?_⟩
      intro _ _ other isClient
      exact grants.noText other (grants.clients ▸ isClient)
    · exact Or.inr refused
  · rename_i otherwise
    exact Or.inl ⟨rfl, wired, rfl, refl_of (Logs allowed) broker,
      fun asks => absurd asks otherwise, id⟩

/-- Connecting keeps the invariant.  Keyboard and overlay capture stay
exclusive as long as a client in text entry does not connect under a
capture. -/
theorem connect_meets
    {broker : Broker}
    (settled : Settled broker)
    {client : Client}
    (valid : client.hello.valid = true)
    (newId : ∀ other ∈ broker.clients, other.id ≠ client.id)
    (owner : Owner) :
    Meets (connect outside client)
      (fun _ after => Settled after ∧
        Logs (Queued.Delivered owner) broker after ∧
        (NoTextUnderCapture broker →
          (client.hello.delivery = .textEntry → broker.capture = none) →
            NoTextUnderCapture after))
      (fun _ after => Logs (Queued.Delivered owner) broker after) broker := by
  unfold connect
  rw [meets_bind, meets_get, meets_bind]
  refine (disconnectAll_meets outside settled _ (Queued.Delivered owner)).imp ?_
    (fun _ _ moves => moves.queued)
  rintro _ cleared ⟨settledAt, moves, gone, _⟩
  have newRole : ∀ other ∈ cleared.clients,
      other.hello.role ≠ client.hello.role := by
    intro other isClient same
    refine gone other isClient other ?_ rfl
    exact List.mem_filter.mpr ⟨moves.clients isClient, by simpa using same⟩
  have registered := settledAt.toWired.register valid newRole
    (fun other isClient => newId other (moves.clients isClient))
  have logged : Logs (Queued.Delivered owner) broker
      { cleared with clients := cleared.clients ++ [client] } := moves.queued
  have exclusive : NoTextUnderCapture broker →
      (client.hello.delivery = .textEntry → broker.capture = none) →
      NoTextUnderCapture
        { cleared with clients := cleared.clients ++ [client] } := by
    intro noText free captured other isClient
    rcases List.mem_append.mp isClient with known | new
    · exact noText.moves moves captured other known
    · rw [List.mem_singleton.mp new]
      intro isText
      rcases moves.capture with none | same
      · simp [none] at captured
      · simp [same, free isText] at captured
  have prepared : client.hello.delivery = .overlay →
      cleared.capture = none ∧ Fits
        { cleared with clients := cleared.clients ++ [client] }
        cleared.state.owner := by
    intro asks
    have isOverlay := Hello.role_of_overlay_delivery valid asks
    refine ⟨?_, settledAt.owner.overlay, settledAt.owner.keyboard, ?_, ?_⟩
    · cases captured : cleared.capture with
      | none => rfl
      | some id =>
          obtain ⟨holder, isClient, _, holds⟩ := settledAt.holder id captured
          have holderRole := Hello.role_of_overlay_delivery
            (settledAt.valid holder isClient) holds
          exact absurd (holderRole.trans isOverlay.symm)
            (newRole holder isClient)
    · rw [frontendDelivery_register cleared isOverlay]
      exact settledAt.owner.frontend
    · rw [frontendDelivery_register cleared isOverlay]
      exact settledAt.owner.textEntry
  have onlyClient : ∀ other ∈ cleared.clients ++ [client],
      other.id = client.id → other = client := by
    intro other isClient same
    rcases List.mem_append.mp isClient with known | new
    · exact absurd same (newId other (moves.clients known))
    · exact List.mem_singleton.mp new
  rw [meets_bind, meets_modify, meets_bind]
  refine (serve_meets outside registered
    (List.mem_append_right _ (List.mem_singleton_self client)) prepared
    (delivered_failed owner)).imp ?_
    (fun _ _ moves' => trans_of (Logs _) logged moves'.queued)
  rintro acknowledged served
    (⟨rfl, wired, clients, logs, captured, keepsNoText⟩ |
      ⟨rfl, settledAfter, moves'⟩)
  · have logged' := trans_of (Logs _) logged logs
    rw [if_pos rfl, meets_bind]
    refine (reconcile_meets outside served).imp ?_
      (fun _ _ keeps => trans_of (Logs _) logged' (keeps.moves _).queued)
    rintro _ reconciled ⟨keeps, fits⟩
    have keeping := keeps.moves (Queued.Delivered owner)
    have logged'' := trans_of (Logs _) logged' keeping.queued
    refine (send_meets outside (wired.keeps keeps) client.id .ready
      (Queued.Delivered owner) ?_).imp ?_
      (fun _ _ moves' => trans_of (Logs _) logged'' moves'.queued)
    · intro other isClient same
      rw [keeps.clients, clients] at isClient
      rw [onlyClient other isClient same]
      refine delivered_ready owner reconciled client fun asks => ?_
      rw [keeps.capture]
      exact captured asks
    · rintro _ after ⟨_, settles, moves', _⟩
      refine ⟨settles fits, trans_of (Logs _) logged'' moves'.queued, ?_⟩
      intro noText free
      exact ((keepsNoText (exclusive noText free)).moves keeping).moves moves'
  · exact ⟨settledAfter, trans_of (Logs _) logged moves'.queued,
      fun noText free => (exclusive noText free).moves moves'⟩

/-! ## Runs -/

theorem settled_start : Settled {} where
  roles := List.nodup_nil
  ids := List.nodup_nil
  valid := by simp
  grabs := by simp
  handedOver := fun _ => ⟨rfl, rfl⟩
  reached := ⟨[], rfl⟩
  holder := fun _ captured => by cases captured
  owner := ⟨by simp, by simp, by simp, by simp⟩

/-- New session settings only make the broker reconcile. -/
theorem reconcileAfter_meets
    {broker updated : Broker}
    (settled : Settled broker)
    (updates : Idles broker updated)
    (owner : Owner)
    (condition : Prop) :
    Meets (reconcile outside)
      (fun _ after => Settled after ∧
        Logs (Queued.Delivered owner) broker after ∧
        (NoTextUnderCapture broker → condition → NoTextUnderCapture after))
      (fun _ after => Logs (Queued.Delivered owner) broker after)
      updated := by
  have updating := updates.keeps.moves (Queued.Delivered owner)
  refine (reconcile_meets outside updated).imp ?_ ?_
  · rintro _ after ⟨keeps, fits⟩
    have moves := trans_of (Moves _) updating (keeps.moves _)
    exact ⟨⟨(settled.toWired.keeps updates.keeps).keeps keeps, fits⟩,
      moves.queued, fun noText _ => noText.moves moves⟩
  · intro _ after keeps
    exact (trans_of (Moves _) updating (keeps.moves _)).queued

/-- What is logged on top of a sound log is sound. -/
theorem Logs.sound
    {before after : Broker}
    {owner : Owner}
    (logs : Logs (Queued.Delivered owner) before after)
    (sound : ∀ entry ∈ before.queued, entry.Acknowledged ∧ entry.Routed) :
    ∀ entry ∈ after.queued, entry.Acknowledged ∧ entry.Routed := by
  obtain ⟨new, split, delivered⟩ := logs
  intro entry member
  rw [split] at member
  rcases List.mem_append.mp member with old | isNew
  · exact sound entry old
  · exact ⟨(delivered entry isNew).acknowledged, (delivered entry isNew).routed⟩

/-- One turn of the event loop keeps the invariant and queues only what is
acknowledged and routed as it should be. -/
theorem perform_meets
    {broker : Broker}
    (settled : Settled broker)
    {step : Step}
    (admissible : Admissible broker step)
    (owner : Owner)
    (computes : step = .poll → ComputesUnder outside broker owner) :
    Meets (perform outside step)
      (fun _ after => Settled after ∧
        Logs (Queued.Delivered owner) broker after ∧
        (NoTextUnderCapture broker →
          (∀ client, step = .connect client →
            client.hello.delivery = .textEntry → broker.capture = none) →
          NoTextUnderCapture after))
      (fun _ after => Logs (Queued.Delivered owner) broker after) broker := by
  cases step with
  | connect client =>
      refine (connect_meets outside settled admissible.1 admissible.2
        owner).imp ?_ (fun _ _ logs => logs)
      rintro _ after ⟨settledAfter, logs, noText⟩
      exact ⟨settledAfter, logs, fun before free =>
        noText before (free client rfl)⟩
  | disconnect id =>
      refine (disconnect_meets outside settled.toWired id
        (Queued.Delivered owner)).imp ?_ (fun _ _ moves => moves.queued)
      rintro _ after ⟨settledAfter, moves, _⟩
      exact ⟨settledAfter, moves.queued, fun noText _ => noText.moves moves⟩
  | scan =>
      refine (scan_meets outside (delivered_failed owner) settled).imp ?_
        (fun _ _ moves => moves.queued)
      rintro _ after ⟨settledAfter, moves⟩
      exact ⟨settledAfter, moves.queued, fun noText _ => noText.moves moves⟩
  | poll =>
      refine (poll_meets outside settled (computes rfl)).imp ?_
        (fun _ _ moves => moves.queued)
      rintro _ after ⟨settledAfter, moves⟩
      exact ⟨settledAfter, moves.queued, fun noText _ => noText.moves moves⟩
  | focus focused =>
      have updates : Idles broker { broker with focused := focused } :=
        ⟨rfl, rfl, rfl, rfl, rfl, rfl⟩
      unfold perform
      rw [meets_bind, meets_modify]
      exact reconcileAfter_meets outside settled updates owner _
  | session session =>
      unfold perform
      rw [meets_bind]
      refine (ask_idles broker).imp ?_
        (fun _ _ idles => (idles.keeps.moves _).queued)
      intro question asked idles
      have updates : Idles asked { asked with
          mode := session.mode
          session := session
          sessionAt := outside.clock question } :=
        ⟨rfl, rfl, rfl, rfl, rfl, rfl⟩
      dsimp only
      rw [meets_bind, meets_modify]
      exact reconcileAfter_meets outside settled
        (trans_of Idles idles updates) owner _

/-- The invariant holds between any two turns of the event loop, and the log
holds only what is acknowledged and routed as it should be. -/
theorem settled_of_reachable
    {broker : Broker}
    (reachable : Reachable outside broker) :
    Settled broker ∧
      ∀ entry ∈ broker.queued, entry.Acknowledged ∧ entry.Routed := by
  refine reachable.invariant
    (fun broker => Settled broker ∧
      ∀ entry ∈ broker.queued, entry.Acknowledged ∧ entry.Routed)
    ⟨settled_start, by simp⟩ ?_
  rintro before step ⟨settled, sound⟩ admissible
  obtain ⟨owner, computes⟩ := exists_computesUnder outside before
  refine (perform_meets outside settled admissible owner
    fun _ => computes).imp ?_ (fun _ _ _ => trivial)
  rintro _ after ⟨settledAfter, logs, _⟩
  exact ⟨settledAfter, logs.sound sound⟩

/-- Surroundings in which nothing fails: the kernel lists one controller, and
its events come with one question. -/
def calm (question : Nat) (events : List InputEvent) : Outside where
  failure := fun _ => none
  devices := fun _ => [{ path := "/dev/input/event0" }]
  fetch := fun asked =>
    if asked = question then .events events else .wouldBlock
  exited := fun _ => false
  order := fun _ => .stored
  clock := fun asked => asked
  clock_mono := fun _ _ earlier => earlier
  adapter := none

/-- In every reachable state at most one client per role is connected; a
capture belongs to a connected overlay, with every pad grabbed and no keyboard
adapter; without a capture no pad is grabbed; while the adapter runs there are
no pads and there is no capture.  On every run, up to and including a turn
that fails, `Ready` is queued for a client that asked for capture only while
it holds the capture. -/
theorem capture_safe
    (outside : Outside)
    (broker : Broker)
    (reachable : Reachable outside broker) :
    (∀ first ∈ broker.clients, ∀ second ∈ broker.clients,
      first.hello.role = second.hello.role → first = second) ∧
    (broker.clients.map fun client => client.hello.role).Nodup ∧
    (∀ id, broker.capture = some id →
      (∃ client ∈ broker.clients, client.id = id ∧
        client.hello.role = .overlay ∧
        client.hello.delivery = .overlay) ∧
      (∀ pad ∈ broker.pads, pad.grabbed = true) ∧
      broker.keyboard = none) ∧
    (broker.capture = none → ∀ pad ∈ broker.pads, pad.grabbed = false) ∧
    (broker.keyboard.isSome = true →
      broker.pads = [] ∧ broker.capture = none) ∧
    (∀ entry ∈ broker.queued, entry.Acknowledged) ∧
    (∀ step error failed, Admissible broker step →
      perform outside step broker = .error error failed →
        ∀ entry ∈ failed.queued, entry.Acknowledged) := by
  obtain ⟨settled, sound⟩ := settled_of_reachable outside reachable
  refine ⟨?_, settled.roles, ?_, ?_, settled.handedOver,
    fun entry member => (sound entry member).1, ?_⟩
  · intro first firstMember second secondMember same
    exact settled.eq_of_role firstMember secondMember same
  · intro id captured
    obtain ⟨client, member, same, asks⟩ := settled.holder id captured
    refine ⟨⟨client, member, same,
      Hello.role_of_overlay_delivery (settled.valid client member) asks, asks⟩,
      ?_, ?_⟩
    · intro pad isOpen
      rw [settled.grabs pad isOpen, captured]
      rfl
    · cases running : broker.keyboard with
      | none => rfl
      | some program =>
          have free := (settled.handedOver (by simp [running])).2
          rw [captured] at free
          cases free
  · intro uncaptured pad isOpen
    rw [settled.grabs pad isOpen, uncaptured]
    rfl
  · intro step error failed admissible ran entry member
    obtain ⟨owner, computes⟩ := exists_computesUnder outside broker
    have meets := perform_meets outside settled admissible owner
      fun _ => computes
    rw [Meets, ran] at meets
    exact (meets.sound sound entry member).1

theorem capture_safe_overlay :
    ∃ broker, Reachable (calm 0 []) broker ∧ broker.capture = some 1 ∧
      broker.pads.length = 1 ∧
      ∀ pad ∈ broker.pads, pad.grabbed = true := by
  have run : (Effect.replay (perform (calm 0 [])) Admissible
      [.scan, .connect ⟨1, 1, .overlay, .overlay⟩] {}).map
        (fun broker => (broker.capture, broker.pads.length)) =
      some (some 1, 1) := by decide +kernel
  obtain ⟨broker, replayed, reached⟩ := Option.map_eq_some_iff.mp run
  have reachable : Reachable (calm 0 []) broker :=
    Effect.Reachable.start.replay _ replayed
  have captured : broker.capture = some 1 := congrArg Prod.fst reached
  exact ⟨broker, reachable, captured, congrArg Prod.snd reached,
    ((capture_safe _ broker reachable).2.2.1 1 captured).2.1⟩

/-- In every reachable state, everything a poll queues is routed: actions
other than the overlay toggle go to the client that holds the capture, or
without a capture to a frontend that asked for them, and never while the
keyboard adapter runs; the toggle goes to the overlay.  This also holds of a
poll that fails.  A poll computes its signals under the owner its first
reconciliation leaves, queues actions only under that owner, and drops the
signals that are left once the owner has changed. -/
theorem delivery_routed
    (outside : Outside)
    (broker : Broker)
    (reachable : Reachable outside broker) :
    (∀ after,
      (poll outside broker = .ok ⟨⟩ after ∨
        ∃ error, poll outside broker = .error error after) →
      ∃ new, after.queued = broker.queued ++ new ∧
        ∀ entry ∈ new, entry.Routed ∧
          ∀ action reconciled,
            entry.event = .action action →
            reconcile outside broker = .ok ⟨⟩ reconciled →
              entry.owner = reconciled.state.owner) ∧
    (∀ reconciled signals gathered,
      reconcile outside broker = .ok ⟨⟩ reconciled →
      gather outside reconciled = .ok signals gathered →
        gathered.state.owner = reconciled.state.owner) ∧
    (∀ before signal rest after,
      deliver outside signal before = .ok ⟨⟩ after →
      after.state.owner ≠ before.state.owner →
        deliverAll outside (signal :: rest) before = .ok ⟨⟩ after) := by
  obtain ⟨settled, _⟩ := settled_of_reachable outside reachable
  refine ⟨?_, ?_, ?_⟩
  · intro after polled
    obtain ⟨owner, computes⟩ := exists_computesUnder outside broker
    have meets := poll_meets outside settled computes
    have logs : Logs (Queued.Delivered owner) broker after := by
      rcases polled with ran | ⟨error, ran⟩
      · rw [Meets, ran] at meets
        exact meets.2.queued
      · rw [Meets, ran] at meets
        exact meets.queued
    obtain ⟨new, split, delivered⟩ := logs
    refine ⟨new, split, fun entry member =>
      ⟨(delivered entry member).routed, ?_⟩⟩
    intro action reconciled isAction ran
    rw [computes reconciled ran]
    exact (delivered entry member).owned action isAction
  · intro reconciled signals gathered ran gatheredBy
    have reconciling := reconcile_meets outside broker
    rw [Meets, ran] at reconciling
    obtain ⟨keeps, fits⟩ := reconciling
    have gathering := gather_meets outside
      ⟨settled.toWired.keeps keeps, fits⟩
    rw [Meets, gatheredBy] at gathering
    exact gathering.1.owner
  · intro before signal rest after delivered changed
    have stops : Meets (deliverAll outside (signal :: rest))
        (fun _ final => final = after) (fun _ _ => False) before := by
      unfold deliverAll
      rw [meets_bind, meets_get, meets_bind, Meets, delivered]
      dsimp only
      rw [meets_bind, meets_get, if_pos changed]
      rfl
    unfold Meets at stops
    cases outcome : deliverAll outside (signal :: rest) before with
    | ok value final =>
        rw [outcome] at stops
        rw [show final = after from stops]
    | error error final =>
        rw [outcome] at stops
        cases stops

theorem delivery_routed_confirm :
    ∃ broker after,
      Reachable (calm 16 [.key .btnSouth 1]) broker ∧
      poll (calm 16 [.key .btnSouth 1]) broker = .ok ⟨⟩ after ∧
      after.queued.map Queued.event = [.ready, .action .confirm] ∧
      ∃ new, after.queued = broker.queued ++ new ∧
        ∀ entry ∈ new, entry.Routed := by
  have run : ((Effect.replay (perform (calm 16 [.key .btnSouth 1])) Admissible
      [.connect ⟨1, 1, .frontend, .frontend⟩, .scan, .poll] {}).bind
        fun broker =>
          match poll (calm 16 [.key .btnSouth 1]) broker with
          | .ok _ after => some (after.queued.map Queued.event)
          | .error _ _ => none) =
      some [.ready, .action .confirm] := by decide +kernel
  obtain ⟨broker, replayed, rest⟩ := Option.bind_eq_some_iff.mp run
  have reachable : Reachable (calm 16 [.key .btnSouth 1]) broker :=
    Effect.Reachable.start.replay _ replayed
  cases polled : poll (calm 16 [.key .btnSouth 1]) broker with
  | error error after => simp [polled] at rest
  | ok value after =>
      have events : after.queued.map Queued.event =
          [.ready, .action .confirm] := by simpa [polled] using rest
      obtain ⟨new, split, routed⟩ :=
        (delivery_routed _ broker reachable).1 after (Or.inl polled)
      exact ⟨broker, after, reachable, polled, events, new, split,
        fun entry member => (routed entry member).1⟩

/-! ## Keyboard and overlay -/

/-- The step is admissible and does not connect a client in text entry under a
capture. -/
def Excludes (broker : Broker) (step : Step) : Prop :=
  Admissible broker step ∧
    ∀ client, step = .connect client →
      client.hello.delivery = .textEntry →
        broker.capture = none

/-- In every run in which no client in text entry connects under a capture,
keyboard and overlay capture exclude each other. -/
theorem keyboard_excludes_overlay
    (outside : Outside)
    (broker : Broker)
    (reachable : Effect.Reachable {} (perform outside) Excludes broker)
    (captured : broker.capture.isSome = true) :
    (∀ client ∈ broker.clients, client.hello.delivery ≠ .textEntry) ∧
      broker.keyboard = none := by
  have invariant : Settled broker ∧ NoTextUnderCapture broker := by
    refine reachable.invariant
      (fun broker => Settled broker ∧ NoTextUnderCapture broker)
      ⟨settled_start, fun isCaptured => by cases isCaptured⟩ ?_
    rintro before step ⟨settled, noText⟩ ⟨admissible, excludes⟩
    obtain ⟨owner, computes⟩ := exists_computesUnder outside before
    refine (perform_meets outside settled admissible owner
      fun _ => computes).imp ?_ (fun _ _ _ => trivial)
    rintro _ after ⟨settledAfter, _, keepsNoText⟩
    exact ⟨settledAfter, keepsNoText noText excludes⟩
  refine ⟨invariant.2 captured, ?_⟩
  cases running : broker.keyboard with
  | none => rfl
  | some program =>
      have free := (invariant.1.handedOver (by simp [running])).2
      simp [free] at captured

theorem keyboard_excludes_overlay_capture :
    ∃ broker,
      Effect.Reachable {} (perform (calm 0 [])) Excludes broker ∧
      broker.capture = some 2 ∧
      broker.keyboard = none := by
  have frontend : Effect.Reachable {} (perform (calm 0 [])) Excludes _ :=
    .step (.connect ⟨1, 1, .frontend, .frontend⟩) .start
      ⟨⟨rfl, by simp⟩, fun _ _ _ => rfl⟩ rfl
  have overlay : Effect.Reachable {} (perform (calm 0 [])) Excludes _ :=
    .step (.connect ⟨2, 1, .overlay, .overlay⟩) frontend
      ⟨⟨rfl, by decide⟩, fun _ _ _ => rfl⟩ rfl
  exact ⟨_, overlay, rfl, (keyboard_excludes_overlay _ _ overlay rfl).2⟩

/-- A frontend may connect in text entry while the overlay holds the
capture: only the other order is refused. -/
theorem textEntry_under_capture :
    ¬∀ outside broker, Reachable outside broker →
      broker.capture.isSome = true →
        (∀ client ∈ broker.clients, client.hello.delivery ≠ .textEntry) ∧
          broker.keyboard = none := by
  intro excludes
  have run : (Effect.replay (perform (calm 0 [])) Admissible
      [.connect ⟨1, 1, .overlay, .overlay⟩,
        .connect ⟨2, 1, .frontend, .textEntry⟩] {}).map
        (fun broker => (broker.capture, broker.clients)) =
      some (some 1, [⟨1, 1, .overlay, .overlay⟩,
        ⟨2, 1, .frontend, .textEntry⟩]) := by decide +kernel
  obtain ⟨broker, replayed, reached⟩ := Option.map_eq_some_iff.mp run
  have reachable : Reachable (calm 0 []) broker :=
    Effect.Reachable.start.replay _ replayed
  have captured : broker.capture = some 1 := congrArg Prod.fst reached
  have clients : broker.clients = [⟨1, 1, .overlay, .overlay⟩,
      ⟨2, 1, .frontend, .textEntry⟩] := congrArg Prod.snd reached
  refine (excludes _ broker reachable (by simp [captured])).1
    ⟨2, 1, .frontend, .textEntry⟩ ?_ rfl
  simp [clients]

end Broker
end Input
end Hearthdeck
