import Hearthdeck.Foundation.Machine
import Hearthdeck.Frontend.RommForm

/-!
# Linking accounts

RomM and Stremio are both linked by a code the user approves elsewhere, and
the shell polls the daemon for the outcome: every answer that says the code is
still waiting begins the next poll.  Beside the polls there are the requests
of the buttons, and all of them may be answered in any order.
-/

namespace Hearthdeck
namespace Frontend

open Foundation

/-! ## RomM -/

/-- A request of the RomM form. -/
inductive RommRequest
  | load
  | connect
  | signIn
  | remove
  deriving DecidableEq, Repr

/-- The request a message answers. -/
def RommMessage.answers : RommMessage → Option RommRequest
  | .loaded _ => some .load
  | .linkStarted _ => some .connect
  | .signedIn _ => some .signIn
  | .removed _ => some .remove
  | _ => none

/-- The request `run_romm_effect` sends. -/
def RommEffect.request : RommEffect → Option RommRequest
  | .load => some .load
  | .connect _ => some .connect
  | .signIn _ _ _ => some .signIn
  | .remove => some .remove
  | _ => none

namespace RommForm

/-- What a press, or what is typed, can do: leave the flags as they are, or
begin a request while none is on its way. -/
inductive Pressed (form : RommForm) : RommForm × RommEffect → Prop
  | kept
      (next : RommForm)
      (effect : RommEffect)
      (busy : next.busy = form.busy)
      (polling : next.polling = form.polling)
      (pending : next.pending = form.pending)
      (asks : effect.request = none)
      (rests : effect ≠ .poll) :
      Pressed form (next, effect)
  | begun
      (next : RommForm)
      (effect : RommEffect)
      (request : RommRequest)
      (free : form.busy = false)
      (still : request = .connect ∨ request = .remove →
        form.polling = false)
      (busy : next.busy = true)
      (polling : next.polling = form.polling)
      (pending : next.pending = form.pending)
      (asks : effect.request = some request) :
      Pressed form (next, effect)

theorem Pressed.ignored (form : RommForm) :
    Pressed form (form, .nothing) :=
  .kept form .nothing rfl rfl rfl rfl nofun

theorem pressed_typed
    (form : RommForm)
    (change : SignIn → SignIn) :
    Pressed form (form.typed change, .nothing) := by
  unfold typed
  split
  case isTrue held => exact .ignored form
  case isFalse free => exact .kept _ _ rfl rfl rfl rfl nofun

theorem pressed_signInPressed (form : RommForm) :
    Pressed form (form.update .signInPressed) := by
  unfold update takeCredentials
  cases able : form.canSignIn with
  | false => exact .ignored form
  | true =>
      cases typed : form.signIn with
      | none => exact .ignored form
      | some signIn =>
          unfold canSignIn at able
          simp only [Bool.and_eq_true, Bool.not_eq_true'] at able
          refine .begun _ _ .signIn able.1.1 ?_ rfl rfl rfl rfl
          rintro (connects | removes)
          · cases connects
          · cases removes

theorem pressed_update
    (form : RommForm)
    {message : RommMessage}
    (answers : message.answers = none)
    (polled : ∀ result, message ≠ .linkPolled result) :
    Pressed form (form.update message) := by
  cases message with
  | loaded result => cases answers
  | linkStarted result => cases answers
  | signedIn result => cases answers
  | removed result => cases answers
  | linkPolled result => exact absurd rfl (polled result)
  | refreshPressed =>
      unfold update
      dsimp only
      cases busy : form.busy with
      | true => exact .ignored form
      | false =>
          refine .begun _ _ .load busy ?_ rfl rfl rfl rfl
          rintro (connects | removes)
          · cases connects
          · cases removes
  | urlChanged value =>
      unfold update
      dsimp only
      split
      case isTrue fixed => exact .ignored form
      case isFalse free => exact .kept _ _ rfl rfl rfl rfl nofun
  | connectPressed =>
      unfold update
      dsimp only
      cases able : form.canConnect with
      | false => exact .ignored form
      | true =>
          unfold canConnect at able
          simp only [Bool.and_eq_true, Bool.not_eq_true'] at able
          exact .begun _ _ .connect able.1.1 (fun _ => able.1.2) rfl rfl rfl
            rfl
  | signInOpened =>
      unfold update
      dsimp only
      split
      case isTrue busy => exact .ignored form
      case isFalse free => exact .kept _ _ rfl rfl rfl rfl nofun
  | signInClosed =>
      unfold update
      dsimp only
      split
      case isTrue busy => exact .kept _ _ rfl rfl rfl rfl nofun
      case isFalse free => exact .kept _ _ rfl rfl rfl rfl nofun
  | usernameChanged value => exact pressed_typed form _
  | passwordChanged value => exact pressed_typed form _
  | signInPressed => exact pressed_signInPressed form
  | removePressed =>
      unfold update
      dsimp only
      split
      case isFalse unable => exact .ignored form
      case isTrue able =>
          simp only [Bool.and_eq_true, Bool.not_eq_true'] at able
          exact .begun _ _ .remove able.1.1 (fun _ => able.1.2) rfl rfl rfl
            rfl

end RommForm

/-- The form, its requests on their way, and its polls. -/
structure RommLinks where
  form : RommForm
  requests : List RommRequest
  polls : Nat
  /-- The connection was removed, and Connect was not pressed since. -/
  forgotten : Bool

namespace RommLinks

/-- Whether a message can arrive: an answer needs its request. -/
def due (links : RommLinks) (message : RommMessage) : Bool :=
  match message with
  | .linkPolled _ => 0 < links.polls
  | message => message.answers.all (links.requests.contains ·)

/-- The requests on their way once a message has arrived. -/
def waiting (links : RommLinks) (message : RommMessage) : List RommRequest :=
  match message.answers with
  | some request => links.requests.erase request
  | none => links.requests

/-- The polls on their way once a message has arrived. -/
def pollsLeft (links : RommLinks) : RommMessage → Nat
  | .linkPolled _ => links.polls - 1
  | _ => links.polls

/-- Whether the connection stays removed. -/
def forgets (links : RommLinks) (message : RommMessage) : Bool :=
  match message with
  | .removed (.ok _) => true
  | message =>
      match (links.form.update message).2 with
      | .connect _ => false
      | _ => links.forgotten

/-- `update_romm`. -/
def step (links : RommLinks) (message : RommMessage) : RommLinks :=
  if links.due message then
    let updated := links.form.update message
    { form := updated.1
      requests := links.waiting message ++ updated.2.request.toList
      polls := links.pollsLeft message +
        if updated.2 = .poll then 1 else 0
      forgotten := links.forgets message }
  else
    links

def machine : Machine RommLinks RommMessage Unit where
  start := ⟨.default, [], 0, false⟩
  step := fun links message => (links.step message, [])

/-- A poll says that the account is linked while a request of a button is on
its way. -/
def LinkedWhileBusy (links : RommLinks) : RommMessage → Prop
  | .linkPolled (.ok (.linked _)) => links.requests ≠ []
  | _ => False

/-- The flags say what is on its way. -/
structure Sound (links : RommLinks) : Prop where
  busy : (links.form.busy = false ∧ links.requests = []) ∨
    (links.form.busy = true ∧ ∃ request, links.requests = [request])
  polling : links.polls = if links.form.polling then 1 else 0
  pending : links.form.pending.isSome = true → links.form.polling = true
  linking : (RommRequest.connect ∈ links.requests ∨
    RommRequest.remove ∈ links.requests) → links.form.polling = false
  forgotten : links.forgotten = true →
    links.form.pending = none ∧ links.form.polling = false ∧
      RommRequest.connect ∉ links.requests

theorem Sound.idle
    {links : RommLinks}
    (sound : links.Sound)
    (free : links.form.busy = false) :
    links.requests = [] := by
  rcases sound.busy with ⟨-, none⟩ | ⟨busy, -⟩
  · exact none
  · rw [free] at busy
    cases busy

/-- The request that is answered is the only one. -/
theorem Sound.only
    {links : RommLinks}
    (sound : links.Sound)
    {request : RommRequest}
    (member : request ∈ links.requests) :
    links.requests = [request] ∧ links.form.busy = true := by
  rcases sound.busy with ⟨-, none⟩ | ⟨busy, other, one⟩
  · rw [none] at member
    cases member
  · rw [one] at member ⊢
    rw [List.mem_singleton.mp member]
    exact ⟨rfl, busy⟩

/-- What leaves the flags and what is on its way alone. -/
theorem Sound.of_eq
    {links next : RommLinks}
    (sound : links.Sound)
    (busy : next.form.busy = links.form.busy)
    (polling : next.form.polling = links.form.polling)
    (pending : next.form.pending = links.form.pending)
    (requests : next.requests = links.requests)
    (polls : next.polls = links.polls)
    (forgotten : next.forgotten = links.forgotten) :
    next.Sound := by
  refine ⟨?_, ?_, ?_, ?_, ?_⟩
  · rw [busy, requests]
    exact sound.busy
  · rw [polls, polling]
    exact sound.polling
  · rw [pending, polling]
    exact sound.pending
  · rw [requests, polling]
    exact sound.linking
  · rw [forgotten, pending, polling, requests]
    exact sound.forgotten

/-- A button sends a request. -/
theorem Sound.send
    {links next : RommLinks}
    (sound : links.Sound)
    (request : RommRequest)
    (free : links.form.busy = false)
    (still : request = .connect ∨ request = .remove →
      links.form.polling = false)
    (busy : next.form.busy = true)
    (polling : next.form.polling = links.form.polling)
    (pending : next.form.pending = links.form.pending)
    (requests : next.requests = links.requests ++ [request])
    (polls : next.polls = links.polls)
    (forgotten : next.forgotten =
      if request = .connect then false else links.forgotten) :
    next.Sound := by
  have sent : next.requests = [request] := by
    rw [requests, sound.idle free]
    rfl
  refine ⟨Or.inr ⟨busy, request, sent⟩, ?_, ?_, ?_, ?_⟩
  · rw [polls, polling]
    exact sound.polling
  · rw [pending, polling]
    exact sound.pending
  · rw [sent, polling]
    intro links
    apply still
    rcases links with connect | remove
    · exact Or.inl (List.mem_singleton.mp connect).symm
    · exact Or.inr (List.mem_singleton.mp remove).symm
  · rw [forgotten, pending, polling, sent]
    split
    case isTrue connects =>
        intro gone
        cases gone
    case isFalse other =>
        intro gone
        have before := sound.forgotten gone
        refine ⟨before.1, before.2.1, ?_⟩
        intro connects
        exact other (List.mem_singleton.mp connects).symm

/-- A request is answered, and the chain of polls goes on as it was. -/
theorem Sound.answer
    {links next : RommLinks}
    (sound : links.Sound)
    (busy : next.form.busy = false)
    (requests : next.requests = [])
    (polling : next.form.polling = links.form.polling)
    (polls : next.polls = links.polls)
    (pending : next.form.pending = links.form.pending ∨
      next.form.pending = none)
    (forgotten : next.forgotten = true →
      next.form.pending = none ∧ links.form.polling = false) :
    next.Sound := by
  refine ⟨Or.inl ⟨busy, requests⟩, ?_, ?_, ?_, ?_⟩
  · rw [polls, polling]
    exact sound.polling
  · intro shown
    rw [polling]
    apply sound.pending
    rcases pending with same | gone
    · rw [← same]
      exact shown
    · rw [gone] at shown
      cases shown
  · rw [requests]
    rintro (connect | remove)
    · cases connect
    · cases remove
  · intro gone
    obtain ⟨none, still⟩ := forgotten gone
    rw [polling, requests]
    exact ⟨none, still, List.not_mem_nil⟩

theorem step_of_due
    {links : RommLinks}
    {message : RommMessage}
    (due : links.due message = true) :
    links.step message =
      { form := (links.form.update message).1
        requests := links.waiting message ++
          (links.form.update message).2.request.toList
        polls := links.pollsLeft message +
          if (links.form.update message).2 = .poll then 1 else 0
        forgotten := links.forgets message } :=
  if_pos due

/-- The only request is the one a message answers. -/
theorem Sound.answered
    {links : RommLinks}
    (sound : links.Sound)
    {message : RommMessage}
    {request : RommRequest}
    (answers : message.answers = some request)
    (member : request ∈ links.requests) :
    links.waiting message = [] := by
  unfold waiting
  rw [answers, (sound.only member).1]
  exact List.erase_cons_head request []

theorem due_of_pressed
    (links : RommLinks)
    {message : RommMessage}
    (answers : message.answers = none)
    (polled : ∀ result, message ≠ .linkPolled result) :
    links.due message = true := by
  unfold due
  split
  case h_1 result => exact absurd rfl (polled result)
  case h_2 =>
      rw [answers]
      rfl

theorem pollsLeft_of_pressed
    (links : RommLinks)
    {message : RommMessage}
    (polled : ∀ result, message ≠ .linkPolled result) :
    links.pollsLeft message = links.polls := by
  unfold pollsLeft
  split
  case h_1 result => exact absurd rfl (polled result)
  case h_2 => rfl

theorem forgets_of_pressed
    (links : RommLinks)
    {message : RommMessage}
    (answers : message.answers = none) :
    links.forgets message =
      if (links.form.update message).2.request = some .connect then
        false
      else
        links.forgotten := by
  unfold forgets
  split
  case h_1 => cases answers
  case h_2 =>
      split
      case h_1 baseUrl connects =>
          rw [connects]
          rfl
      case h_2 other =>
          rw [if_neg]
          intro asks
          unfold RommEffect.request at asks
          split at asks
          case h_1 => cases asks
          case h_2 baseUrl connects => exact other baseUrl connects
          case h_3 => cases asks
          case h_4 => cases asks
          case h_5 => cases asks

/-- The presses, and what is typed. -/
theorem Sound.press
    {links : RommLinks}
    (sound : links.Sound)
    (message : RommMessage)
    (answers : message.answers = none)
    (polled : ∀ result, message ≠ .linkPolled result) :
    (links.step message).Sound := by
  have pressed := links.form.pressed_update answers polled
  have waits : links.waiting message = links.requests := by
    unfold waiting
    rw [answers]
  rw [step_of_due (links.due_of_pressed answers polled), waits,
    links.pollsLeft_of_pressed polled, links.forgets_of_pressed answers]
  generalize links.form.update message = updated at pressed ⊢
  cases pressed with
  | kept next effect busy polling pending asks rests =>
      refine sound.of_eq busy polling pending ?_ ?_ ?_
      · dsimp only
        rw [asks]
        exact List.append_nil _
      · dsimp only
        rw [if_neg rests]
        rfl
      · dsimp only
        rw [asks]
        rfl
  | begun next effect request free still busy polling pending asks =>
      have rests : effect ≠ .poll := by
        rintro rfl
        cases asks
      refine sound.send request free still busy polling pending ?_ ?_ ?_
      · dsimp only
        rw [asks]
        rfl
      · dsimp only
        rw [if_neg rests]
        rfl
      · dsimp only
        rw [asks]
        simp only [Option.some.injEq]

/-- The answers of the requests. -/
theorem Sound.settle
    {links : RommLinks}
    (sound : links.Sound)
    (message : RommMessage)
    {request : RommRequest}
    (answers : message.answers = some request)
    (member : request ∈ links.requests)
    (due : links.due message = true) :
    (links.step message).Sound := by
  have alone := sound.answered answers member
  have kept : links.forgotten = true →
      links.form.pending = none ∧ links.form.polling = false := by
    intro gone
    have before := sound.forgotten gone
    exact ⟨before.1, before.2.1⟩
  rw [step_of_due due, alone]
  cases message with
  | loaded result =>
      cases result with
      | ok connection => exact sound.answer rfl rfl rfl rfl (Or.inl rfl) kept
      | error error => exact sound.answer rfl rfl rfl rfl (Or.inl rfl) kept
  | linkStarted result =>
      cases answers
      have still := sound.linking (Or.inl member)
      cases result with
      | error error =>
          refine sound.answer rfl rfl rfl rfl (Or.inl rfl) ?_
          intro gone
          exact absurd member (sound.forgotten gone).2.2
      | ok offer =>
          -- The chain begins, and none was alive.
          have none : links.polls = 0 := by
            rw [sound.polling, still]
            rfl
          refine ⟨Or.inl ⟨rfl, rfl⟩, ?_, fun _ => rfl, ?_, ?_⟩
          · change links.polls + 1 = 1
            rw [none]
          · rintro (connect | remove)
            · cases connect
            · cases remove
          · intro gone
            exact absurd member (sound.forgotten gone).2.2
  | signedIn result =>
      cases result with
      | ok connection =>
          refine sound.answer rfl rfl rfl rfl (Or.inr rfl) ?_
          intro gone
          exact ⟨rfl, (sound.forgotten gone).2.1⟩
      | error error =>
          unfold forgets RommForm.update RommForm.signedIn
          dsimp only
          split
          case isTrue dialog =>
              exact sound.answer rfl rfl rfl rfl (Or.inl rfl) kept
          case isFalse bare =>
              exact sound.answer rfl rfl rfl rfl (Or.inl rfl) kept
  | removed result =>
      cases answers
      have still := sound.linking (Or.inr member)
      cases result with
      | ok done =>
          exact sound.answer rfl rfl rfl rfl (Or.inr rfl)
            fun _ => ⟨rfl, still⟩
      | error error => exact sound.answer rfl rfl rfl rfl (Or.inl rfl) kept
  | refreshPressed => cases answers
  | urlChanged value => cases answers
  | connectPressed => cases answers
  | linkPolled result => cases answers
  | signInOpened => cases answers
  | signInClosed => cases answers
  | usernameChanged value => cases answers
  | passwordChanged value => cases answers
  | signInPressed => cases answers
  | removePressed => cases answers

/-- A poll ends the chain. -/
theorem Sound.stop
    {links next : RommLinks}
    (sound : links.Sound)
    (busy : next.form.busy = links.form.busy)
    (requests : next.requests = links.requests)
    (polling : next.form.polling = false)
    (pending : next.form.pending = none)
    (polls : next.polls = 0)
    (forgotten : next.forgotten = links.forgotten) :
    next.Sound := by
  refine ⟨?_, ?_, ?_, fun _ => polling, ?_⟩
  · rw [busy, requests]
    exact sound.busy
  · rw [polls, polling]
    rfl
  · rw [pending]
    intro shown
    cases shown
  · rw [forgotten, requests]
    intro gone
    exact ⟨pending, polling, (sound.forgotten gone).2.2⟩

theorem Sound.poll
    {links : RommLinks}
    (sound : links.Sound)
    (result : Except String RommLink)
    (due : 0 < links.polls)
    (calm : ¬ links.LinkedWhileBusy (.linkPolled result)) :
    (links.step (.linkPolled result)).Sound := by
  have polling : links.form.polling = true := by
    cases alive : links.form.polling with
    | true => rfl
    | false =>
        have none := sound.polling
        rw [alive] at none
        change links.polls = 0 at none
        omega
  have one : links.polls = 1 := by
    rw [sound.polling, polling]
    rfl
  have last : links.polls - 1 = 0 := by omega
  have arrives : links.due (.linkPolled result) = true := decide_eq_true due
  rw [step_of_due arrives]
  cases result with
  | error error =>
      exact sound.stop rfl (List.append_nil _) rfl rfl last rfl
  | ok link =>
      cases link with
      | idle => exact sound.stop rfl (List.append_nil _) rfl rfl last rfl
      | expired => exact sound.stop rfl (List.append_nil _) rfl rfl last rfl
      | denied => exact sound.stop rfl (List.append_nil _) rfl rfl last rfl
      | linked settings =>
          have none : links.requests = [] := not_not.mp calm
          have free : links.form.busy = false := by
            rcases sound.busy with ⟨free, -⟩ | ⟨-, request, one⟩
            · exact free
            · rw [none] at one
              cases one
          exact sound.stop free.symm (List.append_nil _) rfl rfl last rfl
      | waiting code link secondsLeft =>
          unfold forgets RommForm.update RommForm.linkPolled
          dsimp only
          cases shown : links.form.pending with
          | none => exact sound.stop rfl (List.append_nil _) rfl rfl last rfl
          | some pending =>
              refine ⟨?_, ?_, fun _ => polling, ?_, ?_⟩
              · dsimp only
                rw [show links.waiting _ = links.requests from rfl,
                  show RommEffect.poll.request.toList = [] from rfl,
                  List.append_nil]
                exact sound.busy
              · dsimp only
                rw [polling]
                change links.polls - 1 + 1 = 1
                rw [last]
              · intro linking
                apply sound.linking
                rwa [show links.waiting (.linkPolled (.ok (.waiting code link
                  secondsLeft))) ++ RommEffect.poll.request.toList =
                    links.requests from List.append_nil _] at linking
              · intro gone
                have before := (sound.forgotten gone).1
                rw [shown] at before
                cases before

theorem Sound.step
    {links : RommLinks}
    (sound : links.Sound)
    (message : RommMessage)
    (calm : ¬ links.LinkedWhileBusy message) :
    (links.step message).Sound := by
  by_cases due : links.due message = true
  · by_cases polled : ∃ result, message = .linkPolled result
    · obtain ⟨result, rfl⟩ := polled
      exact sound.poll result (of_decide_eq_true due) calm
    · have other : ∀ result, message ≠ .linkPolled result := by
        intro result same
        exact polled ⟨result, same⟩
      cases answers : message.answers with
      | none => exact sound.press message answers other
      | some request =>
          refine sound.settle message answers ?_ due
          unfold RommLinks.due at due
          split at due
          case h_1 result => exact absurd rfl (other result)
          case h_2 =>
              rw [answers] at due
              exact List.contains_iff_mem.mp due
  · rw [show links.step message = links from if_neg due]
    exact sound

theorem sound_run
    (messages : List RommMessage)
    (along : machine.Along
      (fun links message => ¬ links.LinkedWhileBusy message) messages) :
    (machine.run messages).Sound := by
  apply machine.run_induction_along _ Sound _ _ messages along
  · refine ⟨Or.inl ⟨rfl, rfl⟩, rfl, ?_, fun _ => rfl, ?_⟩
    · intro shown
      cases shown
    · intro gone
      cases gone
  · intro links message sound calm
    exact sound.step message calm

end RommLinks

/-! ## Stremio -/

/-- `StremioConnection`. -/
structure StremioConnection where
  linkedAt : String
  deriving DecidableEq, Repr

/-- `StremioLink`: what a poll says of the link. -/
inductive StremioLink
  | idle
  | expired
  | waiting (code link : String) (secondsLeft : Nat)
  | linked (connection : StremioConnection)
  deriving DecidableEq, Repr

/-- The messages of the flow. -/
inductive StremioMessage
  | linkPressed
  | linkStarted (result : Except String PendingLink)
  | linkPolled (result : Except String StremioLink)
  | connectionLoaded (result : Except String (Option StremioConnection))
  | unlinkPressed
  | unlinked (result : Except String Unit)
  | sourceRefreshed (result : Except String Unit)

/-- What the shell does for the flow. -/
inductive StremioEffect
  | nothing
  | startLink
  | unlink
  | poll
  | publish
  | reloadConnection
  deriving DecidableEq, Repr

/-- `Flow`. -/
structure StremioFlow where
  connection : Option StremioConnection
  /-- The connection is being read. -/
  reading : Bool
  pending : Option PendingLink
  /-- A request is on its way. -/
  busy : Bool
  error : Option String
  expired : Bool
  deriving DecidableEq, Repr

namespace StremioFlow

/-- `Flow::default`. -/
def default : StremioFlow where
  connection := none
  reading := false
  pending := none
  busy := false
  error := none
  expired := false

/-- `link_started`. -/
def linkStarted
    (flow : StremioFlow)
    (result : Except String PendingLink) : StremioFlow × StremioEffect :=
  let free := { flow with busy := false }
  match result with
  | .error error => ({ free with error := some error }, .nothing)
  | .ok pending =>
      ({ free with
          error := none
          expired := false
          pending := some pending }, .poll)

/-- `link_polled`. -/
def linkPolled
    (flow : StremioFlow)
    (result : Except String StremioLink) : StremioFlow × StremioEffect :=
  match result with
  | .ok (.waiting code link secondsLeft) =>
      ({ flow with pending := some ⟨code, link, secondsLeft⟩ }, .poll)
  | .ok (.linked connection) =>
      ({ flow with
          pending := none
          error := none
          expired := false
          connection := some connection }, .publish)
  | .ok .expired =>
      ({ flow with
          pending := none
          error := none
          expired := true }, .nothing)
  | .ok .idle => ({ flow with pending := none }, .reloadConnection)
  | .error error =>
      ({ flow with
          pending := none
          error := some error }, .nothing)

/-- `unlinked`. -/
def unlinked
    (flow : StremioFlow)
    (result : Except String Unit) : StremioFlow :=
  let free := { flow with busy := false }
  match result with
  | .ok _ =>
      { free with
        connection := none
        pending := none
        error := none
        expired := false }
  | .error error => { free with error := some error }

/-- `connection_read`. -/
def connectionRead
    (flow : StremioFlow)
    (result : Except String (Option StremioConnection)) : StremioFlow :=
  let read := { flow with reading := false }
  match result with
  | .ok connection =>
      { read with
        connection := connection
        error := none
        expired := false }
  | .error error => { read with error := some error }

/-- `begin_read`. -/
def beginRead (flow : StremioFlow) : StremioFlow :=
  { flow with reading := true }

/-- `update`. -/
def update
    (flow : StremioFlow) : StremioMessage → StremioFlow × StremioEffect
  | .linkPressed =>
      ({ flow with
          busy := true
          error := none
          expired := false }, .startLink)
  | .linkStarted result => flow.linkStarted result
  | .linkPolled result => flow.linkPolled result
  | .connectionLoaded result => (flow.connectionRead result, .nothing)
  | .unlinkPressed =>
      ({ flow with
          busy := true
          error := none }, .unlink)
  | .unlinked result => (flow.unlinked result, .nothing)
  | .sourceRefreshed _ => (flow, .nothing)

end StremioFlow

/-- A request of the Stremio flow. -/
inductive StremioRequest
  | startLink
  | unlink
  deriving DecidableEq, Repr

/-- The flow, its requests on their way, its polls, and its reads of the
connection. -/
structure StremioLinks where
  flow : StremioFlow
  requests : List StremioRequest
  polls : Nat
  reads : Nat
  /-- The account was unlinked, and Link was not pressed since. -/
  forgotten : Bool

/-- What can happen to the flow. -/
inductive StremioStep
  | message (message : StremioMessage)
  /-- The settings screen opens, which reads the connection. -/
  | openSettings

namespace StremioLinks

/-- Whether a message can arrive: a press needs its control to be enabled
(`pressable`), an answer needs its request. -/
def due (links : StremioLinks) : StremioMessage → Bool
  | .linkPressed => !links.flow.busy
  | .unlinkPressed => !links.flow.busy && links.flow.connection.isSome
  | .linkStarted _ => links.requests.contains .startLink
  | .unlinked _ => links.requests.contains .unlink
  | .linkPolled _ => 0 < links.polls
  | .connectionLoaded _ => 0 < links.reads
  | .sourceRefreshed _ => true

/-- `load_stremio_connection`. -/
def loadConnection (links : StremioLinks) : StremioLinks :=
  { links with
    flow := links.flow.beginRead
    reads := links.reads + 1 }

/-- `run_stremio_effect`, for what the flow goes by. -/
def run (links : StremioLinks) : StremioEffect → StremioLinks
  | .startLink => { links with requests := links.requests ++ [.startLink] }
  | .unlink => { links with requests := links.requests ++ [.unlink] }
  | .poll => { links with polls := links.polls + 1 }
  | .reloadConnection => links.loadConnection
  | .nothing => links
  | .publish => links

/-- A message leaves what is on its way. -/
def arrive (links : StremioLinks) : StremioMessage → StremioLinks
  | .linkPressed => { links with forgotten := false }
  | .unlinkPressed => links
  | .linkStarted _ =>
      { links with requests := links.requests.erase .startLink }
  | .unlinked (.ok _) =>
      { links with
        requests := links.requests.erase .unlink
        forgotten := true }
  | .unlinked (.error _) =>
      { links with requests := links.requests.erase .unlink }
  | .linkPolled _ => { links with polls := links.polls - 1 }
  | .connectionLoaded _ => { links with reads := links.reads - 1 }
  | .sourceRefreshed _ => links

def step (links : StremioLinks) : StremioStep → StremioLinks
  | .message message =>
      if links.due message then
        let updated := links.flow.update message
        { links.arrive message with flow := updated.1 }.run updated.2
      else
        links
  | .openSettings => links.loadConnection

def machine : Machine StremioLinks StremioStep Unit where
  start := ⟨.default, [], 0, 0, false⟩
  step := fun links step => (links.step step, [])

/-- A code is offered while a poll of an earlier one is on its way. -/
def SecondChain (links : StremioLinks) : StremioStep → Prop
  | .message (.linkStarted (.ok _)) => 0 < links.polls
  | _ => False

/-- A poll that says the code is waiting is answered after the account was
unlinked, and before Link is pressed again. -/
def CodeReturns (links : StremioLinks) : StremioStep → Prop
  | .message (.linkPolled (.ok (.waiting _ _ _))) => links.forgotten = true
  | _ => False

/-- The flag says what is on its way, and the code has its chain. -/
structure Sound (links : StremioLinks) : Prop where
  busy : (links.flow.busy = false ∧ links.requests = []) ∨
    (links.flow.busy = true ∧ ∃ request, links.requests = [request])
  one : links.polls ≤ 1
  pending : links.flow.pending.isSome = true → 0 < links.polls
  forgotten : links.forgotten = true →
    links.flow.pending = none ∧ StremioRequest.startLink ∉ links.requests

theorem Sound.only
    {links : StremioLinks}
    (sound : links.Sound)
    {request : StremioRequest}
    (member : request ∈ links.requests) :
    links.requests = [request] := by
  rcases sound.busy with ⟨-, none⟩ | ⟨-, other, one⟩
  · rw [none] at member
    cases member
  · rw [one] at member ⊢
    rw [List.mem_singleton.mp member]

theorem Sound.idle
    {links : StremioLinks}
    (sound : links.Sound)
    (free : links.flow.busy = false) :
    links.requests = [] := by
  rcases sound.busy with ⟨-, none⟩ | ⟨busy, -⟩
  · exact none
  · rw [free] at busy
    cases busy

/-- A read of the connection is none of the flow's requests. -/
theorem Sound.loadConnection
    {links : StremioLinks}
    (sound : links.Sound) :
    links.loadConnection.Sound :=
  ⟨sound.busy, sound.one, sound.pending, sound.forgotten⟩

/-- A poll that does not say that the code is waiting ends the chain. -/
theorem Sound.stop
    {links : StremioLinks}
    (sound : links.Sound)
    (flow : StremioFlow)
    (busy : flow.busy = links.flow.busy)
    (pending : flow.pending = none) :
    { links with
      flow := flow
      polls := links.polls - 1 }.Sound := by
  refine ⟨?_, Nat.le_trans (Nat.sub_le _ _) sound.one, ?_, ?_⟩
  · dsimp only
    rw [busy]
    exact sound.busy
  · dsimp only
    rw [pending]
    intro shown
    cases shown
  · intro gone
    exact ⟨pending, (sound.forgotten gone).2⟩

theorem Sound.poll
    {links : StremioLinks}
    (sound : links.Sound)
    (result : Except String StremioLink)
    (due : 0 < links.polls)
    (kept : ¬ links.CodeReturns (.message (.linkPolled result))) :
    ({ links.arrive (.linkPolled result) with
      flow := (links.flow.linkPolled result).1 }.run
        (links.flow.linkPolled result).2).Sound := by
  cases result with
  | error error => exact sound.stop _ rfl rfl
  | ok link =>
      cases link with
      | idle =>
          have stopped := sound.stop { links.flow with pending := none } rfl
            rfl
          exact stopped.loadConnection
      | expired => exact sound.stop _ rfl rfl
      | linked connection => exact sound.stop _ rfl rfl
      | waiting code link secondsLeft =>
          have one := sound.one
          refine ⟨sound.busy, ?_, ?_, ?_⟩
          · change links.polls - 1 + 1 ≤ 1
            omega
          · intro shown
            exact Nat.succ_pos _
          · intro gone
            exact absurd gone kept

theorem Sound.message
    {links : StremioLinks}
    (sound : links.Sound)
    (message : StremioMessage)
    (due : links.due message = true)
    (single : ¬ links.SecondChain (.message message))
    (kept : ¬ links.CodeReturns (.message message)) :
    ({ links.arrive message with
      flow := (links.flow.update message).1 }.run
        (links.flow.update message).2).Sound := by
  cases message with
  | linkPressed =>
      have free : links.flow.busy = false :=
        Bool.not_eq_true' _ ▸ due
      have sent : links.requests ++ [StremioRequest.startLink] =
          [.startLink] := by
        rw [sound.idle free]
        rfl
      refine ⟨Or.inr ⟨rfl, .startLink, sent⟩, sound.one, sound.pending, ?_⟩
      intro gone
      cases gone
  | unlinkPressed =>
      have free : links.flow.busy = false :=
        Bool.not_eq_true' _ ▸ (Bool.and_eq_true_iff.mp due).1
      have sent : links.requests ++ [StremioRequest.unlink] = [.unlink] := by
        rw [sound.idle free]
        rfl
      refine ⟨Or.inr ⟨rfl, .unlink, sent⟩, sound.one, sound.pending, ?_⟩
      intro gone
      refine ⟨(sound.forgotten gone).1, ?_⟩
      change StremioRequest.startLink ∉ links.requests ++ [.unlink]
      rw [sent]
      intro starts
      cases List.mem_singleton.mp starts
  | linkStarted result =>
      have member : StremioRequest.startLink ∈ links.requests :=
        List.contains_iff_mem.mp due
      have answered : links.requests.erase .startLink = [] := by
        rw [sound.only member]
        exact List.erase_cons_head _ _
      cases result with
      | error error =>
          refine ⟨Or.inl ⟨rfl, answered⟩, sound.one, sound.pending, ?_⟩
          intro gone
          exact absurd member (sound.forgotten gone).2
      | ok pending =>
          have none : links.polls = 0 := Nat.eq_zero_of_not_pos single
          refine ⟨Or.inl ⟨rfl, answered⟩, ?_, ?_, ?_⟩
          · change links.polls + 1 ≤ 1
            omega
          · intro shown
            exact Nat.succ_pos _
          · intro gone
            exact absurd member (sound.forgotten gone).2
  | linkPolled result =>
      exact sound.poll result (of_decide_eq_true due) kept
  | connectionLoaded result =>
      cases result with
      | error error =>
          exact ⟨sound.busy, sound.one, sound.pending, sound.forgotten⟩
      | ok connection =>
          exact ⟨sound.busy, sound.one, sound.pending, sound.forgotten⟩
  | unlinked result =>
      have member : StremioRequest.unlink ∈ links.requests :=
        List.contains_iff_mem.mp due
      have answered : links.requests.erase .unlink = [] := by
        rw [sound.only member]
        exact List.erase_cons_head _ _
      have others : StremioRequest.startLink ∉
          links.requests.erase .unlink := by
        rw [answered]
        exact List.not_mem_nil
      cases result with
      | error error =>
          refine ⟨Or.inl ⟨rfl, answered⟩, sound.one, sound.pending, ?_⟩
          intro gone
          exact ⟨(sound.forgotten gone).1, others⟩
      | ok done =>
          refine ⟨Or.inl ⟨rfl, answered⟩, sound.one, ?_, ?_⟩
          · intro shown
            cases shown
          · intro gone
            exact ⟨rfl, others⟩
  | sourceRefreshed result =>
      exact ⟨sound.busy, sound.one, sound.pending, sound.forgotten⟩

theorem Sound.step
    {links : StremioLinks}
    (sound : links.Sound)
    (step : StremioStep)
    (single : ¬ links.SecondChain step)
    (kept : ¬ links.CodeReturns step) :
    (links.step step).Sound := by
  cases step with
  | openSettings => exact sound.loadConnection
  | message message =>
      change StremioLinks.Sound (if _ then _ else _)
      split
      case isTrue due => exact sound.message message due single kept
      case isFalse early => exact sound

theorem sound_run
    (steps : List StremioStep)
    (along : machine.Along
      (fun links step => ¬ links.SecondChain step ∧ ¬ links.CodeReturns step)
      steps) :
    (machine.run steps).Sound := by
  apply machine.run_induction_along _ Sound _ _ steps along
  · refine ⟨Or.inl ⟨rfl, rfl⟩, Nat.zero_le 1, ?_, ?_⟩
    · intro shown
      cases shown
    · intro gone
      cases gone
  · intro links step sound kept
    exact sound.step step kept.1 kept.2

end StremioLinks

/-! ## One chain of polls for each -/

/-- One chain of polls for each account.  For the RomM form in every run in
which no poll says that the account is linked while a request of a button is
on its way, and for the Stremio flow in every run in which no code is offered
while a poll of an earlier one is on its way and no poll brings a code back
after the account was unlinked:  at most one poll is on its way;  a code on
screen has its poll;  while a request is on its way the flow is busy;  and
once the account was let go no code is on screen until one is asked for. -/
theorem one_poll_chain
    (messages : List RommMessage)
    (steps : List StremioStep) :
    (RommLinks.machine.Along
        (fun links message => ¬ links.LinkedWhileBusy message) messages →
      let links := RommLinks.machine.run messages
      links.polls ≤ 1 ∧
        (links.form.pending.isSome = true → 0 < links.polls) ∧
        (links.requests ≠ [] → links.form.busy = true) ∧
        (links.forgotten = true → links.form.pending = none)) ∧
    (StremioLinks.machine.Along
        (fun links step => ¬ links.SecondChain step ∧
          ¬ links.CodeReturns step) steps →
      let links := StremioLinks.machine.run steps
      links.polls ≤ 1 ∧
        (links.flow.pending.isSome = true → 0 < links.polls) ∧
        (links.requests ≠ [] → links.flow.busy = true) ∧
        (links.forgotten = true → links.flow.pending = none)) := by
  constructor
  · intro along links
    have sound : links.Sound := RommLinks.sound_run messages along
    refine ⟨?_, ?_, ?_, fun gone => (sound.forgotten gone).1⟩
    · rw [sound.polling]
      split
      case isTrue alive => exact Nat.le_refl 1
      case isFalse ended => exact Nat.zero_le 1
    · intro shown
      rw [sound.polling, if_pos (sound.pending shown)]
      exact Nat.one_pos
    · intro waiting
      rcases sound.busy with ⟨-, none⟩ | ⟨busy, -⟩
      · exact absurd none waiting
      · exact busy
  · intro along links
    have sound : links.Sound := StremioLinks.sound_run steps along
    refine ⟨sound.one, sound.pending, ?_,
      fun gone => (sound.forgotten gone).1⟩
    intro waiting
    rcases sound.busy with ⟨-, none⟩ | ⟨busy, -⟩
    · exact absurd none waiting
    · exact busy

/-- RomM is connected, and the user lets it go again. -/
def connected : List RommMessage :=
  [.urlChanged "romm",
    .connectPressed,
    .linkStarted (.ok ⟨"CODE", "romm/link", 300⟩),
    .linkPolled (.ok (.waiting "CODE" "romm/link" 290)),
    .linkPolled (.ok (.linked ⟨"romm", true⟩)),
    .removePressed,
    .removed (.ok ())]

/-- Stremio is linked, and the user lets it go again. -/
def linked : List StremioStep :=
  [.openSettings,
    .message .linkPressed,
    .message (.linkStarted (.ok ⟨"CODE", "stremio/link", 300⟩)),
    .message (.linkPolled (.ok (.linked ⟨"today"⟩))),
    .message .unlinkPressed,
    .message (.unlinked (.ok ()))]

theorem one_poll_chain_linked :
    (RommLinks.machine.Along
        (fun links message => ¬ links.LinkedWhileBusy message) connected ∧
      (RommLinks.machine.run connected).polls ≤ 1) ∧
    StremioLinks.machine.Along
        (fun links step => ¬ links.SecondChain step ∧
          ¬ links.CodeReturns step) linked ∧
      (StremioLinks.machine.run linked).polls ≤ 1 := by
  have romm : RommLinks.machine.Along
      (fun links message => ¬ links.LinkedWhileBusy message) connected := by
    apply Machine.along_of_alongFrom
    refine ⟨id, id, id, id, ?_, id, id, trivial⟩
    intro busy
    exact busy (by decide)
  have stremio : StremioLinks.machine.Along
      (fun links step => ¬ links.SecondChain step ∧
        ¬ links.CodeReturns step) linked := by
    apply Machine.along_of_alongFrom
    refine ⟨⟨id, id⟩, ⟨id, id⟩, ⟨?_, id⟩, ⟨id, id⟩, ⟨id, id⟩, ⟨id, id⟩,
      trivial⟩
    intro second
    exact Nat.lt_irrefl 0 second
  obtain ⟨rommKept, stremioKept⟩ := one_poll_chain connected linked
  exact ⟨⟨romm, (rommKept romm).1⟩, stremio, (stremioKept stremio).1⟩

/-- While a code is polled for the settings are read again; the poll that says
the account is linked comes first. -/
def linkedWhileLoading : List RommMessage :=
  [.urlChanged "romm",
    .connectPressed,
    .linkStarted (.ok ⟨"CODE", "romm/link", 300⟩),
    .refreshPressed,
    .linkPolled (.ok (.linked ⟨"romm", true⟩))]

/-- A request is on its way and the form is not busy, so that Connect can be
pressed twice. -/
def connectedTwice : List RommMessage :=
  linkedWhileLoading ++
    [.connectPressed,
      .loaded (.ok (some ⟨"romm", true⟩)),
      .connectPressed,
      .linkStarted (.ok ⟨"CODE", "romm/link", 300⟩),
      .linkStarted (.ok ⟨"NEXT", "romm/link", 300⟩)]

/-- Link is pressed again while the first code is polled for. -/
def linkedTwice : List StremioStep :=
  [.message .linkPressed,
    .message (.linkStarted (.ok ⟨"CODE", "stremio/link", 300⟩)),
    .message .linkPressed,
    .message (.linkStarted (.ok ⟨"NEXT", "stremio/link", 300⟩))]

/-- A linked account is linked again and unlinked before the code is
approved. -/
def unlinkedWhilePolling : List StremioStep :=
  [.openSettings,
    .message (.connectionLoaded (.ok (some ⟨"today"⟩))),
    .message .linkPressed,
    .message (.linkStarted (.ok ⟨"CODE", "stremio/link", 300⟩)),
    .message .unlinkPressed,
    .message (.unlinked (.ok ())),
    .message (.linkPolled (.ok (.waiting "CODE" "stremio/link" 290)))]

/-- Two chains for RomM after a request without its flag, two chains for
Stremio, and a Stremio code that comes back. -/
theorem more_than_one_poll_chain :
    ((RommLinks.machine.run linkedWhileLoading).requests = [.load] ∧
        (RommLinks.machine.run linkedWhileLoading).form.busy = false ∧
        (RommLinks.machine.run connectedTwice).polls = 2) ∧
      (StremioLinks.machine.run linkedTwice).polls = 2 ∧
      (StremioLinks.machine.run unlinkedWhilePolling).forgotten = true ∧
      (StremioLinks.machine.run unlinkedWhilePolling).flow.pending =
        some ⟨"CODE", "stremio/link", 290⟩ := by
  refine ⟨⟨?_, ?_, ?_⟩, ?_, ?_, ?_⟩
  all_goals decide

end Frontend
end Hearthdeck
