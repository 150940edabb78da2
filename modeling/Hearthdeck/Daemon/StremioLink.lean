import Hearthdeck.Daemon.AccountLink
import Hearthdeck.Daemon.Activity
import Hearthdeck.Daemon.Serving

/-!
# The link to Stremio

`LinkState` holds the one link a user may be waiting on, and a table of one
row the session.  A poll copies the pending link, asks the link service about
its code without the lock, and takes what is pending when the account is
linked.  Unlinking drops the pending link, then the session, then the items of
the catalog that came from it.  Seen as an account with one pending approval,
the link keeps what such an account keeps.
-/

namespace Hearthdeck
namespace Daemon

open Foundation

/-! ## Answers of the link service -/

/-- `LinkOffer`. -/
structure LinkOffer where
  code : String
  link : String
  qr : String
  expiresInSeconds : Nat
  deriving DecidableEq

/-- `LINK_WINDOW`, in nanoseconds. -/
def linkWindow : Nat := 300 * 1000000000

/-- `MAX_AUTH_KEY`. -/
def maxAuthKey : Nat := 512

/-- A text that is not blank, without the space around it. -/
def solidText (value : Option Json) : Option String :=
  ((value.bind Json.asStr).map Frontend.trimmed).filter
    fun text => !text.isEmpty

/-- `string_field`. -/
def stringField (value : Json) (field : String) : Option String :=
  solidText (value.get field)

/-- `envelope_error`. -/
def envelopeError (body : Json) : Option String :=
  match body.get "error" with
  | none => none
  | some .null => none
  | some error =>
      some (((error.get "message").bind Json.asStr).getD "unknown error")

/-- `request_link`, told the answer of the service. -/
def requestLink (answer : Except String Json) : Except String LinkOffer :=
  match answer with
  | .error error => .error error
  | .ok body =>
      match envelopeError body with
      | some error =>
          .error ("the Stremio link service refused the request: " ++ error)
      | none =>
          let payload :=
            match body.get "result" with
            | some (.object fields) => .object fields
            | _ => body
          match stringField payload "code" with
          | none => .error "the Stremio link service returned no code"
          | some code =>
              let link := (stringField payload "link").getD
                ("https://link.stremio.com/" ++ code)
              .ok
                { code := code
                  link := link
                  qr := ((stringField payload "qrcode").or
                    (stringField payload "qr")).getD
                      ("https://link.stremio.com/qr?data=" ++ link)
                  expiresInSeconds := linkWindow / 1000000000 }

/-- `interpret_read`: the session key, if the account is linked. -/
def interpretRead (body : Json) : Option String :=
  (body.get "result").bind fun result => solidText (result.get "authKey")

/-! ## The link and the session -/

/-- `PendingLink`. -/
structure StremioPending where
  code : String
  offer : LinkOffer
  started : Instant
  /-- Which approval it is.  Read by no code. -/
  approval : Approval
  deriving DecidableEq

/-- The row of `stremio_settings`. -/
structure StremioRow where
  authKey : String
  linkedAt : String
  updatedAt : String
  /-- How many removals had completed when the call began that the key comes
  from.  Read by no code. -/
  began : Nat
  deriving DecidableEq

/-- `StremioConnection`. -/
structure StremioConnection where
  linkedAt : String
  updatedAt : String

/-- `ControlError` of the link to Stremio. -/
inductive StremioError
  | link (source : String)
  | storage (source : String)
  | catalog (source : String)

/-- `LinkStatus` of the link to Stremio. -/
inductive StremioStatus
  | idle
  | expired
  | waiting (code link qr : String) (secondsLeft : Nat)
  | linked (connection : StremioConnection)

/-- What a call returned. -/
inductive StremioReturned
  | cleared (result : Except StremioError Unit)
  | offered (result : Except StremioError LinkOffer)
  | polled (result : Except StremioError StremioStatus)

/-- What the calls share, and what a run notes about it. -/
structure StremioAccount where
  pending : Option StremioPending := none
  stored : Option StremioRow := none
  /-- The items of the catalog whose source is the account. -/
  items : List String := []
  /-- The last reading of the clock. -/
  clock : Instant := 0
  /-- The approval that was put last, unless a call removed it since.  Read by
  no code, as all that follows. -/
  standing : Option Approval := none
  puts : Nat := 0
  /-- How many calls of `clear` have completed. -/
  clears : Nat := 0
  /-- What the last step returned to its caller. -/
  returned : Option StremioReturned := none

/-- The calls of `Control`. -/
inductive StremioCall
  | startLink
  | pollLink
  | clear

/-- The calls under way, each named by its next section, with the removals
that had completed when it began. -/
inductive StremioTask
  /-- `start_link`. -/
  | requestLink (began : Nat)
  | put (offer : LinkOffer) (started : Instant) (began : Nat)
  /-- `poll_link`, after its first section with a copy of the link. -/
  | read
  | expire (pending : StremioPending)
  | request (pending : StremioPending)
  | settle (pending : StremioPending) (authKey : String)
  | saveSession (pending : StremioPending) (authKey : String)
  | connection
  /-- `clear`. -/
  | cancel
  | clearSession
  | replaceSource

/-- What a section is answered from outside. -/
structure StremioReply where
  now : Instant := 0
  /-- The error of the statement. -/
  fault : Option String := none
  updatedAt : String := ""
  /-- What `get_json` returned. -/
  answer : Except String Json := .error ""

namespace StremioAccount

/-- A call ends. -/
def ends
    (account : StremioAccount)
    (returned : StremioReturned) : StremioAccount × List StremioTask :=
  ({ account with returned := some returned }, [])

/-- A call goes on. -/
def goes
    (account : StremioAccount)
    (task : StremioTask) : StremioAccount × List StremioTask :=
  ({ account with returned := none }, [task])

/-- `start_link`, its request.  The clock is read before the lock is taken. -/
def requestLink
    (account : StremioAccount)
    (began : Nat)
    (reply : StremioReply) : StremioAccount × List StremioTask :=
  match Daemon.requestLink reply.answer with
  | .error error => account.ends (.offered (.error (.link error)))
  | .ok offer =>
      let now := max account.clock reply.now
      { account with clock := now }.goes (.put offer now began)

/-- `LinkState::start`. -/
def put
    (account : StremioAccount)
    (offer : LinkOffer)
    (started : Instant)
    (began : Nat) : StremioAccount × List StremioTask :=
  let approval := ⟨account.puts, began⟩
  { account with
    pending := some ⟨offer.code, offer, started, approval⟩
    standing := some approval
    puts := account.puts + 1 }.ends (.offered (.ok offer))

/-- `LinkState::cancel`, which unlinks. -/
def cancel (account : StremioAccount) : StremioAccount :=
  { account with pending := none, standing := none }

/-- A poll drops what is pending. -/
def take (account : StremioAccount) : StremioAccount :=
  { account with pending := none }

/-- `LinkState::poll`, its copy of what is pending. -/
def read
    (account : StremioAccount)
    (reply : StremioReply) : StremioAccount × List StremioTask :=
  match account.pending with
  | none => account.ends (.polled (.ok .idle))
  | some pending =>
      let now := max account.clock reply.now
      let read : StremioAccount := { account with clock := now }
      if linkWindow ≤ now - pending.started then
        read.goes (.expire pending)
      else
        read.goes (.request pending)

/-- `LinkState::poll`, its request. -/
def request
    (account : StremioAccount)
    (pending : StremioPending)
    (reply : StremioReply) : StremioAccount × List StremioTask :=
  match reply.answer with
  | .error error => account.ends (.polled (.error (.link error)))
  | .ok body =>
      match interpretRead body with
      | some authKey => account.goes (.settle pending authKey)
      | none =>
          let now := max account.clock reply.now
          let left := (linkWindow - (now - pending.started)) / 1000000000
          { account with clock := now }.ends
            (.polled (.ok (.waiting pending.offer.code pending.offer.link
              pending.offer.qr left)))

/-- `save_session`, up to its first statement. -/
def saveSession
    (account : StremioAccount)
    (authKey : String)
    (began : Nat)
    (reply : StremioReply) : StremioAccount × List StremioTask :=
  let failed (error : String) :=
    account.ends (.polled (.error (.link error)))
  let authKey := Frontend.trimmed authKey
  if authKey.isEmpty then
    failed "the Stremio link produced an empty session key"
  else if maxAuthKey < authKey.utf8ByteSize then
    failed ("the Stremio link produced a session key longer than " ++
      "512 characters")
  else
    match reply.fault with
    | some error => failed error
    | none =>
        -- Linking again keeps the time of the first link.
        let linkedAt := (account.stored.map StremioRow.linkedAt).getD
          reply.updatedAt
        { account with
          stored := some ⟨authKey, linkedAt, reply.updatedAt, began⟩ }.goes
            .connection

/-- `save_session`, its reading of what it stored. -/
def connection
    (account : StremioAccount)
    (reply : StremioReply) : StremioAccount × List StremioTask :=
  match reply.fault, account.stored with
  | some error, _ => account.ends (.polled (.error (.link error)))
  | none, none =>
      account.ends (.polled (.error
        (.link "the Stremio session did not persist")))
  | none, some row =>
      account.ends (.polled (.ok (.linked ⟨row.linkedAt, row.updatedAt⟩)))

/-- `clear`, the row of the session. -/
def clearSession
    (account : StremioAccount)
    (reply : StremioReply) : StremioAccount × List StremioTask :=
  match reply.fault with
  | some error => account.ends (.cleared (.error (.storage error)))
  | none => { account with stored := none }.goes .replaceSource

/-- `clear`, the items of the catalog, and with them its end. -/
def replaceSource
    (account : StremioAccount)
    (reply : StremioReply) : StremioAccount × List StremioTask :=
  match reply.fault with
  | some error => account.ends (.cleared (.error (.catalog error)))
  | none =>
      { account with items := [], clears := account.clears + 1 }.ends
        (.cleared (.ok ()))

/-- The next section of a call. -/
def perform
    (account : StremioAccount)
    (task : StremioTask)
    (reply : StremioReply) : StremioAccount × List StremioTask :=
  match task with
  | .requestLink began => account.requestLink began reply
  | .put offer started began => account.put offer started began
  | .read => account.read reply
  | .expire _ => account.take.ends (.polled (.ok .expired))
  | .request pending => account.request pending reply
  | .settle pending authKey =>
      account.take.goes (.saveSession pending authKey)
  | .saveSession pending authKey =>
      account.saveSession authKey pending.approval.began reply
  | .connection => account.connection reply
  | .cancel => account.cancel.goes .clearSession
  | .clearSession => account.clearSession reply
  | .replaceSource => account.replaceSource reply

/-- A call starts. -/
def enter (account : StremioAccount) :
    StremioCall → StremioAccount × List StremioTask
  | .startLink => account.goes (.requestLink account.clears)
  | .pollLink => account.goes .read
  | .clear => account.goes .cancel

/-- The link to Stremio as a program of calls. -/
def program :
    Program StremioAccount StremioTask StremioCall StremioReply where
  enter := enter
  perform := perform

/-- What the daemon starts with: what is stored, and nothing pending. -/
def start
    (row : Option (String × String × String))
    (items : List String) : StremioAccount where
  stored := row.map fun row => ⟨row.1, row.2.1, row.2.2, 0⟩
  items := items

/-- The calls over their runs. -/
def machine
    (row : Option (String × String × String))
    (items : List String) :
    Machine (Pool StremioAccount StremioTask)
      (Move StremioCall StremioReply) Unit :=
  program.machine (start row items)

end StremioAccount

/-! ## The account that is seen -/

/-- What a call under way has before it, as a call on an account. -/
def StremioTask.seen : StremioTask → LinkTask
  | requestLink began => .start began
  | put _ _ began => .start began
  | read => .poll
  | expire pending => .expire pending.approval
  | request pending => .ask pending.approval
  | settle pending _ => .finish pending.approval true
  | saveSession pending _ => .store pending.approval
  | connection => .rest
  | cancel => .clear
  | clearSession => .cleared
  | replaceSource => .purged

/-- The link that a poll read. -/
def StremioTask.copy : StremioTask → Option StremioPending
  | expire pending => some pending
  | request pending => some pending
  | settle pending _ => some pending
  | saveSession pending _ => some pending
  | _ => none

/-- A call, as a call on an account. -/
def StremioCall.seen : StremioCall → LinkCall
  | startLink => .start
  | pollLink => .poll
  | clear => .clear

namespace StremioAccount

/-- The account. -/
def seen (account : StremioAccount) : Account where
  pending := account.pending.map StremioPending.approval
  standing := account.standing
  stored := account.stored.map StremioRow.began
  puts := account.puts
  clears := account.clears

/-- How a section comes out. -/
def outcome
    (account : StremioAccount)
    (task : StremioTask)
    (reply : StremioReply) : Outcome :=
  match task with
  | .requestLink _ =>
      match Daemon.requestLink reply.answer with
      | .ok _ => .goes
      | .error _ => .ends
  | .put _ _ _ => .acts
  | .read =>
      match account.pending with
      | none => .ends
      | some pending =>
          if linkWindow ≤ max account.clock reply.now - pending.started then
            .acts
          else
            .answered false
  | .expire _ => .acts
  | .request _ =>
      match reply.answer with
      | .error _ => .ends
      | .ok body =>
          match interpretRead body with
          | some _ => .answered true
          | none => .ends
  | .settle _ _ => .acts
  | .saveSession _ authKey =>
      let authKey := Frontend.trimmed authKey
      if authKey.isEmpty || maxAuthKey < authKey.utf8ByteSize ||
          reply.fault.isSome then
        .ends
      else
        .goes
  | .connection => .ends
  | .cancel => .acts
  | .clearSession => if reply.fault.isSome then .ends else .goes
  | .replaceSource => if reply.fault.isSome then .ends else .acts

/-- Every section is seen as the section it stands for. -/
theorem perform_seen
    (account : StremioAccount)
    (task : StremioTask)
    (reply : StremioReply) :
    account.seen.perform task.seen (account.outcome task reply) =
      ((account.perform task reply).1.seen,
        (account.perform task reply).2.map StremioTask.seen) := by
  cases task with
  | requestLink began =>
      simp only [outcome, perform, requestLink]
      cases Daemon.requestLink reply.answer with
      | error error => rfl
      | ok offer => rfl
  | put offer started began => rfl
  | read =>
      change account.seen.read _ = ((account.read reply).1.seen, _)
      obtain ⟨current, stored, items, clock, standing, puts, clears,
        returned⟩ := account
      cases current with
      | none => rfl
      | some pending =>
          simp only [outcome, perform, read]
          split_ifs
          case pos late => rfl
          case neg running => rfl
  | expire pending => rfl
  | request pending =>
      simp only [outcome, perform, request]
      cases reply.answer with
      | error error => rfl
      | ok body =>
          dsimp only
          cases interpretRead body with
          | none => rfl
          | some authKey => rfl
  | settle pending authKey => rfl
  | saveSession pending authKey =>
      simp only [outcome, perform, saveSession]
      by_cases blank : (Frontend.trimmed authKey).isEmpty = true
      · simp only [blank, Bool.true_or, if_true]
        rfl
      · by_cases long : maxAuthKey <
            (Frontend.trimmed authKey).utf8ByteSize
        · simp only [blank, long, decide_true, Bool.or_true, Bool.true_or,
            if_true]
          rfl
        · cases reply.fault with
          | some error =>
              simp only [blank, long, Option.isSome_some, Bool.or_true,
                if_true, if_false]
              rfl
          | none =>
              simp only [blank, long, decide_false, Option.isSome_none,
                Bool.or_false, if_false]
              rfl
  | connection =>
      change (account.seen, []) = ((account.connection reply).1.seen,
        (account.connection reply).2.map StremioTask.seen)
      unfold connection
      split
      case h_1 error => rfl
      case h_2 missing => rfl
      case h_3 row => rfl
  | cancel => rfl
  | clearSession =>
      simp only [outcome, perform, clearSession]
      cases reply.fault with
      | some error => rfl
      | none => rfl
  | replaceSource =>
      simp only [outcome, perform, replaceSource]
      cases reply.fault with
      | some error => rfl
      | none => rfl

/-- The link to Stremio, seen as an account with one pending approval. -/
def view : View program Account.program where
  shared := seen
  task := StremioTask.seen
  call := StremioCall.seen
  answer := outcome
  idle := .ends
  enter := by
    intro account call
    cases call with
    | startLink => rfl
    | pollLink => rfl
    | clear => rfl
  perform := perform_seen

/-! ## Runs -/

/-- A step after which a poll meets an approval that is not its own, or
credentials come back. -/
def Slips
    (pool : Pool StremioAccount StremioTask)
    (move : Move StremioCall StremioReply) : Prop :=
  Account.Slips (view.pool pool) (view.move pool move)

/-- What holds of the link to Stremio in every state of a run without slips.
What is stored comes from a call that began after the last removal. -/
structure Settled (pool : Pool StremioAccount StremioTask) : Prop where
  final : ∀ row, pool.shared.stored = some row →
    row.began = pool.shared.clears
  /-- A poll that read one link leaves another one as it is. -/
  others : ∀ index task copy reply pending,
    pool.tasks[index]? = some task → task.copy = some copy →
    pool.shared.pending = some pending → pending.approval ≠ copy.approval →
      (program.step pool (.advance index reply)).shared.pending = some pending
  /-- A poll that is about to store a session has it for the approval that was
  put last and not removed since. -/
  standing : ∀ pending authKey,
    StremioTask.saveSession pending authKey ∈ pool.tasks →
      pool.shared.standing = some pending.approval

theorem Settled.of_sound
    {pool : Pool StremioAccount StremioTask}
    (sound : Account.Sound (view.pool pool)) :
    Settled pool := by
  have part : ∀ {task : StremioTask}, task ∈ pool.tasks →
      Account.Part pool.shared.seen task.seen := by
    intro task member
    exact sound.each _ (List.mem_map_of_mem member)
  refine ⟨?_, ?_, ?_⟩
  · intro row stored
    apply sound.shared.stored
    change pool.shared.stored.map StremioRow.began = _
    rw [stored]
    rfl
  · intro index task copy reply pending stands copied found different
    have own := part (List.mem_of_getElem? stands)
    have seen : pool.shared.seen.pending = some pending.approval := by
      change pool.shared.pending.map StremioPending.approval = _
      rw [found]
      rfl
    rw [program.step_advance stands]
    change (pool.shared.perform task reply).1.pending = _
    cases task with
    | expire read =>
        cases copied
        exact absurd (own _ seen) different
    | settle read authKey =>
        cases copied
        exact absurd (own.1 _ seen) different
    | request read =>
        simp only [perform, request]
        split
        case h_1 error => exact found
        case h_2 body _ =>
            split
            case h_1 authKey => exact found
            case h_2 waits => exact found
    | saveSession read authKey =>
        simp only [perform, saveSession]
        split_ifs
        case pos blank => exact found
        case pos long => exact found
        case neg fits =>
            split
            case h_1 error => exact found
            case h_2 well => exact found
    | _ => cases copied
  · intro pending authKey member
    exact part member

theorem settled_run
    (row : Option (String × String × String))
    (items : List String)
    (moves : List (Move StremioCall StremioReply))
    (calm : (machine row items).Along (fun pool move => ¬ Slips pool move)
      moves) :
    Settled ((machine row items).run moves) := by
  apply Settled.of_sound
  refine view.run_induction_along (start row items)
    (fun pool move => ¬ Account.Slips pool move) Account.Sound ?_ ?_ moves calm
  · refine ⟨⟨nofun, nofun, ?_⟩, nofun⟩
    intro began stored
    cases row with
    | none => cases stored
    | some row =>
        cases stored
        rfl
  · intro pool move sound calm
    exact sound.step move calm

end StremioAccount
end Daemon
end Hearthdeck
