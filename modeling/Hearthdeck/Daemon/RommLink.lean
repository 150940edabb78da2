import Hearthdeck.Daemon.AccountLink
import Hearthdeck.Daemon.Activity
import Hearthdeck.Daemon.Serving

/-!
# The link to RomM

`DeviceLinkState` holds the one approval a user may be waiting on, and the
settings hold the address and token of the connection.  The calls on them run
in sections: what is done under the lock of the link, a request to RomM, or a
statement of the database.  Instants and durations are in nanoseconds.

Addresses are read by a library, and what RomM answers is read as JSON by
another; what they read is an argument here.  What a request carries is left
out where no answer is compared with it.
-/

namespace Hearthdeck
namespace Daemon

open Foundation

/-! ## Answers -/

/-- What a request was answered: its status, the text of the status, and the
body as far as it could be read. -/
structure Response (Body : Type) where
  status : Nat
  phrase : String
  body : Option Body

/-- `StatusCode::is_success`. -/
def Response.isSuccess {Body : Type} (response : Response Body) : Bool :=
  200 ≤ response.status && response.status < 300

/-- `refusal`. -/
def refusal (status : Nat) (phrase : String) : String :=
  if status = 401 then
    "RomM rejected that username or password"
  else if status = 403 then
    "this RomM account cannot create API tokens; " ++
      "sign in with an editor or admin account"
  else if status = 404 ∨ status = 405 then
    "this RomM server is too old; Hearthdeck needs RomM 4.8 or newer"
  else if status = 429 then
    "RomM is rate limiting; wait a minute and retry"
  else
    "RomM answered " ++ phrase

/-- `read_json`. -/
def readJson {Body : Type} (response : Response Body) : Except String Body :=
  if response.isSuccess then
    match response.body with
    | some body => .ok body
    | none => .error "RomM sent an answer Hearthdeck could not read"
  else
    .error (refusal response.status response.phrase)

/-- A request that is answered, or does not reach RomM. -/
def requested
    {Body : Type}
    (baseUrl : String)
    (response : Option (Response Body)) : Except String Body :=
  match response with
  | none => .error ("could not reach RomM at " ++ baseUrl)
  | some response => readJson response

/-- `DeviceAnswer`. -/
inductive DeviceAnswer
  | pending
  | denied
  | expired
  | approved (token : String)
  deriving DecidableEq

/-- The approval was given. -/
def DeviceAnswer.isApproved : DeviceAnswer → Bool
  | approved _ => true
  | _ => false

/-- The not-yet states that a refused request names in its `detail`. -/
def namedState : Option String → Option DeviceAnswer
  | some "authorization_pending" => some .pending
  | some "slow_down" => some .pending
  | some "access_denied" => some .denied
  | some "expired_token" => some .expired
  | _ => none

/-- `interpret_device_token`. -/
def interpretDeviceToken (response : Response Json) :
    Except String DeviceAnswer :=
  let body := response.body.getD .null
  if response.isSuccess then
    match ((body.get "access_token").bind Json.asStr).filter
        (fun token => !(Frontend.trimmed token).isEmpty) with
    | some token => .ok (.approved (Frontend.trimmed token))
    | none => .error "RomM approved the device but sent no token"
  else
    match (if response.status = 400 then
        namedState ((body.get "detail").bind Json.asStr) else none) with
    | some answer => .ok answer
    | none =>
        -- Rate limiting is RomM asking to wait.
        if response.status = 429 then
          .ok .pending
        else
          .error (refusal response.status response.phrase)

/-! ## Addresses -/

/-- An address as it is read. -/
structure Url where
  scheme : String
  host : Option String

/-- How addresses are read, which hosts are loopback addresses, and the page
that a phone can open (`phone_link`). -/
structure RommService where
  parse : String → Option Url
  loopback : String → Bool
  phoneLink : String → String → Option String → String

/-- `normalize_romm_url`. -/
def normalizeRommUrl
    (service : RommService)
    (value : String) : Except String String :=
  let baseUrl := String.ofList
    (((Frontend.trimmed value).toList.reverse.dropWhile (· == '/')).reverse)
  if baseUrl.isEmpty || 2048 < baseUrl.length then
    .error "RomM URL must contain 1 to 2048 characters"
  else
    match service.parse baseUrl with
    | none => .error "RomM URL must be absolute"
    | some url =>
        match url.host with
        | none => .error "RomM URL must be an absolute HTTP(S) URL"
        | some host =>
            if ¬ (url.scheme = "http" ∨ url.scheme = "https") then
              .error "RomM URL must be an absolute HTTP(S) URL"
            else if host ≠ "localhost" ∧ service.loopback host = false then
              .error "RomM URL must use a loopback host"
            else
              .ok baseUrl

/-! ## The link and the settings -/

/-- `DeviceOffer`. -/
structure DeviceOffer where
  code : String
  link : String
  expiresInSeconds : Nat
  deriving DecidableEq

/-- `DeviceInit`. -/
structure DeviceInit where
  deviceCode : String
  userCode : String
  verificationPathComplete : String
  expiresIn : Nat
  interval : Nat

/-- `PendingDevice`. -/
structure PendingDevice where
  baseUrl : String
  deviceCode : String
  offer : DeviceOffer
  started : Instant
  window : Nat
  interval : Nat
  lastPoll : Option Instant
  /-- Which approval it is.  Read by no code. -/
  approval : Approval
  deriving DecidableEq

/-- The row of `romm_settings`. -/
structure RommRow where
  baseUrl : String
  token : String
  updatedAt : String
  /-- How many removals had completed when the call began that the row comes
  from.  Read by no code. -/
  began : Nat
  deriving DecidableEq

/-- `RommSettings`. -/
structure RommSettings where
  baseUrl : String
  configured : Bool
  updatedAt : String

/-- `ControlError` of the link to RomM. -/
inductive RommError
  | invalidSettings (source : String)
  | link (source : String)
  | storage (source : String)

/-- `LinkStatus` of the link to RomM. -/
inductive RommStatus
  | idle
  | expired
  | denied
  | waiting (code link : String) (secondsLeft : Nat)
  | linked (settings : RommSettings)

/-- What a call returned. -/
inductive RommReturned
  | saved (result : Except RommError RommSettings)
  | cleared (result : Except RommError Unit)
  | offered (result : Except RommError DeviceOffer)
  | polled (result : Except RommError RommStatus)

/-- What the calls share, and what a run notes about it. -/
structure RommAccount where
  pending : Option PendingDevice := none
  stored : Option RommRow := none
  /-- The last reading of the clock. -/
  clock : Instant := 0
  /-- The approval that was put last, unless a call removed it since.  Read by
  no code, as all that follows. -/
  standing : Option Approval := none
  puts : Nat := 0
  /-- How many calls of `clear` have completed. -/
  clears : Nat := 0
  /-- The requests for a token: for which device code, and when. -/
  sent : List (String × Instant) := []
  /-- What the last step returned to its caller. -/
  returned : Option RommReturned := none

/-- The calls of `Control`. -/
inductive RommCall
  | save (baseUrl token : String)
  | clear
  | login (baseUrl : String)
  | startLink (baseUrl : String)
  | pollLink

/-- The calls under way, each named by its next section, with the removals
that had completed when it began. -/
inductive RommTask
  | save (baseUrl token : String) (began : Nat)
  /-- `clear`. -/
  | cancel
  | clearRomm
  /-- `login`, its two requests first. -/
  | requestSession (baseUrl : String) (began : Nat)
  | requestToken (baseUrl : String) (began : Nat)
  | cancelFor (baseUrl token : String) (began : Nat)
  | saveFor (baseUrl token : String) (began : Nat)
  /-- `start_link`. -/
  | requestDevice (baseUrl : String) (began : Nat)
  | put
      (baseUrl : String)
      (init : DeviceInit)
      (offer : DeviceOffer)
      (started : Instant)
      (began : Nat)
  /-- `poll_link`, after its first section with a copy of the approval. -/
  | read
  | expire (pending : PendingDevice)
  | note (pending : PendingDevice) (secondsLeft : Nat)
  | request (pending : PendingDevice) (secondsLeft : Nat)
  | settle (pending : PendingDevice) (answer : DeviceAnswer)
  | saveLinked (pending : PendingDevice) (token : String)

/-- What a section is answered from outside. -/
structure RommReply where
  /-- Two readings of the clock. -/
  now : Instant := 0
  later : Instant := 0
  /-- The error of the statement. -/
  fault : Option String := none
  updatedAt : String := ""
  lanIp : Option String := none
  device : Option (Response DeviceInit) := none
  minted : Option (Response String) := none
  token : Option (Response Json) := none

/-- A number of seconds. -/
def seconds (count : Nat) : Nat :=
  count * 1000000000

namespace RommAccount

/-- A call ends. -/
def ends
    (account : RommAccount)
    (returned : RommReturned) : RommAccount × List RommTask :=
  ({ account with returned := some returned }, [])

/-- A call goes on. -/
def goes
    (account : RommAccount)
    (task : RommTask) : RommAccount × List RommTask :=
  ({ account with returned := none }, [task])

/-- `DeviceLinkState::cancel` of a call that removes what is pending. -/
def cancel (account : RommAccount) : RommAccount :=
  { account with pending := none, standing := none }

/-- `DeviceLinkState::cancel` of a poll. -/
def take (account : RommAccount) : RommAccount :=
  { account with pending := none }

/-- `clear_romm`, and with it the end of `clear`. -/
def clearRomm
    (account : RommAccount)
    (reply : RommReply) : RommAccount × List RommTask :=
  match reply.fault with
  | some error => account.ends (.cleared (.error (.storage error)))
  | none =>
      { account with stored := none, clears := account.clears + 1 }.ends
        (.cleared (.ok ()))

/-- The requests of `mint_token`. -/
def requestSession
    (account : RommAccount)
    (baseUrl : String)
    (began : Nat)
    (reply : RommReply) : RommAccount × List RommTask :=
  match requested baseUrl reply.minted with
  | .error error => account.ends (.saved (.error (.link error)))
  | .ok _ => account.goes (.requestToken baseUrl began)

def requestToken
    (account : RommAccount)
    (baseUrl : String)
    (began : Nat)
    (reply : RommReply) : RommAccount × List RommTask :=
  match requested baseUrl reply.minted with
  | .error error => account.ends (.saved (.error (.link error)))
  | .ok token => account.goes (.cancelFor baseUrl token began)

/-- `start_link`, its request.  The clock is read before the lock is taken. -/
def requestDevice
    (service : RommService)
    (account : RommAccount)
    (baseUrl : String)
    (began : Nat)
    (reply : RommReply) : RommAccount × List RommTask :=
  match requested baseUrl reply.device with
  | .error error => account.ends (.offered (.error (.link error)))
  | .ok init =>
      let offer : DeviceOffer :=
        { code := init.userCode
          link := service.phoneLink baseUrl init.verificationPathComplete
            reply.lanIp
          expiresInSeconds := init.expiresIn }
      let now := max account.clock reply.now
      { account with clock := now }.goes (.put baseUrl init offer now began)

/-- `start_link`, its section under the lock. -/
def put
    (account : RommAccount)
    (baseUrl : String)
    (init : DeviceInit)
    (offer : DeviceOffer)
    (started : Instant)
    (began : Nat) : RommAccount × List RommTask :=
  let approval := ⟨account.puts, began⟩
  { account with
    pending := some
      { baseUrl := baseUrl
        deviceCode := init.deviceCode
        offer := offer
        started := started
        window := seconds init.expiresIn
        interval := seconds (max init.interval 1)
        lastPoll := none
        approval := approval }
    standing := some approval
    puts := account.puts + 1 }.ends (.offered (.ok offer))

/-- The window of an approval is over. -/
def isOver (pending : PendingDevice) (now : Instant) : Bool :=
  pending.window ≤ now - pending.started

/-- An approval was asked about less than its interval ago. -/
def isRecent (pending : PendingDevice) (now : Instant) : Bool :=
  pending.lastPoll.any fun asked => now - asked < pending.interval

/-- What a poll answers while the approval is pending. -/
def waiting (pending : PendingDevice) (secondsLeft : Nat) : RommStatus :=
  .waiting pending.offer.code pending.offer.link secondsLeft

/-- `poll`, its copy of what is pending, and what is decided from it. -/
def read
    (account : RommAccount)
    (reply : RommReply) : RommAccount × List RommTask :=
  match account.pending with
  | none => account.ends (.polled (.ok .idle))
  | some pending =>
      let now := max account.clock reply.now
      if isOver pending now then
        { account with clock := now }.goes (.expire pending)
      else
        let left := (pending.window - (now - pending.started)) / seconds 1
        let later := max now reply.later
        if isRecent pending later then
          { account with clock := later }.ends
            (.polled (.ok (waiting pending left)))
        else
          { account with clock := later }.goes (.note pending left)

/-- `poll`, its note of the time on whatever is pending. -/
def note
    (account : RommAccount)
    (pending : PendingDevice)
    (secondsLeft : Nat)
    (reply : RommReply) : RommAccount × List RommTask :=
  let now := max account.clock reply.now
  let noted : RommAccount :=
    { account with
      clock := now
      pending := account.pending.map fun current =>
        { current with lastPoll := some now } }
  noted.goes (.request pending secondsLeft)

/-- `poll`, its request. -/
def request
    (account : RommAccount)
    (pending : PendingDevice)
    (secondsLeft : Nat)
    (reply : RommReply) : RommAccount × List RommTask :=
  let now := max account.clock reply.now
  let asked : RommAccount :=
    { account with
      clock := now
      sent := account.sent ++ [(pending.deviceCode, now)] }
  match reply.token with
  | none =>
      asked.ends (.polled (.error (.link
        ("could not reach RomM at " ++ pending.baseUrl))))
  | some response =>
      match interpretDeviceToken response with
      | .error error => asked.ends (.polled (.error (.link error)))
      | .ok .pending =>
          asked.ends (.polled (.ok (waiting pending secondsLeft)))
      | .ok answer => asked.goes (.settle pending answer)

/-- `poll`, its end of whatever is pending, after an answer for good. -/
def settle
    (account : RommAccount)
    (pending : PendingDevice)
    (answer : DeviceAnswer) : RommAccount × List RommTask :=
  match answer with
  | .approved token => account.take.goes (.saveLinked pending token)
  | .denied => account.take.ends (.polled (.ok .denied))
  | _ => account.take.ends (.polled (.ok .expired))

/-- `save_romm`. -/
def saveRomm
    (service : RommService)
    (account : RommAccount)
    (baseUrl token : String)
    (began : Nat)
    (reply : RommReply) : Except String (RommSettings × RommAccount) :=
  match normalizeRommUrl service baseUrl with
  | .error error => .error error
  | .ok baseUrl =>
      let token := Frontend.trimmed token
      if token.isEmpty || 2048 < token.length then
        .error "RomM token must contain 1 to 2048 characters"
      else
        match reply.fault with
        | some error => .error error
        | none =>
            .ok (⟨baseUrl, true, reply.updatedAt⟩,
              { account with
                stored := some ⟨baseUrl, token, reply.updatedAt, began⟩ })

/-- A call that stores credentials and ends, told what it returns. -/
def saving
    (service : RommService)
    (account : RommAccount)
    (baseUrl token : String)
    (began : Nat)
    (reply : RommReply)
    (saved : RommSettings → RommReturned)
    (failed : String → RommReturned) : RommAccount × List RommTask :=
  match account.saveRomm service baseUrl token began reply with
  | .ok (settings, account) => account.ends (saved settings)
  | .error error => account.ends (failed error)

/-- The next section of a call. -/
def perform
    (service : RommService)
    (account : RommAccount)
    (task : RommTask)
    (reply : RommReply) : RommAccount × List RommTask :=
  match task with
  | .save baseUrl token began =>
      account.saving service baseUrl token began reply
        (fun settings => .saved (.ok settings))
        fun error => .saved (.error (.invalidSettings error))
  | .cancel => account.cancel.goes .clearRomm
  | .clearRomm => account.clearRomm reply
  | .requestSession baseUrl began =>
      account.requestSession baseUrl began reply
  | .requestToken baseUrl began => account.requestToken baseUrl began reply
  | .cancelFor baseUrl token began =>
      account.cancel.goes (.saveFor baseUrl token began)
  | .saveFor baseUrl token began =>
      account.saving service baseUrl token began reply
        (fun settings => .saved (.ok settings))
        fun error => .saved (.error (.storage error))
  | .requestDevice baseUrl began =>
      requestDevice service account baseUrl began reply
  | .put baseUrl init offer started began =>
      account.put baseUrl init offer started began
  | .read => account.read reply
  | .expire _ => account.take.ends (.polled (.ok .expired))
  | .note pending secondsLeft => account.note pending secondsLeft reply
  | .request pending secondsLeft => account.request pending secondsLeft reply
  | .settle pending answer => account.settle pending answer
  | .saveLinked pending token =>
      account.saving service pending.baseUrl token pending.approval.began reply
        (fun settings => .polled (.ok (.linked settings)))
        fun error => .polled (.error (.storage error))

/-- `login`, up to its first request, told the normalized address. -/
def login
    (account : RommAccount)
    (normalized : Except String String) : RommAccount × List RommTask :=
  match normalized with
  | .error error => account.ends (.saved (.error (.invalidSettings error)))
  | .ok baseUrl => account.goes (.requestSession baseUrl account.clears)

/-- `start_link`, up to its request, told the normalized address. -/
def startLink
    (account : RommAccount)
    (normalized : Except String String) : RommAccount × List RommTask :=
  match normalized with
  | .error error => account.ends (.offered (.error (.invalidSettings error)))
  | .ok baseUrl => account.goes (.requestDevice baseUrl account.clears)

/-- A call starts, told how addresses are normalized. -/
def enter
    (normalize : String → Except String String)
    (account : RommAccount)
    (call : RommCall) : RommAccount × List RommTask :=
  match call with
  | .save baseUrl token => account.goes (.save baseUrl token account.clears)
  | .clear => account.goes .cancel
  | .login baseUrl => account.login (normalize baseUrl)
  | .startLink baseUrl => account.startLink (normalize baseUrl)
  | .pollLink => account.goes .read

/-- The link to RomM as a program of calls. -/
def program (service : RommService) :
    Program RommAccount RommTask RommCall RommReply where
  enter := enter (normalizeRommUrl service)
  perform := perform service

/-- What the daemon starts with: what is stored, and nothing pending. -/
def start (row : Option (String × String × String)) : RommAccount where
  stored := row.map fun row => ⟨row.1, row.2.1, row.2.2, 0⟩

/-- The calls over their runs. -/
def machine
    (service : RommService)
    (row : Option (String × String × String)) :
    Machine (Pool RommAccount RommTask) (Move RommCall RommReply) Unit :=
  (program service).machine (start row)

end RommAccount
end Daemon
end Hearthdeck
