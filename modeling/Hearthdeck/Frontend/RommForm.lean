import Mathlib.Data.List.Basic

/-!
# The RomM connection form

The part of the settings screen that connects the shell to RomM: by a code
that is approved elsewhere and polled for, or by signing in.  One flag says
that a request is on its way, another one that a link is polled for.
-/

namespace Hearthdeck
namespace Frontend

/-- A character with the Unicode property `White_Space`. -/
def isWhitespace (character : Char) : Bool :=
  let code := character.toNat
  (0x9 ≤ code && code ≤ 0xd) || code == 0x20 || code == 0x85 ||
    code == 0xa0 || code == 0x1680 || (0x2000 ≤ code && code ≤ 0x200a) ||
    code == 0x2028 || code == 0x2029 || code == 0x202f || code == 0x205f ||
    code == 0x3000

/-- `str::trim`. -/
def trimmed (text : String) : String :=
  String.ofList
    (((text.toList.dropWhile isWhitespace).reverse.dropWhile
      isWhitespace).reverse)

/-- `RommSettings`. -/
structure RommSettings where
  baseUrl : String
  configured : Bool
  deriving DecidableEq, Repr

/-- `RommLinkOffer`. -/
structure RommLinkOffer where
  code : String
  link : String
  expiresInSeconds : Nat
  deriving DecidableEq, Repr

/-- `RommLink`: what a poll says of the link. -/
inductive RommLink
  | idle
  | expired
  | denied
  | waiting (code link : String) (secondsLeft : Nat)
  | linked (settings : RommSettings)
  deriving DecidableEq, Repr

/-- `Pending`: the code being approved. -/
structure PendingLink where
  code : String
  link : String
  secondsLeft : Nat
  deriving DecidableEq, Repr

/-- `SignIn`: what was typed into the dialog. -/
structure SignIn where
  username : String
  password : String
  deriving DecidableEq, Repr

/-- `Notice`. -/
inductive RommNotice
  | expired
  | denied
  deriving DecidableEq, Repr

/-- The messages of the form. -/
inductive RommMessage
  | refreshPressed
  | urlChanged (value : String)
  | connectPressed
  | linkStarted (result : Except String RommLinkOffer)
  | linkPolled (result : Except String RommLink)
  | signInOpened
  | signInClosed
  | usernameChanged (value : String)
  | passwordChanged (value : String)
  | signInPressed
  | signedIn (result : Except String RommSettings)
  | removePressed
  | loaded (result : Except String (Option RommSettings))
  | removed (result : Except String Unit)

/-- What the shell does for the form. -/
inductive RommEffect
  | nothing
  | load
  | connect (baseUrl : String)
  | poll
  | focusUsername
  | focusPassword
  | endTextEntry
  | signIn (baseUrl username password : String)
  | remove
  | connectionChanged
  | signInSucceeded
  | releaseTextEntry
  deriving DecidableEq, Repr

/-- `Next`: how a poll chain goes on. -/
inductive NextPoll
  | stop
  | pollAgain
  | connected
  deriving DecidableEq, Repr

/-- `Form`. -/
structure RommForm where
  connection : Option RommSettings
  baseUrl : String
  pending : Option PendingLink
  signIn : Option SignIn
  /-- A poll chain is alive. -/
  polling : Bool
  /-- A request is on its way. -/
  busy : Bool
  error : Option String
  notice : Option RommNotice
  deriving DecidableEq, Repr

namespace RommForm

/-- `Form::default`. -/
def default : RommForm where
  connection := none
  baseUrl := ""
  pending := none
  signIn := none
  polling := false
  busy := false
  error := none
  notice := none

/-- `can_connect`. -/
def canConnect (form : RommForm) : Bool :=
  !form.busy && !form.polling && !(trimmed form.baseUrl).isEmpty

/-- `can_sign_in`. -/
def canSignIn (form : RommForm) : Bool :=
  !form.busy && !(trimmed form.baseUrl).isEmpty &&
    form.signIn.any fun signIn =>
      !(trimmed signIn.username).isEmpty && !signIn.password.isEmpty

/-- `begin`. -/
def begin (form : RommForm) : RommForm :=
  { form with
    busy := true
    error := none
    notice := none }

/-- `failed`. -/
def failed (form : RommForm) (error : String) : RommForm :=
  { form with error := some error }

/-- `loaded`. -/
def loaded
    (form : RommForm)
    (result : Except String (Option RommSettings)) : RommForm :=
  let free := { form with busy := false }
  match result with
  | .ok connection =>
      { free with
        baseUrl := (connection.map RommSettings.baseUrl).getD ""
        connection := connection
        error := none }
  | .error error => free.failed error

/-- `link_started`: whether a poll chain should start. -/
def linkStarted
    (form : RommForm)
    (result : Except String RommLinkOffer) : RommForm × Bool :=
  let free := { form with busy := false }
  match result with
  | .ok offer =>
      ({ free with
          pending := some ⟨offer.code, offer.link, offer.expiresInSeconds⟩
          polling := true }, true)
  | .error error => (free.failed error, false)

/-- The end of a poll chain. -/
def stopPolling (form : RommForm) : RommForm :=
  { form with
    pending := none
    polling := false }

/-- `link_polled`. -/
def linkPolled
    (form : RommForm)
    (result : Except String RommLink) : RommForm × NextPoll :=
  match result with
  | .ok (.waiting code link secondsLeft) =>
      match form.pending with
      | some pending =>
          ({ form with
              pending :=
                if pending.link = link then
                  some { pending with secondsLeft := secondsLeft }
                else
                  some ⟨code, link, secondsLeft⟩ }, .pollAgain)
      -- A code that was taken off the screen ends the chain.
      | none => (form.stopPolling, .stop)
  | .ok (.linked settings) =>
      ((form.loaded (.ok (some settings))).stopPolling, .connected)
  | .ok .expired =>
      ({ form with notice := some .expired }.stopPolling, .stop)
  | .ok .denied => ({ form with notice := some .denied }.stopPolling, .stop)
  | .ok .idle => (form.stopPolling, .stop)
  | .error error => ((form.failed error).stopPolling, .stop)

/-- `take_credentials`: the password leaves the form here. -/
def takeCredentials
    (form : RommForm) : RommForm × Option (String × String) :=
  if !form.canSignIn then
    (form, none)
  else
    match form.signIn with
    | none => (form, none)
    | some signIn =>
        ({ form with signIn := some { signIn with password := "" } }.begin,
          some (trimmed signIn.username, signIn.password))

/-- `signed_in`: whether the connection changed. -/
def signedIn
    (form : RommForm)
    (result : Except String RommSettings) : RommForm × Bool :=
  match result with
  | .ok connection =>
      ({ form with
          signIn := none
          pending := none }.loaded (.ok (some connection)), true)
  | .error error => ({ form with busy := false }.failed error, false)

/-- `removed`: whether the connection changed. -/
def removed
    (form : RommForm)
    (result : Except String Unit) : RommForm × Bool :=
  match result with
  | .ok _ => ({ form with pending := none }.loaded (.ok none), true)
  | .error error => ({ form with busy := false }.failed error, false)

/-- What is typed into the dialog, while no request is on its way. -/
def typed (form : RommForm) (change : SignIn → SignIn) : RommForm :=
  if form.busy then form else { form with signIn := form.signIn.map change }

/-- `update`. -/
def update (form : RommForm) : RommMessage → RommForm × RommEffect
  | .refreshPressed =>
      if form.busy then
        (form, .nothing)
      else
        ({ form with
            busy := true
            error := none }, .load)
  | .urlChanged value =>
      if form.busy || form.polling then
        (form, .nothing)
      else
        ({ form with baseUrl := value }, .nothing)
  | .loaded result => (form.loaded result, .nothing)
  | .connectPressed =>
      if form.canConnect then
        (form.begin, .connect (trimmed form.baseUrl))
      else
        (form, .nothing)
  | .linkStarted result =>
      let started := form.linkStarted result
      (started.1, if started.2 then .poll else .nothing)
  | .linkPolled result =>
      let polled := form.linkPolled result
      (polled.1,
        match polled.2 with
        | .pollAgain => .poll
        | .stop => .nothing
        | .connected => .connectionChanged)
  | .signInOpened =>
      if form.busy then
        (form, .nothing)
      else
        ({ form with
            signIn := some ⟨"", ""⟩
            error := none }, .focusUsername)
  | .signInClosed =>
      (if form.busy then form else { form with signIn := none },
        .endTextEntry)
  | .usernameChanged value =>
      (form.typed fun signIn => { signIn with username := value }, .nothing)
  | .passwordChanged value =>
      (form.typed fun signIn => { signIn with password := value }, .nothing)
  | .signInPressed =>
      match form.takeCredentials with
      | (taken, some (username, password)) =>
          (taken, .signIn (trimmed form.baseUrl) username password)
      | (taken, none) => (taken, .nothing)
  | .signedIn result =>
      let settled := form.signedIn result
      (settled.1,
        if settled.1.signIn.isSome && !settled.1.busy then
          .focusPassword
        else if settled.2 then
          .signInSucceeded
        else
          .releaseTextEntry)
  | .removePressed =>
      if !form.busy && !form.polling && form.connection.isSome then
        (form.begin, .remove)
      else
        (form, .nothing)
  | .removed result =>
      let gone := form.removed result
      (gone.1, if gone.2 then .connectionChanged else .nothing)

end RommForm
end Frontend
end Hearthdeck
