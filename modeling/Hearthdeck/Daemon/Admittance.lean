import Hearthdeck.Daemon.FrontDoor
import Hearthdeck.Foundation.Glimpse

/-!
# Who is let in

A handler behind `require_authentication` is entered only for a token that a
completed pairing gave out, for a code that was created at the listener of the
host itself.  The invariant follows every code and every token from the reply
that gave it out to the tables, through the transactions that other requests
have under way; what the pairing itself guarantees is taken from its own
runs, of which the front door contains one.
-/

namespace Hearthdeck
namespace Daemon
namespace Door

open Foundation Auth

/-! ## The pairing inside -/

/-- What a call is to the pairing. -/
def authCall
    (hash : String → String)
    (call : Visit × Draw) : Option AuthCall :=
  match call.1.receive call.2 with
  | .answered _ => none
  | .guarded _ _ => none
  | .complete completion token =>
      some (.consumePairingCode (redemption hash completion token))
  | .create code now => some (.createPairingCode (hash code) now)

/-- What a request under way is to the pairing. -/
def authTask : DoorTask → Option AuthTask
  | .authenticate _ _ _ => none
  | .completing _ _ _ task => some task
  | .creating _ _ task => some task

theorem filterMap_completing
    (visit : Visit)
    (completion : CompletePairingRequest)
    (token : String)
    (tasks : List AuthTask) :
    (tasks.map (DoorTask.completing visit completion token)).filterMap
      authTask = tasks := by
  rw [List.filterMap_map]
  exact List.filterMap_some

theorem filterMap_creating
    (visit : Visit)
    (code : String)
    (tasks : List AuthTask) :
    (tasks.map (DoorTask.creating visit code)).filterMap authTask =
      tasks := by
  rw [List.filterMap_map]
  exact List.filterMap_some

@[simp] theorem proceed_auth
    (door : Door)
    (visit : Visit)
    (auth : Auth)
    (reply : Returned → Option Reply) :
    (door.proceed visit auth reply).auth = auth := by
  unfold proceed
  split <;> rfl

theorem authenticate_auth
    (hash : String → String)
    (door : Door)
    (visit : Visit)
    (handler : Option Handler)
    (token : String)
    (outside : AuthAnswer) :
    (door.authenticate hash visit handler token outside).auth =
      door.auth := by
  unfold authenticate
  split_ifs <;> rfl

/-- The front door contains the pairing of clients. -/
def glimpse
    (hash : String → String)
    (parse : String → Option UtcInstant) :
    Glimpse (program hash parse) (Auth.program parse) where
  shared := Door.auth
  task := authTask
  call := authCall hash
  answer := id
  enter_seen := by
    rintro door ⟨visit, draw⟩ seen
    simp only [authCall, program, enter]
    cases visit.receive draw with
    | answered reply => exact nofun
    | guarded handler token => exact nofun
    | complete completion token =>
        rintro ⟨⟩
        rw [filterMap_completing]
        rfl
    | create code now =>
        rintro ⟨⟩
        rw [filterMap_creating]
        rfl
  enter_hidden := by
    rintro door ⟨visit, draw⟩
    simp only [authCall, program, enter]
    cases visit.receive draw with
    | answered reply => exact fun _ => ⟨rfl, rfl⟩
    | guarded handler token => exact fun _ => ⟨rfl, rfl⟩
    | complete completion token => exact nofun
    | create code now => exact nofun
  perform_seen := by
    intro door job seen outside isSeen
    cases job with
    | authenticate visit handler token => cases isSeen
    | completing visit completion token task =>
        cases isSeen
        simp only [program, perform, proceed_auth, filterMap_completing]
        rfl
    | creating visit code task =>
        cases isSeen
        simp only [program, perform, proceed_auth, filterMap_creating]
        rfl
  perform_hidden := by
    intro door job outside isHidden
    cases job with
    | authenticate visit handler token =>
        exact ⟨authenticate_auth hash door visit handler token outside, rfl⟩
    | completing visit completion token task => cases isHidden
    | creating visit code task => cases isHidden

/-! ## Codes and tokens that were given out -/

variable (hash : String → String)

/-- A code of this hash was given out. -/
def Created (door : Door) (codeHash : String) : Prop :=
  ∃ visit code expiresAt,
    (visit, .pairing code expiresAt) ∈ door.replies ∧ hash code = codeHash

/-- A token of this hash was given out, for a code that was. -/
def Granted (door : Door) (tokenHash : String) : Prop :=
  ∃ visit completion id token,
    (visit, .paired id token) ∈ door.replies ∧
      visit.request.completion = some completion ∧
      hash token = tokenHash ∧
      Created hash door (hash completion.code)

/-- A request resolves to a handler, of a route that is guarded or not. -/
def Resolves (visit : Visit) (handler : Handler) (guarded : Bool) : Prop :=
  ∃ route,
    (visit.listener.routes.find? fun route =>
      covers route.template visit.request.path) = some route ∧
      route.guarded = guarded ∧
      route.handler visit.request.verb = some handler

/-- The reply gives nothing out and lets nobody in. -/
def dull : Reply → Bool
  | .entered _ => false
  | .pairing _ _ => false
  | .paired _ _ => false
  | _ => true

/-- The reply gives a code out. -/
def givesCode : Visit × Reply → Bool
  | (_, .pairing _ _) => true
  | _ => false

/-- Replies are only added. -/
def Grows (door next : Door) : Prop :=
  door.replies ⊆ next.replies

variable {hash}

theorem Created.grows
    {door next : Door}
    {codeHash : String}
    (created : Created hash door codeHash)
    (grows : Grows door next) :
    Created hash next codeHash := by
  obtain ⟨visit, code, expiresAt, member, same⟩ := created
  exact ⟨visit, code, expiresAt, grows member, same⟩

theorem Granted.grows
    {door next : Door}
    {tokenHash : String}
    (granted : Granted hash door tokenHash)
    (grows : Grows door next) :
    Granted hash next tokenHash := by
  obtain ⟨visit, completion, id, token, member, asked, same, created⟩ :=
    granted
  exact ⟨visit, completion, id, token, grows member, asked, same,
    created.grows grows⟩

/-- The handler may be entered: the request resolves to it, and bears a token
that was given out if the route is guarded. -/
def May
    (hash : String → String)
    (door : Door)
    (visit : Visit)
    (handler : Handler) : Prop :=
  handler ≠ .createPairing ∧
    ∃ guarded, Resolves visit handler guarded ∧
      (guarded = true → ∃ token, visit.request.bearer = some token ∧
        Granted hash door (hash token))

theorem May.grows
    {door next : Door}
    {visit : Visit}
    {handler : Handler}
    (may : May hash door visit handler)
    (grows : Grows door next) :
    May hash next visit handler := by
  obtain ⟨noCreation, guarded, resolves, bears⟩ := may
  refine ⟨noCreation, guarded, resolves, fun isGuarded => ?_⟩
  obtain ⟨token, bearer, granted⟩ := bears isGuarded
  exact ⟨token, bearer, granted.grows grows⟩

/-- What holds of the shared state of the front door. -/
structure Whole (hash : String → String) (door : Door) : Prop where
  sessions : ∀ codeHash session,
    door.auth.stored.sessions.lookup codeHash = some session →
      Created hash door codeHash
  writing : ∀ tables, door.auth.writing = some tables →
    ∀ codeHash session, tables.sessions.lookup codeHash = some session →
      Created hash door codeHash
  clients : ∀ id client,
    door.auth.stored.clients.lookup id = some client →
      Granted hash door client.tokenHash
  entered : ∀ visit handler, (visit, .entered handler) ∈ door.replies →
    May hash door visit handler
  pairings : ∀ visit code expiresAt,
    (visit, .pairing code expiresAt) ∈ door.replies →
      visit.listener = .localAdmin
  counted : door.replies.countP givesCode = door.auth.issued
  paired : ∀ visit id token, (visit, .paired id token) ∈ door.replies →
    ∃ client, door.auth.stored.clients.lookup id = some client ∧
      client.tokenHash = hash token

/-- What holds of a request under way. -/
def Part (hash : String → String) (door : Door) : DoorTask → Prop
  | .authenticate visit handler token =>
      visit.request.bearer = some token ∧
        ∀ other, handler = some other → Resolves visit other true
  | .completing visit completion token task =>
      visit.request.completion = some completion ∧
        match task with
        | .begin redeemed => redeemed = redemption hash completion token
        | .select redeemed => redeemed = redemption hash completion token
        | .consume codeHash _ _ client =>
            codeHash = hash completion.code ∧ client.tokenHash = hash token
        | .insertClient _ client =>
            client.tokenHash = hash token ∧
              Created hash door (hash completion.code)
        | .commit _ client =>
            client.tokenHash = hash token ∧
              Created hash door (hash completion.code)
        | .prune _ _ => False
        | .insertSession _ _ => False
  | .creating visit code task =>
      visit.listener = .localAdmin ∧
        match task with
        | .prune codeHash _ => codeHash = hash code
        | .insertSession codeHash _ => codeHash = hash code
        | _ => False

theorem Part.grows
    {door next : Door}
    {task : DoorTask}
    (part : Part hash door task)
    (grows : Grows door next) :
    Part hash next task := by
  cases task with
  | authenticate visit handler token => exact part
  | completing visit completion token task =>
      obtain ⟨asked, shape⟩ := part
      refine ⟨asked, ?_⟩
      cases task with
      | insertClient id client => exact ⟨shape.1, shape.2.grows grows⟩
      | commit id client => exact ⟨shape.1, shape.2.grows grows⟩
      | _ => exact shape
  | creating visit code task => exact part

theorem grows_answer
    (door : Door)
    (visit : Visit)
    (reply : Reply) :
    Grows door (door.answer visit reply) :=
  List.subset_append_left _ _

theorem grows_proceed
    (door : Door)
    (visit : Visit)
    (auth : Auth)
    (reply : Returned → Option Reply) :
    Grows door (door.proceed visit auth reply) := by
  unfold proceed
  split
  · exact List.Subset.refl _
  · exact List.subset_append_left _ _

/-- The database goes on and a request is answered: what is to be shown of the
new tables and of the reply. -/
theorem Whole.replies
    {door : Door}
    (whole : Whole hash door)
    (auth : Auth)
    {visit : Visit}
    {reply : Reply}
    (sessions : ∀ codeHash session,
      auth.stored.sessions.lookup codeHash = some session →
        Created hash ({ door with auth := auth }.answer visit reply) codeHash)
    (writing : ∀ tables, auth.writing = some tables →
      ∀ codeHash session, tables.sessions.lookup codeHash = some session →
        Created hash ({ door with auth := auth }.answer visit reply) codeHash)
    (clients : ∀ id client,
      auth.stored.clients.lookup id = some client →
        Granted hash ({ door with auth := auth }.answer visit reply)
          client.tokenHash)
    (kept : ∀ id client,
      door.auth.stored.clients.lookup id = some client →
        auth.stored.clients.lookup id = some client)
    (entered : ∀ handler, reply = .entered handler →
      May hash door visit handler)
    (pairings : ∀ code expiresAt, reply = .pairing code expiresAt →
      visit.listener = .localAdmin)
    (counted : auth.issued =
      door.auth.issued + if givesCode (visit, reply) then 1 else 0)
    (paired : ∀ id token, reply = .paired id token →
      ∃ client, auth.stored.clients.lookup id = some client ∧
        client.tokenHash = hash token) :
    Whole hash ({ door with auth := auth }.answer visit reply) := by
  have grows : Grows door ({ door with auth := auth }.answer visit reply) :=
    List.subset_append_left _ _
  have cases : ∀ other first,
      (other, first) ∈ ({ door with auth := auth }.answer visit
        reply).replies →
        (other, first) ∈ door.replies ∨ other = visit ∧ reply = first := by
    intro other first member
    rcases List.mem_append.mp member with stood | new
    · exact Or.inl stood
    · cases List.mem_singleton.mp new
      exact Or.inr ⟨rfl, rfl⟩
  refine ⟨sessions, writing, clients, ?_, ?_, ?_, ?_⟩
  · intro other handler member
    rcases cases other _ member with stood | ⟨rfl, same⟩
    · exact (whole.entered other handler stood).grows grows
    · exact (entered handler same).grows grows
  · intro other code expiresAt member
    rcases cases other _ member with stood | ⟨rfl, same⟩
    · exact whole.pairings other code expiresAt stood
    · exact pairings code expiresAt same
  · change (door.replies ++ [(visit, reply)]).countP givesCode = auth.issued
    rw [List.countP_append, whole.counted, counted, List.countP_singleton]
  · intro other id token member
    rcases cases other _ member with stood | ⟨rfl, same⟩
    · obtain ⟨client, found, tokenHash⟩ := whole.paired other id token stood
      exact ⟨client, kept id client found, tokenHash⟩
    · exact paired id token same

/-- The database goes on with the clients it has and no code that was not
given out. -/
theorem Whole.goesOn
    {door : Door}
    (whole : Whole hash door)
    {auth : Auth}
    (sessions : ∀ codeHash session,
      auth.stored.sessions.lookup codeHash = some session →
        Created hash door codeHash)
    (writing : ∀ tables, auth.writing = some tables →
      ∀ codeHash session, tables.sessions.lookup codeHash = some session →
        Created hash door codeHash)
    (clients : auth.stored.clients = door.auth.stored.clients)
    (issued : auth.issued = door.auth.issued) :
    Whole hash { door with auth := auth } := by
  refine ⟨sessions, writing, ?_, whole.entered, whole.pairings,
    whole.counted.trans issued.symm, ?_⟩
  · rw [clients]
    exact whole.clients
  · rw [clients]
    exact whole.paired

/-- A reply that gives nothing out, or lets somebody in who may. -/
theorem Whole.answer
    {door : Door}
    (whole : Whole hash door)
    {visit : Visit}
    {reply : Reply}
    (allowed : dull reply = true ∨
      ∃ handler, reply = .entered handler ∧ May hash door visit handler) :
    Whole hash (door.answer visit reply) := by
  have grows := grows_answer door visit reply
  refine whole.replies door.auth ?_ ?_ ?_ (fun _ _ => id)
    ?_ ?_ ?_ ?_
  · exact fun codeHash session found =>
      (whole.sessions codeHash session found).grows grows
  · exact fun tables writes codeHash session found =>
      (whole.writing tables writes codeHash session found).grows grows
  · exact fun id client found => (whole.clients id client found).grows grows
  · rintro handler rfl
    rcases allowed with isDull | ⟨other, same, may⟩
    · cases isDull
    · cases same
      exact may
  · rintro code expiresAt rfl
    rcases allowed with isDull | ⟨other, same, _⟩
    · cases isDull
    · cases same
  · rcases allowed with isDull | ⟨other, rfl, _⟩
    · cases reply <;> first | rfl | cases isDull
    · rfl
  · rintro id token rfl
    rcases allowed with isDull | ⟨other, same, _⟩
    · cases isDull
    · cases same

/-- The database goes on and returns nothing that is given out. -/
theorem Whole.proceed
    {door : Door}
    {auth : Auth}
    (whole : Whole hash { door with auth := auth })
    (visit : Visit)
    {reply : Returned → Option Reply}
    (isDull : ∀ given, auth.returned.bind reply = some given →
      dull given = true) :
    Whole hash (door.proceed visit auth reply) := by
  unfold Door.proceed
  split
  case h_1 silent => exact whole
  case h_2 given returned =>
      exact whole.answer (Or.inl (isDull given returned))

/-! ## A request comes in -/

/-- A route answers by a handler that it lists. -/
theorem mem_handlers
    {route : Route}
    {verb : Verb}
    {handler : Handler}
    (answers : route.handler verb = some handler) :
    handler ∈ route.handlers.map Prod.snd := by
  have listed : ∀ asked, route.handlers.lookup asked = some handler →
      handler ∈ route.handlers.map Prod.snd := by
    intro asked found
    obtain ⟨before, after, split, _⟩ := List.lookup_eq_some_iff.mp found
    simp [split]
  unfold Route.handler at answers
  split at answers
  · exact listed _ answers
  · exact listed _ answers

/-- The public listener neither creates codes nor edits the TMDB settings. -/
theorem router_is_public :
    ∀ route ∈ router, ∀ handler ∈ route.handlers.map Prod.snd,
      handler ∉ [.createPairing, .getTmdbSettings, .updateTmdbSettings,
        .clearTmdbSettings] := by
  decide

theorem router_creates_nothing
    (route : Route)
    (member : route ∈ router) :
    .createPairing ∉ route.handlers.map Prod.snd := by
  intro listed
  exact router_is_public route member _ listed (by simp)

/-- What an open route of the public listener is answered by. -/
theorem open_bind
    {visit : Visit}
    {handler : Handler}
    (isOpen : Resolves visit handler false)
    (bound : visit.listener = .bind) :
    handler = .health ∨ handler = .completePairing := by
  obtain ⟨route, found, unguarded, answers⟩ := isOpen
  have member := List.mem_of_find?_eq_some found
  have listed := mem_handlers answers
  rw [bound] at member
  change route ∈ router at member
  rcases List.mem_append.mp member with own | behind
  · rcases List.mem_cons.mp own with rfl | last
    · exact Or.inl (List.mem_singleton.mp listed)
    · rw [List.mem_singleton.mp last] at listed
      exact Or.inr (List.mem_singleton.mp listed)
  · obtain ⟨_, _, rfl⟩ := List.mem_map.mp behind
    cases unguarded

/-- What a request resolves to is a handler of its listener. -/
theorem mem_listener
    {visit : Visit}
    {handler : Handler}
    {guarded : Bool}
    (resolves : Resolves visit handler guarded) :
    ∃ route ∈ visit.listener.routes,
      handler ∈ route.handlers.map Prod.snd := by
  obtain ⟨route, found, _, answers⟩ := resolves
  exact ⟨route, List.mem_of_find?_eq_some found, mem_handlers answers⟩

/-- No guarded route creates codes. -/
theorem guarded_creates_nothing
    {visit : Visit}
    {handler : Handler}
    (resolves : Resolves visit handler true) :
    handler ≠ .createPairing := by
  rintro rfl
  obtain ⟨route, found, isGuarded, answers⟩ := resolves
  have member := List.mem_of_find?_eq_some found
  have listed := mem_handlers answers
  cases listener : visit.listener with
  | bind =>
      rw [listener] at member
      exact absurd listed (router_creates_nothing route member)
  | localAdmin =>
      rw [listener] at member
      have unguarded : ∀ route ∈ localRouter, route.guarded = false := by
        decide
      rw [unguarded route member] at isGuarded
      cases isGuarded

/-- What is known of a request before anything is read. -/
inductive Reception (visit : Visit) (draw : Draw) : Received → Prop
  | refused {reply : Reply} :
      dull reply = true → Reception visit draw (.answered reply)
  | entered {handler : Handler} :
      Resolves visit handler false → handler ≠ .createPairing →
      Reception visit draw (.answered (.entered handler))
  | guarded {handler : Option Handler} {token : String} :
      visit.request.bearer = some token →
      (∀ other, handler = some other → Resolves visit other true) →
      Reception visit draw (.guarded handler token)
  | complete {completion : CompletePairingRequest} :
      visit.request.completion = some completion →
      refusesName completion.clientName = false →
      Reception visit draw (.complete completion (mintToken draw.uuid))
  | create :
      visit.listener = .localAdmin →
      Reception visit draw (.create draw.code draw.now)

theorem reception
    (visit : Visit)
    (draw : Draw) :
    Reception visit draw (visit.receive draw) := by
  unfold Visit.receive
  dsimp only
  cases found : visit.listener.routes.find? fun route =>
      covers route.template visit.request.path with
  | none => exact .refused rfl
  | some route =>
      dsimp only
      split
      case isTrue guarded =>
          cases bearer : visit.request.bearer with
          | none => exact .refused rfl
          | some token =>
              exact .guarded bearer fun handler answers =>
                ⟨route, found, guarded, answers⟩
      case isFalse unguarded =>
          have isOpen : ∀ handler,
              route.handler visit.request.verb = some handler →
                Resolves visit handler false := fun handler answers =>
            ⟨route, found, Bool.eq_false_iff.mpr unguarded, answers⟩
          split
          case h_1 =>
              cases asked : visit.request.completion with
              | none => exact .refused rfl
              | some completion =>
                  dsimp only
                  split
                  case isTrue refused => exact .refused rfl
                  case isFalse accepted =>
                      exact .complete asked (Bool.eq_false_iff.mpr accepted)
          case h_2 answers =>
              refine .create ?_
              cases listener : visit.listener with
              | localAdmin => rfl
              | bind =>
                  rcases open_bind (isOpen _ answers) listener with
                    same | same
                  · cases same
                  · cases same
          case h_3 noCompletion noCreation =>
              cases answers : route.handler visit.request.verb with
              | none => exact .refused rfl
              | some handler =>
                  rw [answers] at noCreation
                  exact .entered (isOpen handler answers)
                    fun same => noCreation (congrArg some same)

/-- The invariant of the front door. -/
def Kept (hash : String → String) (pool : Pool Door DoorTask) : Prop :=
  pool.Holds (Whole hash) (Part hash)

variable {parse : String → Option UtcInstant} {pool : Pool Door DoorTask}

theorem Kept.call
    (kept : Kept hash pool)
    (call : Visit × Draw) :
    Kept hash ((program hash parse).step pool (.call call)) := by
  obtain ⟨visit, draw⟩ := call
  have whole := kept.shared
  have goes : ∀ auth : Auth, auth.stored = pool.shared.auth.stored →
      auth.writing = pool.shared.auth.writing →
      auth.issued = pool.shared.auth.issued →
      Whole hash { pool.shared with auth := auth } := by
    intro auth stored writing issued
    exact whole.goesOn (stored ▸ whole.sessions) (writing ▸ whole.writing)
      (by rw [stored]) issued
  have known := reception visit draw
  apply Pool.Holds.call kept
  · change Whole hash (enter hash pool.shared (visit, draw)).1
    unfold enter
    dsimp only
    generalize visit.receive draw = received at known ⊢
    cases known with
    | refused isDull => exact whole.answer (Or.inl isDull)
    | entered isOpen noCreation =>
        exact whole.answer
          (Or.inr ⟨_, rfl, noCreation, false, isOpen, nofun⟩)
    | guarded bearer resolves => exact whole
    | complete asked accepted => exact goes _ rfl rfl rfl
    | create isLocal => exact goes _ rfl rfl rfl
  · intro task member part
    refine part.grows ?_
    change Grows pool.shared (enter hash pool.shared (visit, draw)).1
    unfold enter
    dsimp only
    generalize visit.receive draw = received at known ⊢
    cases known with
    | refused isDull => exact grows_answer _ _ _
    | entered isOpen noCreation => exact grows_answer _ _ _
    | guarded bearer resolves => exact List.Subset.refl _
    | complete asked accepted => exact List.Subset.refl _
    | create isLocal => exact List.Subset.refl _
  · change ∀ task ∈ (enter hash pool.shared (visit, draw)).2,
      Part hash (enter hash pool.shared (visit, draw)).1 task
    unfold enter
    dsimp only
    generalize visit.receive draw = received at known ⊢
    cases known with
    | refused isDull => exact List.forall_mem_nil _
    | entered isOpen noCreation => exact List.forall_mem_nil _
    | guarded bearer resolves =>
        intro task member
        rw [List.mem_singleton.mp member]
        exact ⟨bearer, resolves⟩
    | complete asked accepted =>
        intro task member
        rw [List.mem_singleton.mp member]
        exact ⟨asked, rfl⟩
    | create isLocal =>
        intro task member
        rw [List.mem_singleton.mp member]
        exact ⟨isLocal, rfl⟩

/-! ## A redemption goes on -/

section Completing

variable
  {door : Door}
  {visit : Visit}
  {completion : CompletePairingRequest}
  {token : String}
  {answer : AuthAnswer}

/-- A section of a redemption keeps the invariant. -/
def Advances
    (hash : String → String)
    (door : Door)
    (visit : Visit)
    (completion : CompletePairingRequest)
    (token : String)
    (performed : Auth × List AuthTask) : Prop :=
  Whole hash (door.proceed visit performed.1 (completed token)) ∧
    ∀ other ∈ performed.2,
      Part hash (door.proceed visit performed.1 (completed token))
        (.completing visit completion token other)

/-- A section that stores nothing and gives nothing out. -/
theorem Whole.advances
    (whole : Whole hash door)
    {performed : Auth × List AuthTask}
    (stored : performed.1.stored = door.auth.stored)
    (writing : ∀ tables, performed.1.writing = some tables →
      ∀ codeHash session, tables.sessions.lookup codeHash = some session →
        Created hash door codeHash)
    (issued : performed.1.issued = door.auth.issued)
    (returned : ∀ id,
      performed.1.returned ≠ some (.consumed (.ok (some id))))
    (left : ∀ other ∈ performed.2,
      Part hash door (.completing visit completion token other)) :
    Advances hash door visit completion token performed := by
  refine ⟨(whole.goesOn (stored ▸ whole.sessions) writing (by rw [stored])
    issued).proceed visit ?_, ?_⟩
  · intro given replied
    cases result : performed.1.returned with
    | none =>
        rw [result] at replied
        cases replied
    | some value =>
        rw [result] at replied
        cases value with
        | created expiresAt => cases replied
        | consumed outcome =>
            cases outcome with
            | error error =>
                cases replied
                rfl
            | ok client =>
                cases client with
                | none =>
                    cases replied
                    rfl
                | some id => exact absurd result (returned id)
  · intro other member
    exact (left other member).grows (grows_proceed _ _ _ _)

/-- A redemption that ends before it wrote. -/
theorem Whole.refuses
    (whole : Whole hash door)
    {auth : Auth}
    (stored : auth.stored = door.auth.stored)
    (writing : auth.writing = door.auth.writing)
    (issued : auth.issued = door.auth.issued)
    {result : Except Unit (Option String)}
    (nobody : ∀ id, result ≠ .ok (some id)) :
    Advances hash door visit completion token (auth.refuse result) := by
  refine whole.advances stored (fun tables writes => ?_) issued ?_
    (List.forall_mem_nil _)
  · exact whole.writing tables (writing ▸ writes)
  · intro id same
    cases result with
    | error error => cases same
    | ok client =>
        cases client with
        | none => cases same
        | some other => exact nobody other rfl

/-- A redemption that takes its writes back. -/
theorem Whole.rollsBack (whole : Whole hash door) :
    Advances hash door visit completion token door.auth.rollBack :=
  whole.advances rfl nofun rfl (fun _ same => by cases same)
    (List.forall_mem_nil _)

theorem advances_begin
    (whole : Whole hash door)
    (asked : visit.request.completion = some completion) :
    Advances hash door visit completion token
      (door.auth.perform parse (.begin (redemption hash completion token))
        answer) := by
  change Advances hash door visit completion token (ite _ _ _)
  split
  case isTrue fault => exact whole.refuses rfl rfl rfl nofun
  case isFalse well =>
    refine whole.advances rfl whole.writing rfl nofun ?_
    intro other member
    rw [List.mem_singleton.mp member]
    exact ⟨asked, rfl⟩

theorem advances_select
    (whole : Whole hash door)
    (asked : visit.request.completion = some completion) :
    Advances hash door visit completion token
      (door.auth.perform parse (.select (redemption hash completion token))
        answer) := by
  change Advances hash door visit completion token
    (door.auth.select parse (redemption hash completion token) answer)
  unfold Auth.select
  split
  case isTrue fault => exact whole.refuses rfl rfl rfl nofun
  case isFalse well =>
    dsimp only
    split
    case h_1 absent => exact whole.refuses rfl rfl rfl nofun
    case h_2 session found =>
      split
      case isTrue valid =>
        refine whole.advances rfl whole.writing rfl nofun ?_
        intro other member
        rw [List.mem_singleton.mp member]
        exact ⟨asked, rfl, rfl⟩
      case isFalse invalid =>
        refine whole.refuses ?_ ?_ ?_ nofun
        · rfl
        · rfl
        · rfl

/-- Whoever marks a row reads one, so the code was given out. -/
theorem advances_consume
    (whole : Whole hash door)
    (asked : visit.request.completion = some completion)
    {snapshot : Nat}
    {id : String}
    {client : PairedClient}
    (tokenHash : client.tokenHash = hash token) :
    Advances hash door visit completion token
      (door.auth.perform parse
        (.consume (hash completion.code) snapshot id client) answer) := by
  change Advances hash door visit completion token
    (door.auth.consume (hash completion.code) snapshot id client answer)
  unfold Auth.consume
  split
  case isTrue fault => exact whole.refuses rfl rfl rfl nofun
  case isFalse well =>
    split
    case isTrue busy =>
      refine whole.advances rfl whole.writing rfl nofun ?_
      intro other member
      rw [List.mem_singleton.mp member]
      exact ⟨asked, rfl, tokenHash⟩
    case isFalse free =>
      split
      case isTrue stale => exact whole.refuses rfl rfl rfl nofun
      case isFalse current =>
        split
        case h_1 absent => exact whole.refuses rfl rfl rfl nofun
        case h_2 session found =>
          split
          case isTrue spent => exact whole.refuses rfl rfl rfl nofun
          case isFalse fresh =>
            have created := whole.sessions _ session found
            refine whole.advances rfl ?_ rfl nofun ?_
            · rintro _ ⟨⟩ codeHash other stood
              dsimp only at stood
              rw [Table.lookup_insert_eq_ite] at stood
              split at stood
              case isTrue same => exact same ▸ created
              case isFalse different => exact whole.sessions _ other stood
            · intro other member
              rw [List.mem_singleton.mp member]
              exact ⟨asked, tokenHash, created⟩

theorem advances_insertClient
    (whole : Whole hash door)
    (asked : visit.request.completion = some completion)
    {id : String}
    {client : PairedClient}
    (tokenHash : client.tokenHash = hash token)
    (created : Created hash door (hash completion.code)) :
    Advances hash door visit completion token
      (door.auth.perform parse (.insertClient id client) answer) := by
  change Advances hash door visit completion token
    (door.auth.insertClient id client answer)
  unfold Auth.insertClient
  split
  case h_1 nothing => exact whole.rollsBack
  case h_2 tables writing =>
    split
    case isTrue taken => exact whole.rollsBack
    case isFalse free =>
      refine whole.advances rfl ?_ rfl nofun ?_
      · rintro _ ⟨⟩ codeHash session found
        exact whole.writing tables writing codeHash session found
      · intro other member
        rw [List.mem_singleton.mp member]
        exact ⟨asked, tokenHash, created⟩

/-- The commit gives the token out in the step that makes it known. -/
theorem advances_commit
    (whole : Whole hash door)
    (asked : visit.request.completion = some completion)
    {id : String}
    {client : PairedClient}
    (tokenHash : client.tokenHash = hash token)
    (created : Created hash door (hash completion.code))
    (inner : Auth.Part door.auth (.commit id client)) :
    Advances hash door visit completion token
      (door.auth.perform parse (.commit id client) answer) := by
  obtain ⟨tables, writing, clients, absent, _, _⟩ := inner
  change Advances hash door visit completion token
    (door.auth.commit id answer)
  unfold Auth.commit
  rw [writing]
  dsimp only
  split
  case isTrue fault => exact whole.rollsBack
  case isFalse well =>
    refine ⟨?_, List.forall_mem_nil _⟩
    have grows : Grows door (Door.answer
        { door with auth := {
            door.auth with
            stored := tables
            version := door.auth.version + 1
            writing := none
            returned := some (.consumed (.ok (some id))) } }
        visit (.paired id token)) :=
      List.subset_append_left _ _
    refine whole.replies _ ?_ nofun ?_ ?_ nofun nofun rfl ?_
    · intro codeHash session found
      exact (whole.writing tables writing codeHash session found).grows grows
    · intro other second found
      dsimp only at found
      rw [clients, Table.lookup_insert_eq_ite] at found
      split at found
      case isTrue same =>
        cases found
        refine ⟨visit, completion, id, token, ?_, asked, tokenHash.symm,
          created.grows grows⟩
        exact List.mem_append_right _ (List.mem_singleton_self _)
      case isFalse different =>
        exact (whole.clients other second found).grows grows
    · intro other second found
      dsimp only
      rw [clients, Table.lookup_insert_eq_ite, if_neg]
      · exact found
      · rintro rfl
        rw [absent] at found
        cases found
    · rintro _ _ ⟨⟩
      refine ⟨client, ?_, tokenHash⟩
      dsimp only
      rw [clients]
      exact AList.lookup_insert _

end Completing

/-! ## A creation goes on -/

section Creating

variable
  {door : Door}
  {visit : Visit}
  {code : String}
  {now : UtcInstant}
  {answer : AuthAnswer}

/-- A section of a creation keeps the invariant. -/
def Creates
    (hash : String → String)
    (door : Door)
    (visit : Visit)
    (code : String)
    (performed : Auth × List AuthTask) : Prop :=
  Whole hash (door.proceed visit performed.1 (createdReply code)) ∧
    ∀ other ∈ performed.2,
      Part hash (door.proceed visit performed.1 (createdReply code))
        (.creating visit code other)

/-- A creation that fails. -/
theorem Whole.fails (whole : Whole hash door) :
    Creates hash door visit code
      ({ door.auth with returned := some (.created none) }, []) := by
  have failed : Whole hash
      { door with
        auth := { door.auth with returned := some (.created none) } } :=
    whole.goesOn whole.sessions whole.writing rfl rfl
  have answered : Whole hash (Door.answer
      { door with
        auth := { door.auth with returned := some (.created none) } }
      visit .internal) :=
    failed.answer (Or.inl rfl)
  exact ⟨answered, List.forall_mem_nil _⟩

theorem creates_prune
    (whole : Whole hash door)
    (isLocal : visit.listener = .localAdmin) :
    Creates hash door visit code
      (door.auth.perform parse (.prune (hash code) now) answer) := by
  change Creates hash door visit code
    (door.auth.prune (hash code) now answer)
  unfold Auth.prune
  split
  case isTrue fault => exact whole.fails
  case isFalse well =>
    split
    case isTrue busy =>
      refine ⟨whole.goesOn whole.sessions whole.writing rfl rfl, ?_⟩
      intro other member
      rw [List.mem_singleton.mp member]
      exact ⟨isLocal, rfl⟩
    case isFalse free =>
      refine ⟨whole.goesOn ?_ whole.writing rfl rfl, ?_⟩
      · intro codeHash session found
        dsimp only at found
        rw [Table.lookup_filter, Option.filter_eq_some_iff] at found
        exact whole.sessions codeHash session found.1
      · intro other member
        rw [List.mem_singleton.mp member]
        exact ⟨isLocal, rfl⟩

/-- The insertion gives the code out in the step that makes it known. -/
theorem creates_insertSession
    (whole : Whole hash door)
    (isLocal : visit.listener = .localAdmin) :
    Creates hash door visit code
      (door.auth.perform parse (.insertSession (hash code) now) answer) := by
  change Creates hash door visit code
    (door.auth.insertSession (hash code) now answer)
  unfold Auth.insertSession
  split
  case isTrue fault => exact whole.fails
  case isFalse well =>
    split
    case isTrue busy =>
      refine ⟨whole.goesOn whole.sessions whole.writing rfl rfl, ?_⟩
      intro other member
      rw [List.mem_singleton.mp member]
      exact ⟨isLocal, rfl⟩
    case isFalse free =>
      split
      case isTrue taken => exact whole.fails
      case isFalse fresh =>
        refine ⟨?_, List.forall_mem_nil _⟩
        have grows : ∀ auth reply,
            Grows door (Door.answer { door with auth := auth } visit reply) :=
          fun _ _ => List.subset_append_left _ _
        refine whole.replies _ ?_ ?_ ?_ (fun _ _ => id) nofun
          (fun _ _ _ => isLocal) rfl nofun
        · intro codeHash session found
          dsimp only at found
          rw [Table.lookup_insert_eq_ite] at found
          split at found
          case isTrue same =>
            exact ⟨visit, code, validity now,
              List.mem_append_right _ (List.mem_singleton_self _), same.symm⟩
          case isFalse different =>
            exact (whole.sessions codeHash session found).grows (grows _ _)
        · intro tables writes codeHash session found
          exact (whole.writing tables writes codeHash session found).grows
            (grows _ _)
        · intro id client found
          exact (whole.clients id client found).grows (grows _ _)

end Creating

/-! ## Runs -/

/-- A token is known to the database exactly if a client has its hash. -/
theorem knows_iff
    (auth : Auth)
    (token : String) :
    knows hash auth token = true ↔
      ∃ id client, auth.stored.clients.lookup id = some client ∧
        client.tokenHash = hash token := by
  simp only [knows, List.any_eq_true, beq_iff_eq]
  constructor
  · rintro ⟨⟨id, client⟩, member, same⟩
    exact ⟨id, client, AList.mem_lookup_iff.mpr member, same⟩
  · rintro ⟨id, client, found, same⟩
    exact ⟨⟨id, client⟩, AList.mem_lookup_iff.mp found, same⟩

/-- Whoever is let in bears a token that was given out. -/
theorem Whole.authenticate
    {door : Door}
    (whole : Whole hash door)
    {visit : Visit}
    {handler : Option Handler}
    {token : String}
    (bearer : visit.request.bearer = some token)
    (resolves : ∀ other, handler = some other → Resolves visit other true)
    (answer : AuthAnswer) :
    Whole hash (door.authenticate hash visit handler token answer) := by
  unfold Door.authenticate
  split
  case isTrue fault => exact whole.answer (Or.inl rfl)
  case isFalse well =>
    split
    case isTrue known =>
      obtain ⟨id, client, found, same⟩ := (knows_iff _ _).mp known
      have granted := whole.clients id client found
      rw [same] at granted
      cases handler with
      | none => exact whole.answer (Or.inl rfl)
      | some handler =>
          have behind := resolves handler rfl
          exact whole.answer (Or.inr ⟨handler, rfl,
            guarded_creates_nothing behind, true, behind,
            fun _ => ⟨token, bearer, granted⟩⟩)
    case isFalse unknown => exact whole.answer (Or.inl rfl)

/-- A section of a request keeps the invariant, as far as the pairing inside
keeps its own. -/
theorem Kept.advance
    (kept : Kept hash pool)
    (inner : Sound ((glimpse hash parse).pool pool))
    (index : Nat)
    (answer : AuthAnswer) :
    Kept hash ((program hash parse).step pool (.advance index answer)) := by
  cases stands : pool.tasks[index]? with
  | none =>
      rw [(program hash parse).step_idle stands]
      exact kept
  | some task =>
      have whole := kept.shared
      have member := List.mem_of_getElem? stands
      have part := kept.each task member
      have performed : Whole hash
            (perform hash parse pool.shared task answer).1 ∧
          Grows pool.shared (perform hash parse pool.shared task answer).1 ∧
          ∀ other ∈ (perform hash parse pool.shared task answer).2,
            Part hash (perform hash parse pool.shared task answer).1
              other := by
        cases task with
        | authenticate visit handler token =>
            obtain ⟨bearer, resolves⟩ := part
            refine ⟨whole.authenticate bearer resolves answer, ?_,
              List.forall_mem_nil _⟩
            change Grows pool.shared
              (pool.shared.authenticate hash visit handler token answer)
            unfold Door.authenticate
            split_ifs <;> exact grows_answer _ _ _
        | completing visit completion token task =>
            have advances : Advances hash pool.shared visit completion token
                (pool.shared.auth.perform parse task answer) := by
              obtain ⟨asked, shape⟩ := part
              cases task with
              | prune codeHash now => exact shape.elim
              | insertSession codeHash now => exact shape.elim
              | begin redeemed =>
                  subst shape
                  exact advances_begin whole asked
              | select redeemed =>
                  subst shape
                  exact advances_select whole asked
              | consume codeHash snapshot id client =>
                  obtain ⟨rfl, tokenHash⟩ := shape
                  exact advances_consume whole asked tokenHash
              | insertClient id client =>
                  exact advances_insertClient whole asked shape.1 shape.2
              | commit id client =>
                  refine advances_commit whole asked shape.1 shape.2 ?_
                  exact inner.each _
                    (List.mem_filterMap.mpr ⟨_, member, rfl⟩)
            refine ⟨advances.1, grows_proceed _ _ _ _, ?_⟩
            intro other left
            obtain ⟨task', listed, rfl⟩ := List.mem_map.mp left
            exact advances.2 task' listed
        | creating visit code task =>
            have creates : Creates hash pool.shared visit code
                (pool.shared.auth.perform parse task answer) := by
              obtain ⟨isLocal, shape⟩ := part
              cases task with
              | prune codeHash now =>
                  subst shape
                  exact creates_prune whole isLocal
              | insertSession codeHash now =>
                  subst shape
                  exact creates_insertSession whole isLocal
              | _ => exact shape.elim
            refine ⟨creates.1, grows_proceed _ _ _ _, ?_⟩
            intro other left
            obtain ⟨task', listed, rfl⟩ := List.mem_map.mp left
            exact creates.2 task' listed
      exact Pool.Holds.advance kept stands performed.1
        (fun other _ stood => stood.grows performed.2.1) performed.2.2

/-- The codes that are created expire in years of four digits. -/
def InTime
    (pool : Pool Door DoorTask) :
    Move (Visit × Draw) AuthAnswer → Prop
  | .call (_, draw) =>
      (validity (max pool.shared.auth.clock draw.now)).year ≤ 9999
  | _ => True

theorem inTime_seen
    {move : Move (Visit × Draw) AuthAnswer}
    (inTime : InTime pool move)
    {seen : Move AuthCall AuthAnswer}
    (isSeen : (glimpse hash parse).move pool move = some seen) :
    Auth.InTime ((glimpse hash parse).pool pool) seen := by
  cases move with
  | call request =>
      obtain ⟨visit, draw⟩ := request
      obtain ⟨call, called, rfl⟩ := Option.map_eq_some_iff.mp isSeen
      change authCall hash (visit, draw) = some call at called
      have known := reception visit draw
      unfold authCall at called
      dsimp only at called
      generalize visit.receive draw = received at known called
      cases known with
      | refused isDull => cases called
      | entered isOpen noCreation => cases called
      | guarded bearer resolves => cases called
      | complete asked accepted =>
          cases called
          trivial
      | create isLocal =>
          cases called
          exact inTime
  | advance index answer =>
      cases seen with
      | call request =>
          simp only [Glimpse.move] at isSeen
          split at isSeen
          · cases isSeen
          · simp at isSeen
      | advance index' answer' => trivial

theorem kept_start (clock : UtcInstant) :
    Kept hash ⟨start clock, []⟩ := by
  refine ⟨⟨nofun, nofun, nofun, ?_, ?_, rfl, ?_⟩, List.forall_mem_nil _⟩
  · exact fun visit handler member => absurd member List.not_mem_nil
  · exact fun visit code expiresAt member => absurd member List.not_mem_nil
  · exact fun visit id token member => absurd member List.not_mem_nil

theorem kept_run
    (reads : ∀ instant : UtcInstant, instant.year ≤ 9999 →
      parse instant.toRfc3339 = some instant)
    (clock : UtcInstant)
    (moves : List (Move (Visit × Draw) AuthAnswer))
    (inTime : (machine hash parse clock).Along InTime moves) :
    Kept hash ((machine hash parse clock).run moves) ∧
      Sound ((glimpse hash parse).pool
        ((machine hash parse clock).run moves)) := by
  have both := (machine hash parse clock).run_induction_along InTime
    (fun pool => Kept hash pool ∧ Sound ((glimpse hash parse).pool pool) ∧
      LockKept ((glimpse hash parse).pool pool)) ?_ ?_ moves inTime
  · exact ⟨both.1, both.2.1⟩
  · exact ⟨kept_start clock, ⟨AuthTables.sound_empty, nofun⟩, rfl⟩
  · rintro pool move ⟨kept, sound, lock⟩ timely
    refine ⟨?_, ?_⟩
    · cases move with
      | call call => exact kept.call call
      | advance index answer => exact kept.advance sound index answer
    · change Sound ((glimpse hash parse).pool
          ((program hash parse).step pool move)) ∧
        LockKept ((glimpse hash parse).pool
          ((program hash parse).step pool move))
      rw [(glimpse hash parse).step_pool]
      cases seen : (glimpse hash parse).move pool move with
      | none => exact ⟨sound, lock⟩
      | some move' =>
          exact ⟨sound.step reads lock move' (inTime_seen timely seen),
            lock.step move'⟩

/-- There are no more clients than codes. -/
theorem clients_le
    {tables : AuthTables}
    {issued : Nat}
    {pruned : List Nat}
    (sound : tables.Sound issued pruned) :
    tables.clients.entries.length ≤ issued := by
  have found : ∀ entry ∈ tables.clients.entries,
      tables.clients.lookup entry.1 = some entry.2 :=
    fun entry member => AList.mem_lookup_iff.mpr member
  have distinct :
      (tables.clients.entries.map fun entry => entry.2.issue).Nodup := by
    refine List.Nodup.map_on ?_ tables.clients.nodupKeys.nodup
    intro first firstMember second secondMember same
    have sameId := sound.single first.1 first.2 second.1 second.2
      (found first firstMember) (found second secondMember) same
    obtain ⟨id, client⟩ := first
    obtain ⟨_, other⟩ := second
    cases sameId
    have sameClient : some client = some other :=
      (found ⟨id, client⟩ firstMember).symm.trans
        (found ⟨id, other⟩ secondMember)
    cases sameClient
    rfl
  have below : (tables.clients.entries.map fun entry => entry.2.issue) ⊆
      List.range issued := by
    intro issue member
    obtain ⟨entry, entryMember, rfl⟩ := List.mem_map.mp member
    exact List.mem_range.mpr
      (sound.minted entry.1 entry.2 (found entry entryMember)).1
  have shorter := (List.subperm_of_subset distinct below).length_le
  rwa [List.length_map, List.length_range] at shorter

/-- A token was given out exactly if the database knows it. -/
theorem Whole.knows_iff
    {door : Door}
    (whole : Whole hash door)
    (token : String) :
    knows hash door.auth token = true ↔ Granted hash door (hash token) := by
  rw [Door.knows_iff]
  constructor
  · rintro ⟨id, client, found, same⟩
    exact same ▸ whole.clients id client found
  · rintro ⟨visit, completion, id, granted, member, _, same, _⟩
    obtain ⟨client, found, tokenHash⟩ := whole.paired visit id granted member
    exact ⟨id, client, found, tokenHash.trans same⟩

/-- At the public listener every handler but the health report is entered with
a token only, of the hash of one that a completed pairing gave out, for a code
of the hash of one that was created at the listener of the host; the handlers
of that listener are not entered at all.  Codes are created at no other
listener, and there are no more clients than codes.  A request that waits for
its token to be looked up is let in exactly if such a token was given out, to
the handler of its method if there is one, unless the database fails.  Codes
expire in years of four digits. -/
theorem protected_handlers_need_a_pairing
    (hash : String → String)
    (parse : String → Option UtcInstant)
    (reads : ∀ instant : UtcInstant, instant.year ≤ 9999 →
      parse instant.toRfc3339 = some instant)
    (clock : UtcInstant)
    (moves : List (Move (Visit × Draw) AuthAnswer))
    (inTime : (machine hash parse clock).Along InTime moves) :
    let pool := (machine hash parse clock).run moves
    let door := pool.shared
    (∀ visit handler, (visit, .entered handler) ∈ door.replies →
      visit.listener = .bind → handler ≠ .health →
        handler ∉ [.createPairing, .getTmdbSettings, .updateTmdbSettings,
          .clearTmdbSettings] ∧
        (handler ≠ .completePairing →
          ∃ token, visit.request.bearer = some token ∧
            Granted hash door (hash token))) ∧
    (∀ visit code expiresAt,
      (visit, .pairing code expiresAt) ∈ door.replies →
        visit.listener = .localAdmin) ∧
    door.auth.stored.clients.entries.length ≤
      door.replies.countP givesCode ∧
    ∀ (index : Nat) (visit : Visit) (handler : Option Handler)
      (token : String) (answer : AuthAnswer),
      pool.tasks[index]? = some (.authenticate visit handler token) →
      answer.fault = false →
        let next := ((program hash parse).step pool
          (.advance index answer)).shared
        (Granted hash door (hash token) →
          next.replies = door.replies ++ [(visit, .of handler)]) ∧
        (¬Granted hash door (hash token) →
          next.replies = door.replies ++ [(visit, .unauthorized)]) := by
  intro pool door
  obtain ⟨kept, sound⟩ := kept_run reads clock moves inTime
  have whole : Whole hash door := kept.shared
  refine ⟨?_, whole.pairings, ?_, ?_⟩
  · intro visit handler member bound notHealth
    obtain ⟨_, guarded, resolves, bears⟩ := whole.entered visit handler member
    constructor
    · obtain ⟨route, listed, answers⟩ := mem_listener resolves
      rw [bound] at listed
      exact router_is_public route listed handler answers
    · intro notCompletion
      cases guarded with
      | true => exact bears rfl
      | false =>
          rcases open_bind resolves bound with same | same
          · exact absurd same notHealth
          · exact absurd same notCompletion
  · rw [whole.counted]
    exact clients_le sound.shared
  · intro index visit handler token answer stands well
    rw [(program hash parse).step_advance stands]
    change (Granted hash door (hash token) →
        (door.authenticate hash visit handler token answer).replies = _) ∧
      (¬Granted hash door (hash token) →
        (door.authenticate hash visit handler token answer).replies = _)
    unfold Door.authenticate
    rw [if_neg (by simp [well])]
    constructor
    · intro granted
      rw [if_pos ((whole.knows_iff token).mpr granted)]
      rfl
    · intro nobody
      rw [if_neg (fun known => nobody ((whole.knows_iff token).mp known))]
      rfl

/-- A laptop asks for the library with the token it was given. -/
def browsing : Visit where
  listener := .bind
  request :=
    { verb := .get
      path := ["v1", "library"]
      authorization := some "Bearer hearthdeck_0" }

/-- The host creates a code, a laptop redeems it and asks for the library. -/
def browsed : List (Move (Visit × Draw) AuthAnswer) :=
  let draw : Draw := { uuid := "0", code := "CODE", now := noon }
  let next : Move (Visit × Draw) AuthAnswer :=
    .advance 0 { now := noon, later := noon, uuid := "laptop" }
  [.call (⟨.localAdmin, { verb := .post, path := ["v1", "pairing"] }⟩, draw),
    next, next,
    .call (⟨.bind,
      { verb := .post
        path := ["v1", "pairing", "complete"]
        completion := some ⟨"CODE", "Laptop"⟩ }⟩, draw),
    next, next, next, next, next,
    .call (browsing, draw), next]

theorem protected_handlers_need_a_pairing_browsed :
    let door := ((machine id UtcInstant.ofRfc3339 noon).run browsed).shared
    (browsing, .entered .listLibrary) ∈ door.replies ∧
      ∃ token, browsing.request.bearer = some token ∧
        Granted id door token := by
  have inTime : (machine id UtcInstant.ofRfc3339 noon).Along InTime
      browsed := by
    apply Machine.along_of_alongFrom
    have early : (validity (max noon noon)).year ≤ 9999 := by decide
    exact ⟨early, trivial, trivial, early, trivial, trivial, trivial,
      trivial, trivial, early, trivial, trivial⟩
  have entered : (browsing, .entered .listLibrary) ∈
      ((machine id UtcInstant.ofRfc3339 noon).run browsed).shared.replies := by
    decide +kernel
  obtain ⟨admitted, _⟩ := protected_handlers_need_a_pairing id
    UtcInstant.ofRfc3339 (fun instant => UtcInstant.ofRfc3339_toRfc3339) noon
    browsed inTime
  exact ⟨entered, (admitted browsing .listLibrary entered rfl nofun).2 nofun⟩

end Door
end Daemon
end Hearthdeck
