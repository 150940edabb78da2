import Hearthdeck.Daemon.PairingCodes
import Hearthdeck.Frontend.Library
import Hearthdeck.Frontend.RommForm

/-!
# The front door of the daemon

The daemon listens twice.  The public listener serves the health report and
the completion of a pairing to everybody, and everything else behind
`require_authentication`; the listener for the host itself creates pairing
codes and edits the TMDB settings.  A request is resolved to a handler, and a
handler is entered, refused, or, for the pairing of clients, run by the
statements of `AuthRepository` among those of all other requests.

Drawing codes and tokens is the work of a library, and so is the hash; what
they give is an argument here.
-/

namespace Hearthdeck
namespace Daemon

open Foundation

/-- A method of a request. -/
inductive Verb
  | get
  | head
  | post
  | put
  | delete
  | other (name : String)
  deriving DecidableEq, Repr

/-- The handlers of both routers. -/
inductive Handler
  | health
  | completePairing
  | createPairing
  | getTmdbSettings
  | updateTmdbSettings
  | clearTmdbSettings
  | diagnostics
  | listLibrary
  | listCollections
  | addCollectionItem
  | removeCollectionItem
  | listRetroConsoles
  | retroReadiness
  | syncRetroReadiness
  | installRetroCores
  | listRetroRoms
  | listRetroFacets
  | retroRomDetails
  | setRetroFavorite
  | setRetroBacklogged
  | retroAsset
  | getRommSettings
  | updateRommSettings
  | clearRommSettings
  | rommLogin
  | startRommLink
  | pollRommLink
  | startStremioLink
  | pollStremioLink
  | getStremioSettings
  | unlinkStremio
  | categorization
  | enableCategorization
  | disableCategorization
  | startCategorization
  | removeCategorizationCollections
  | detectFormFactors
  | refreshSource
  | refreshMetadata
  | launchItem
  | activeApplicationSession
  | stopActiveApplicationSession
  | stopApplicationSession
  | events
  deriving DecidableEq, Repr

/-- A segment of the path of a route. -/
inductive Segment
  | literal (text : String)
  | parameter (name : String)
  deriving DecidableEq, Repr

/-- A route, with what it answers each method by. -/
structure Route where
  template : List Segment
  handlers : List (Verb × Handler)
  /-- The route lies behind `require_authentication`. -/
  guarded : Bool

/-- The route of a template that has literals only. -/
def route
    (pieces : List String)
    (handlers : List (Verb × Handler)) : Route where
  template := pieces.map .literal
  handlers := handlers
  guarded := false

/-- `route_layer`.  It wraps the answer to other methods, too. -/
def Route.guard (route : Route) : Route :=
  { route with guarded := true }

/-- `protected_routes`.  Where two templates cover a path, the one with the
literal stands first, as the router prefers it. -/
def protectedRoutes : List Route :=
  [ route ["v1", "diagnostics"] [(.get, .diagnostics)],
    route ["v1", "library"] [(.get, .listLibrary)],
    route ["v1", "collections"] [(.get, .listCollections)],
    { template := [.literal "v1", .literal "collections", .parameter "slug",
        .literal "items"]
      handlers :=
        [(.post, .addCollectionItem), (.delete, .removeCollectionItem)]
      guarded := false },
    route ["v1", "retro", "consoles"] [(.get, .listRetroConsoles)],
    route ["v1", "retro", "readiness"] [(.get, .retroReadiness)],
    route ["v1", "retro", "readiness", "sync"] [(.post, .syncRetroReadiness)],
    route ["v1", "retro", "cores", "install"] [(.post, .installRetroCores)],
    route ["v1", "retro", "roms"] [(.get, .listRetroRoms)],
    route ["v1", "retro", "facets"] [(.get, .listRetroFacets)],
    { template := [.literal "v1", .literal "retro", .literal "roms",
        .parameter "id"]
      handlers := [(.get, .retroRomDetails)]
      guarded := false },
    { template := [.literal "v1", .literal "retro", .literal "roms",
        .parameter "id", .literal "favorite"]
      handlers := [(.post, .setRetroFavorite)]
      guarded := false },
    { template := [.literal "v1", .literal "retro", .literal "roms",
        .parameter "id", .literal "backlog"]
      handlers := [(.post, .setRetroBacklogged)]
      guarded := false },
    route ["v1", "retro", "assets"] [(.get, .retroAsset)],
    route ["v1", "retro", "settings"]
      [(.get, .getRommSettings), (.put, .updateRommSettings),
        (.delete, .clearRommSettings)],
    route ["v1", "retro", "login"] [(.post, .rommLogin)],
    route ["v1", "retro", "link"]
      [(.post, .startRommLink), (.get, .pollRommLink)],
    route ["v1", "stremio", "link"]
      [(.post, .startStremioLink), (.get, .pollStremioLink)],
    route ["v1", "stremio", "settings"]
      [(.get, .getStremioSettings), (.delete, .unlinkStremio)],
    route ["v1", "categorization"] [(.get, .categorization)],
    route ["v1", "categorization", "enable"] [(.post, .enableCategorization)],
    route ["v1", "categorization", "disable"]
      [(.post, .disableCategorization)],
    route ["v1", "categorization", "scan"] [(.post, .startCategorization)],
    route ["v1", "categorization", "collections"]
      [(.delete, .removeCategorizationCollections)],
    route ["v1", "categorization", "form-factors"]
      [(.post, .detectFormFactors)],
    { template := [.literal "v1", .literal "discovery",
        .parameter "source_id", .literal "refresh"]
      handlers := [(.post, .refreshSource)]
      guarded := false },
    { template := [.literal "v1", .literal "metadata",
        .parameter "provider_id", .literal "refresh"]
      handlers := [(.post, .refreshMetadata)]
      guarded := false },
    { template := [.literal "v1", .literal "launch", .parameter "item_id"]
      handlers := [(.post, .launchItem)]
      guarded := false },
    route ["v1", "sessions", "active"] [(.get, .activeApplicationSession)],
    route ["v1", "sessions", "active", "stop"]
      [(.post, .stopActiveApplicationSession)],
    { template := [.literal "v1", .literal "sessions", .parameter "id",
        .literal "stop"]
      handlers := [(.post, .stopApplicationSession)]
      guarded := false },
    route ["v1", "events"] [(.get, .events)] ]

/-- `router`. -/
def router : List Route :=
  [ route ["v1", "health"] [(.get, .health)],
    route ["v1", "pairing", "complete"] [(.post, .completePairing)] ] ++
  protectedRoutes.map Route.guard

/-- `local_router`. -/
def localRouter : List Route :=
  [ route ["v1", "pairing"] [(.post, .createPairing)],
    route ["v1", "tmdb", "settings"]
      [(.get, .getTmdbSettings), (.put, .updateTmdbSettings),
        (.delete, .clearTmdbSettings)] ]

/-- A template covers a path; a parameter stands for a segment that is not
empty. -/
def covers : List Segment → List String → Bool
  | [], [] => true
  | .literal text :: template, piece :: path =>
      text == piece && covers template path
  | .parameter _ :: template, piece :: path =>
      piece != "" && covers template path
  | _, _ => false

/-- What a route answers a method by; what answers `GET` answers `HEAD`. -/
def Route.handler (route : Route) (verb : Verb) : Option Handler :=
  match verb with
  | .head => route.handlers.lookup .get
  | verb => route.handlers.lookup verb

/-- `CompletePairingRequest`. -/
structure CompletePairingRequest where
  code : String
  clientName : String
  deriving DecidableEq, Repr

/-- A request, as far as the front door reads it. -/
structure HttpRequest where
  verb : Verb
  /-- The segments of the path. -/
  path : List String
  /-- The first `Authorization` header, if it is there and text. -/
  authorization : Option String := none
  /-- The body, if it reads as the completion of a pairing. -/
  completion : Option CompletePairingRequest := none
  deriving DecidableEq, Repr

/-- The listener a request comes in by. -/
inductive Listener
  | bind
  | localAdmin
  deriving DecidableEq, Repr

/-- Its routes. -/
def Listener.routes : Listener → List Route
  | .bind => router
  | .localAdmin => localRouter

/-- What is drawn and read for a request. -/
structure Draw where
  /-- `Uuid::new_v4`, for the token of a client. -/
  uuid : String
  /-- Twelve characters, for a pairing code. -/
  code : String
  /-- The clock. -/
  now : UtcInstant

/-- A request at a listener. -/
structure Visit where
  listener : Listener
  request : HttpRequest
  deriving DecidableEq

/-- What a request comes to. -/
inductive Reply
  | notFound
  | methodNotAllowed
  | unprocessable
  /-- `ApiError::unauthorized`. -/
  | unauthorized
  /-- `ApiError::invalid_pairing_request`. -/
  | invalidPairingRequest
  /-- `ApiError::internal`. -/
  | internal
  /-- A handler is entered; what it answers is its own. -/
  | entered (handler : Handler)
  /-- `PairingResponse`. -/
  | pairing (code : String) (expiresAt : UtcInstant)
  /-- `PairingCompleteResponse`. -/
  | paired (clientId token : String)
  deriving DecidableEq

/-- A route answers by the handler of a method, if it has one. -/
def Reply.of : Option Handler → Reply
  | some handler => .entered handler
  | none => .methodNotAllowed

/-- What becomes of a request before anything is read from the database. -/
inductive Received
  | answered (reply : Reply)
  | guarded (handler : Option Handler) (token : String)
  | complete (completion : CompletePairingRequest) (token : String)
  | create (code : String) (now : UtcInstant)

/-- `hearthdeck_…`, what a client is given to come back with. -/
def mintToken (uuid : String) : String :=
  "hearthdeck_" ++ uuid

/-- The token of a request. -/
def HttpRequest.bearer (request : HttpRequest) : Option String :=
  request.authorization.bind (Frontend.stripped "Bearer ")

/-- The name of a client is refused (`complete_pairing`). -/
def refusesName (name : String) : Bool :=
  Frontend.trimmed name == "" || decide (name.length > 128)

/-- The routes, the middleware, and what the handlers do first. -/
def Visit.receive (visit : Visit) (draw : Draw) : Received :=
  let request := visit.request
  match visit.listener.routes.find? fun route =>
      covers route.template request.path with
  | none => .answered .notFound
  | some route =>
      let handler := route.handler request.verb
      if route.guarded then
        match request.bearer with
        | none => .answered .unauthorized
        | some token => .guarded handler token
      else
        match handler with
        | some .completePairing =>
            match request.completion with
            | none => .answered .unprocessable
            | some completion =>
                if refusesName completion.clientName then
                  .answered .invalidPairingRequest
                else
                  .complete completion (mintToken draw.uuid)
        | some .createPairing => .create draw.code draw.now
        | handler => .answered (.of handler)

/-- The requests under way. -/
inductive DoorTask
  /-- `authenticate`, before its statement. -/
  | authenticate (visit : Visit) (handler : Option Handler) (token : String)
  /-- `complete_pairing`, in `consume_pairing_code`. -/
  | completing
      (visit : Visit)
      (completion : CompletePairingRequest)
      (token : String)
      (task : AuthTask)
  /-- `create_pairing`, in `create_pairing_code`. -/
  | creating (visit : Visit) (code : String) (task : AuthTask)

/-- The database of the pairing, and what every request came to. -/
structure Door where
  auth : Auth
  replies : List (Visit × Reply) := []

namespace Door

/-- A request is answered. -/
def answer (door : Door) (visit : Visit) (reply : Reply) : Door :=
  { door with replies := door.replies ++ [(visit, reply)] }

section Hashing

/- `hash_secret`. -/
variable (hash : String → String)

/-- What `complete_pairing` asks of the database. -/
def redemption
    (completion : CompletePairingRequest)
    (token : String) : Redemption where
  codeHash := hash completion.code
  clientName := completion.clientName
  tokenHash := hash token

/-- A request comes in. -/
def enter (door : Door) (call : Visit × Draw) : Door × List DoorTask :=
  match call.1.receive call.2 with
  | .answered reply => (door.answer call.1 reply, [])
  | .guarded handler token => (door, [.authenticate call.1 handler token])
  | .complete completion token =>
      let entered := door.auth.enter
        (.consumePairingCode (redemption hash completion token))
      ({ door with auth := entered.1 },
        entered.2.map (.completing call.1 completion token))
  | .create code now =>
      let entered := door.auth.enter (.createPairingCode (hash code) now)
      ({ door with auth := entered.1 },
        entered.2.map (.creating call.1 code))

/-- A client has the hash of the token (`AuthRepository::authenticate`). -/
def knows (auth : Auth) (token : String) : Bool :=
  auth.stored.clients.entries.any fun entry =>
    entry.2.tokenHash == hash token

/-- `require_authentication`, from its statement on. -/
def authenticate
    (door : Door)
    (visit : Visit)
    (handler : Option Handler)
    (token : String)
    (answer : AuthAnswer) : Door :=
  if answer.fault then door.answer visit .internal
  else if knows hash door.auth token then door.answer visit (.of handler)
  else door.answer visit .unauthorized

end Hashing

/-- What `complete_pairing` makes of what `consume_pairing_code` returned. -/
def completed (token : String) : Returned → Option Reply
  | .consumed (.error _) => some .internal
  | .consumed (.ok none) => some .unauthorized
  | .consumed (.ok (some id)) => some (.paired id token)
  | .created _ => none

/-- What `create_pairing` makes of what `create_pairing_code` returned. -/
def createdReply (code : String) : Returned → Option Reply
  | .created none => some .internal
  | .created (some expiresAt) => some (.pairing code expiresAt)
  | .consumed _ => none

/-- The database went on, and may have returned something for a request. -/
def proceed
    (door : Door)
    (visit : Visit)
    (auth : Auth)
    (reply : Returned → Option Reply) : Door :=
  match auth.returned.bind reply with
  | none => { door with auth := auth }
  | some reply => { door with auth := auth }.answer visit reply

section Reading

variable
  (hash : String → String)
  (parse : String → Option UtcInstant)

/-- The next statement of a request. -/
def perform
    (door : Door)
    (task : DoorTask)
    (answer : AuthAnswer) : Door × List DoorTask :=
  match task with
  | .authenticate visit handler token =>
      (door.authenticate hash visit handler token answer, [])
  | .completing visit completion token task =>
      let performed := door.auth.perform parse task answer
      (door.proceed visit performed.1 (completed token),
        performed.2.map (.completing visit completion token))
  | .creating visit code task =>
      let performed := door.auth.perform parse task answer
      (door.proceed visit performed.1 (createdReply code),
        performed.2.map (.creating visit code))

/-- The front door as a program of requests. -/
def program : Program Door DoorTask (Visit × Draw) AuthAnswer where
  enter := enter hash
  perform := perform hash parse

end Reading

/-- Nobody has called and nobody is paired. -/
def start (clock : UtcInstant) : Door where
  auth := Auth.start clock

/-- The front door over its runs. -/
def machine
    (hash : String → String)
    (parse : String → Option UtcInstant)
    (clock : UtcInstant) :
    Machine (Pool Door DoorTask) (Move (Visit × Draw) AuthAnswer) Unit :=
  (program hash parse).machine (start clock)

end Door
end Daemon
end Hearthdeck
