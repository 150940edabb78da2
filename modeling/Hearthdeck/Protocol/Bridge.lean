import Hearthdeck.Protocol.Input

/-!
# The bridge protocol

Requests the daemon makes to the bridge and the responses it reads back, and
the two payloads the daemon keeps of a launch: the session the bridge accepted
and the catalog item that was played.  A response the daemon never looks into
has no payload here.
-/

namespace Hearthdeck
namespace Protocol

/-- Whether a Stremio title is a film or a series (`StremioMediaType`). -/
inductive StremioMediaType
  | movie
  | series
  deriving DecidableEq, Repr

/-- The Heroic runners a launch can be delegated to (`HeroicRunner`). -/
inductive HeroicRunner
  | legendary
  | gog
  deriving DecidableEq, Repr

/-- What the daemon asks of the bridge (`BridgeRequest`). -/
inductive BridgeRequest
  | health
  | discoverApplications (sourceId : String)
  | launchApplication
      (sourceId applicationId sessionId : String)
      (inputProfile : InputProfile)
  | launchStremioTitle
      (applicationId videoId : String)
      (mediaType : StremioMediaType)
      (sessionId : String)
      (inputProfile : InputProfile)
  | launchHeroicGame
      (runner : HeroicRunner)
      (applicationId sessionId : String)
      (inputProfile : InputProfile)
  | launchRetroGame
      (corePath romPath sessionId : String)
      (inputProfile : InputProfile)
  | installRetroCores (packages : List String)
  | activeApplicationSession
  | stopActiveApplicationSession
  | stopApplicationSession (sessionId : String)
  deriving DecidableEq, Repr

/-- The states a session is reported in (`ApplicationSessionState`). -/
inductive ApplicationSessionState
  | running
  deriving DecidableEq, Repr

/-- A session the bridge started (`ApplicationSession`). -/
structure ApplicationSession where
  id : String
  sourceId : String
  applicationId : String
  state : ApplicationSessionState
  deriving DecidableEq, Repr

/-- Why the bridge refuses a request (`BridgeErrorCode`). -/
inductive BridgeErrorCode
  | invalidRequest
  | notFound
  | launchFailed
  | internal
  deriving DecidableEq, Repr

/-- What the bridge answers (`BridgeResponse`). -/
inductive BridgeResponse
  | health (version : String)
  | applications
  | launchAccepted (session : ApplicationSession)
  | applicationSession (session : Option ApplicationSession)
  | stopAccepted (sessionId : String)
  | retroCoresInstalled
  | error (code : BridgeErrorCode) (message : String)
  deriving DecidableEq, Repr

/-- The catalog item of a play, as the launch found it (`ActivityEntry`); the
metadata is kept as its JSON text. -/
structure ActivityEntry where
  id : String
  title : String
  icon : Option String
  categories : List String
  kind : Option String
  source : String
  metadata : String
  deriving DecidableEq, Repr

end Protocol
end Hearthdeck
