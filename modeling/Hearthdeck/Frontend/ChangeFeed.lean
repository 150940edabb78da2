import Hearthdeck.Daemon.Serving
import Hearthdeck.Foundation.Broadcast
import Hearthdeck.Foundation.Machine
import Hearthdeck.Frontend.App
import Hearthdeck.Protocol.Bridge

/-!
# The change feed

The daemon broadcasts an event for what changed.  A feed of a shell is a
connection to the daemon: the shell asks for it, the daemon answers and then
subscribes to the broadcast, and what it reads from there is written to the
connection, which may break at any time at either end.  The shell asks again
after a pause, and hands the app a notice when the feed is back.

Events reach the app in order and at most once.  One that is broadcast while
the feed of the app is up, or down after it was up, is not lost without a
notice, unless the daemon falls too far behind.  Between its answer and its
subscription the daemon hears nothing, and for the first feed nothing before
it either.

Only the latest connection is seen: what the daemon still does for one that the
shell has given up reaches nobody.  Writing and reading JSON is the work of a
library, and what was written reads back.
-/

namespace Hearthdeck
namespace Frontend
namespace ChangeFeed

open Foundation
open Daemon (Json)
open Protocol (ApplicationSession)

/-! ## Events and their text -/

/-- `ServerEvent`. -/
inductive ServerEvent
  | libraryChanged (sourceId : String) (recordCount : Nat)
  | metadataChanged (providerId : String) (recordCount : Nat)
  | applicationSessionChanged (session : Option ApplicationSession)
  | categorizationChanged
      (categorizer : String) (appCount categories : Nat)
  deriving DecidableEq

/-- An application session as it is written. -/
def sessionJson (session : ApplicationSession) : Json :=
  .object
    [ ("id", .string session.id),
      ("source_id", .string session.sourceId),
      ("application_id", .string session.applicationId),
      ("state", .string "running") ]

/-- An event as it is written. -/
def ServerEvent.json : ServerEvent → Json
  | .libraryChanged sourceId recordCount =>
      .object
        [ ("type", .string "library_changed"),
          ("source_id", .string sourceId),
          ("record_count", .number (toString recordCount)) ]
  | .metadataChanged providerId recordCount =>
      .object
        [ ("type", .string "metadata_changed"),
          ("provider_id", .string providerId),
          ("record_count", .number (toString recordCount)) ]
  | .applicationSessionChanged session =>
      .object
        [ ("type", .string "application_session_changed"),
          ("session", (session.map sessionJson).getD .null) ]
  | .categorizationChanged categorizer appCount categories =>
      .object
        [ ("type", .string "categorization_changed"),
          ("categorizer", .string categorizer),
          ("app_count", .number (toString appCount)),
          ("categories", .number (toString categories)) ]

/-- `ServerEventKind`, as it is read. -/
def readKind (json : Json) : Option DaemonEvent :=
  ((json.get "type").bind Json.asStr).map fun tag =>
    match tag with
    | "library_changed" => .libraryChanged
    | "metadata_changed" => .metadataChanged
    | "application_session_changed" => .applicationSessionChanged
    | "categorization_changed" => .categorizationChanged
    | _ => .unknown

/-- What kind of event an event is. -/
def ServerEvent.kind : ServerEvent → DaemonEvent
  | .libraryChanged _ _ => .libraryChanged
  | .metadataChanged _ _ => .metadataChanged
  | .applicationSessionChanged _ => .applicationSessionChanged
  | .categorizationChanged _ _ _ => .categorizationChanged

theorem readKind_json (event : ServerEvent) :
    readKind event.json = some event.kind := by
  cases event <;> rfl

/-! ## Both ends -/

/-- What is on its way to the shell. -/
inductive Frame
  /-- A text, by what it reads as. -/
  | text (json : Option Json)
  | close
  | other

/-- Where `event_socket` stands. -/
inductive Server
  /-- The upgrade is answered, and `subscribe` has not run. -/
  | upgrading
  | receiving (next : Nat)
  | sending (next : Nat) (event : ServerEvent)
  | gone

/-- A connection of the feed. -/
structure Link where
  server : Server
  wire : List Frame

/-- Where the loop of `daemon_events` stands. -/
inductive Client
  | connecting
  /-- Connected, with `Resumed` still to be sent where it is due. -/
  | connected
  | reading
  | sleeping
  /-- The app takes no more events. -/
  | ended
  deriving DecidableEq

/-- The broadcast, the feed, and what the app was handed. -/
structure Feed where
  log : List ServerEvent
  client : Client
  connectedBefore : Bool
  /-- The next pause, in seconds. -/
  retry : Nat
  link : Option Link
  told : List FeedEvent

/-- `FIRST_RETRY`. -/
def firstRetry : Nat := 1

/-- `LAST_RETRY`. -/
def lastRetry : Nat := 60

/-- The capacity of the broadcast channel. -/
def eventCapacity : Nat := 64

/-- What can happen. -/
inductive Move
  /-- An event is broadcast. -/
  | announce (event : ServerEvent)
  /-- The daemon answers the upgrade. -/
  | upgrade
  /-- The daemon subscribes. -/
  | subscribe
  /-- `events.recv`. -/
  | receive
  /-- `socket.send`, which may fail. -/
  | send (succeeds : Bool)
  /-- A frame that is no text is written. -/
  | write (frame : Frame)
  /-- The end of the daemon is gone. -/
  | hangUp
  /-- `connect_events` returns. -/
  | opened
  | failed
  /-- `Resumed` is sent where it is due; the app may take no more. -/
  | resume (taken : Bool)
  /-- The next frame is read, and handed to the app where it is an event. -/
  | read (taken : Bool)
  /-- The connection breaks at the end of the shell. -/
  | broken
  /-- The pause is over. -/
  | wake

namespace Feed

/-- Before the first connection. -/
def start (log : List ServerEvent) : Feed where
  log := log
  client := .connecting
  connectedBefore := false
  retry := firstRetry
  link := none
  told := []

/-- The daemon goes on. -/
def serve (feed : Feed) (link : Link) : Feed :=
  { feed with link := some link }

/-- The shell gives a connection up and pauses. -/
def giveUp (feed : Feed) : Feed :=
  { feed with
    client := .sleeping
    link := none }

/-- The app is handed an event, or takes no more. -/
def tell (feed : Feed) (event : FeedEvent) (taken : Bool) : Feed :=
  if taken then
    { feed with told := feed.told ++ [event] }
  else
    { feed with client := .ended }

/-- The next section of `event_socket` that reads the broadcast. -/
def receive (feed : Feed) (link : Link) (next : Nat) : Feed :=
  match Foundation.receive eventCapacity feed.log next with
  | .message event later =>
      feed.serve { link with server := .sending later event }
  | .lagged later => feed.serve { link with server := .receiving later }
  | .nothing => feed

/-- The shell reads a frame. -/
def hear (feed : Feed) (frame : Frame) (taken : Bool) : Feed :=
  match frame with
  | .text json =>
      match json.bind readKind with
      | some kind => feed.tell (.changed kind) taken
      | none => feed
  | .close => feed.giveUp
  | .other => feed

/-- One step.  What cannot happen now changes nothing. -/
def step (feed : Feed) (move : Move) : Feed :=
  match move, feed.client, feed.link with
  | .announce event, _, _ => { feed with log := feed.log ++ [event] }
  | .upgrade, .connecting, none =>
      feed.serve { server := .upgrading, wire := [] }
  | .subscribe, _, some ⟨.upgrading, wire⟩ =>
      feed.serve { server := .receiving feed.log.length, wire := wire }
  | .receive, _, some ⟨.receiving next, wire⟩ =>
      feed.receive { server := .receiving next, wire := wire } next
  | .send true, _, some ⟨.sending next event, wire⟩ =>
      feed.serve
        { server := .receiving next
          wire := wire ++ [.text (some event.json)] }
  | .send false, _, some ⟨.sending _ _, wire⟩ =>
      feed.serve { server := .gone, wire := wire }
  | .write .close, _, some ⟨server, wire⟩ =>
      feed.serve { server := server, wire := wire ++ [.close] }
  | .write .other, _, some ⟨server, wire⟩ =>
      feed.serve { server := server, wire := wire ++ [.other] }
  | .hangUp, _, some ⟨_, wire⟩ =>
      feed.serve { server := .gone, wire := wire }
  | .opened, .connecting, some _ =>
      { feed with
        client := .connected
        retry := firstRetry }
  | .failed, .connecting, _ => feed.giveUp
  | .resume taken, .connected, _ =>
      let greeted := { feed with
        client := .reading
        connectedBefore := true }
      if feed.connectedBefore then greeted.tell .resumed taken else greeted
  | .read taken, .reading, some ⟨server, frame :: wire⟩ =>
      (feed.serve { server := server, wire := wire }).hear frame taken
  | .broken, .reading, _ => feed.giveUp
  | .wake, .sleeping, _ =>
      { feed with
        client := .connecting
        retry := min (2 * feed.retry) lastRetry }
  | _, _, _ => feed

/-- The feed over its runs. -/
def machine (log : List ServerEvent) : Machine Feed Move Unit where
  start := start log
  step := fun feed move => (feed.step move, [])

end Feed

/-! ## What a step does -/

/-- What a step is: of the broadcast, of the daemon, of the shell, or none. -/
inductive Happens (feed : Feed) : Move → Feed → Prop
  | announce (event : ServerEvent) :
      Happens feed (.announce event)
        { feed with log := feed.log ++ [event] }
  | upgrade
      (connecting : feed.client = .connecting) :
      Happens feed .upgrade
        (feed.serve { server := .upgrading, wire := [] })
  | subscribe
      (wire : List Frame)
      (upgrading : feed.link = some ⟨.upgrading, wire⟩) :
      Happens feed .subscribe
        (feed.serve { server := .receiving feed.log.length, wire := wire })
  | receive
      (next : Nat)
      (wire : List Frame)
      (receiving : feed.link = some ⟨.receiving next, wire⟩) :
      Happens feed .receive
        (feed.receive { server := .receiving next, wire := wire } next)
  | sent
      (next : Nat)
      (event : ServerEvent)
      (wire : List Frame)
      (sending : feed.link = some ⟨.sending next event, wire⟩) :
      Happens feed (.send true)
        (feed.serve
          { server := .receiving next
            wire := wire ++ [.text (some event.json)] })
  | notSent
      (next : Nat)
      (event : ServerEvent)
      (wire : List Frame)
      (sending : feed.link = some ⟨.sending next event, wire⟩) :
      Happens feed (.send false)
        (feed.serve { server := .gone, wire := wire })
  | write
      (server : Server)
      (wire : List Frame)
      (frame : Frame)
      (noText : frame = .close ∨ frame = .other)
      (linked : feed.link = some ⟨server, wire⟩) :
      Happens feed (.write frame)
        (feed.serve { server := server, wire := wire ++ [frame] })
  | hangUp
      (server : Server)
      (wire : List Frame)
      (linked : feed.link = some ⟨server, wire⟩) :
      Happens feed .hangUp
        (feed.serve { server := .gone, wire := wire })
  | opened
      (connecting : feed.client = .connecting)
      (link : Link)
      (linked : feed.link = some link) :
      Happens feed .opened
        { feed with
          client := .connected
          retry := firstRetry }
  | failed
      (connecting : feed.client = .connecting) :
      Happens feed .failed feed.giveUp
  | greeted
      (taken : Bool)
      (connected : feed.client = .connected)
      (again : feed.connectedBefore = true) :
      Happens feed (.resume taken)
        (Feed.tell
          { feed with
            client := .reading
            connectedBefore := true } .resumed taken)
  | first
      (taken : Bool)
      (connected : feed.client = .connected)
      (before : feed.connectedBefore = false) :
      Happens feed (.resume taken)
        { feed with
          client := .reading
          connectedBefore := true }
  | read
      (taken : Bool)
      (server : Server)
      (frame : Frame)
      (wire : List Frame)
      (reading : feed.client = .reading)
      (linked : feed.link = some ⟨server, frame :: wire⟩) :
      Happens feed (.read taken)
        ((feed.serve { server := server, wire := wire }).hear frame
          taken)
  | broken
      (reading : feed.client = .reading) :
      Happens feed .broken feed.giveUp
  | wake
      (sleeping : feed.client = .sleeping) :
      Happens feed .wake
        { feed with
          client := .connecting
          retry := min (2 * feed.retry) lastRetry }
  | idle (move : Move) : Happens feed move feed

theorem happens_step
    (feed : Feed)
    (move : Move) :
    Happens feed move (feed.step move) := by
  unfold Feed.step
  split
  case h_1 event => exact .announce event
  case h_2 connecting none => exact .upgrade connecting
  case h_3 wire linked => exact .subscribe wire linked
  case h_4 next wire linked => exact .receive next wire linked
  case h_5 next event wire linked => exact .sent next event wire linked
  case h_6 next event wire linked => exact .notSent next event wire linked
  case h_7 server wire linked =>
      exact .write server wire .close (.inl rfl) linked
  case h_8 server wire linked =>
      exact .write server wire .other (.inr rfl) linked
  case h_9 server wire linked => exact .hangUp server wire linked
  case h_10 link connecting linked => exact .opened connecting link linked
  case h_11 connecting => exact .failed connecting
  case h_12 taken connected =>
      dsimp only
      split
      case isTrue again => exact .greeted taken connected again
      case isFalse before =>
          exact .first taken connected (Bool.eq_false_iff.mpr before)
  case h_13 taken server frame wire reading linked =>
      exact .read taken server frame wire reading linked
  case h_14 reading => exact .broken reading
  case h_15 sleeping => exact .wake sleeping
  case h_16 => exact .idle _

/-! ## In order and at most once -/

/-- The kind of change a feed event tells of. -/
def changeOf : FeedEvent → Option DaemonEvent
  | .changed event => some event
  | .resumed => none

/-- The kind of change a frame tells of. -/
def frameChange : Frame → Option DaemonEvent
  | .text json => json.bind readKind
  | _ => none

/-- The kinds of what was broadcast. -/
def kinds (log : List ServerEvent) : List DaemonEvent :=
  log.map ServerEvent.kind

/-- What was read of the broadcast is in order a part of it, up to where the
daemon stands. -/
def PartOf (log : List ServerEvent) (read : List DaemonEvent) :
    Server → Prop
  | .upgrading => read.Sublist (kinds log)
  | .receiving next => read.Sublist ((kinds log).take next)
  | .sending next event =>
      (read ++ [event.kind]).Sublist ((kinds log).take next)
  | .gone => read.Sublist (kinds log)

/-- What the app was told, and after it what is on its way, is in order a part
of the broadcast. -/
structure Ordered (feed : Feed) : Prop where
  told : (feed.told.filterMap changeOf).Sublist (kinds feed.log)
  linked : ∀ link ∈ feed.link,
    PartOf feed.log
      (feed.told.filterMap changeOf ++ link.wire.filterMap frameChange)
      link.server

theorem frameChange_text (event : ServerEvent) :
    frameChange (.text (some event.json)) = some event.kind :=
  readKind_json event

theorem PartOf.sublist
    {log : List ServerEvent}
    {read : List DaemonEvent}
    {server : Server}
    (partOf : PartOf log read server) :
    read.Sublist (kinds log) := by
  cases server with
  | upgrading => exact partOf
  | receiving next => exact partOf.trans (List.take_sublist _ _)
  | sending next event =>
      exact (List.sublist_append_left _ _).trans
        (partOf.trans (List.take_sublist _ _))
  | gone => exact partOf

theorem PartOf.of_sublist
    {log : List ServerEvent}
    {read fewer : List DaemonEvent}
    {server : Server}
    (partOf : PartOf log read server)
    (sublist : fewer.Sublist read) :
    PartOf log fewer server := by
  cases server with
  | upgrading => exact sublist.trans partOf
  | receiving next => exact sublist.trans partOf
  | sending next event =>
      exact (sublist.append (List.Sublist.refl _)).trans partOf
  | gone => exact sublist.trans partOf

theorem PartOf.announce
    {log : List ServerEvent}
    {read : List DaemonEvent}
    {server : Server}
    (partOf : PartOf log read server)
    (event : ServerEvent) :
    PartOf (log ++ [event]) read server := by
  have same : kinds (log ++ [event]) = kinds log ++ [event.kind] := by
    unfold kinds
    rw [List.map_append, List.map_singleton]
  cases server with
  | upgrading =>
      unfold PartOf
      rw [same]
      exact partOf.trans (List.sublist_append_left _ _)
  | receiving next =>
      unfold PartOf
      rw [same]
      exact sublist_send partOf event.kind
  | sending next other =>
      unfold PartOf
      rw [same]
      exact sublist_send partOf event.kind
  | gone =>
      unfold PartOf
      rw [same]
      exact partOf.trans (List.sublist_append_left _ _)

section Orders

variable {feed : Feed}

theorem Ordered.serve
    (ordered : Ordered feed)
    {link : Link}
    (partOf : PartOf feed.log
      (feed.told.filterMap changeOf ++ link.wire.filterMap frameChange)
      link.server) :
    Ordered (feed.serve link) where
  told := ordered.told
  linked := by
    rintro other ⟨⟩
    exact partOf

theorem Ordered.giveUp (ordered : Ordered feed) :
    Ordered feed.giveUp where
  told := ordered.told
  linked := nofun

theorem Ordered.receive
    (ordered : Ordered feed)
    {next : Nat}
    {wire : List Frame}
    (linked : feed.link = some ⟨.receiving next, wire⟩) :
    Ordered (feed.receive ⟨.receiving next, wire⟩ next) := by
  have partOf := ordered.linked _ linked
  unfold Feed.receive
  split
  case h_1 event later received =>
      obtain ⟨found, rfl⟩ := receive_eq_message received
      have kind : (kinds feed.log)[next]? = some event.kind := by
        unfold kinds
        rw [List.getElem?_map, found, Option.map_some]
      exact ordered.serve (sublist_receive partOf kind)
  case h_2 later received =>
      obtain ⟨behind, rfl⟩ := receive_eq_lagged received
      refine ordered.serve (partOf.trans ?_)
      exact List.take_sublist_take_left (by omega)
  case h_3 nothing => exact ordered

/-- A resumption is no change. -/
theorem Ordered.tell_resumed
    (ordered : Ordered feed)
    (taken : Bool) :
    Ordered (feed.tell .resumed taken) := by
  unfold Feed.tell
  cases taken with
  | true =>
      have same : (feed.told ++ [FeedEvent.resumed]).filterMap changeOf =
          feed.told.filterMap changeOf := by
        simp [changeOf]
      exact ⟨same ▸ ordered.told, same ▸ ordered.linked⟩
  | false => exact ⟨ordered.told, ordered.linked⟩

/-- What is read is told behind what was. -/
theorem Ordered.hear
    (ordered : Ordered feed)
    {server : Server}
    {frame : Frame}
    {wire : List Frame}
    (linked : feed.link = some ⟨server, frame :: wire⟩)
    (taken : Bool) :
    Ordered
      ((feed.serve { server := server, wire := wire }).hear frame
        taken) := by
  have partOf := ordered.linked _ linked
  cases tells : frameChange frame with
  | none =>
      dsimp only at partOf
      rw [List.filterMap_cons_none tells] at partOf
      have served : Ordered (feed.serve ⟨server, wire⟩) :=
        ordered.serve partOf
      cases frame with
      | close => exact served.giveUp
      | other => exact served
      | text text =>
          unfold Feed.hear
          change text.bind readKind = none at tells
          dsimp only
          rw [tells]
          exact served
  | some kind =>
      dsimp only at partOf
      rw [List.filterMap_cons_some tells] at partOf
      cases frame with
      | close => cases tells
      | other => cases tells
      | text text =>
          unfold Feed.hear
          change text.bind readKind = some kind at tells
          dsimp only
          rw [tells]
          unfold Feed.tell
          cases taken with
          | true =>
              have told : (feed.told ++ [FeedEvent.changed kind]).filterMap
                  changeOf = feed.told.filterMap changeOf ++ [kind] := by
                rw [List.filterMap_append]
                rfl
              have read : (feed.told ++ [FeedEvent.changed kind]).filterMap
                  changeOf ++ wire.filterMap frameChange =
                    feed.told.filterMap changeOf ++
                      kind :: wire.filterMap frameChange := by
                rw [told, List.append_assoc, List.singleton_append]
              have after : PartOf feed.log
                  ((feed.told ++ [FeedEvent.changed kind]).filterMap
                    changeOf ++ wire.filterMap frameChange)
                  server := read ▸ partOf
              refine ⟨(List.sublist_append_left _ _).trans after.sublist, ?_⟩
              rintro other ⟨⟩
              exact after
          | false =>
              have served : Ordered (feed.serve ⟨server, wire⟩) :=
                ordered.serve (partOf.of_sublist
                  ((List.Sublist.refl _).append
                    (List.sublist_cons_self _ _)))
              exact ⟨served.told, served.linked⟩

/-- Every step keeps the order. -/
theorem Ordered.step
    (ordered : Ordered feed)
    {move : Move}
    {next : Feed}
    (happens : Happens feed move next) :
    Ordered next := by
  cases happens with
  | announce event =>
      refine ⟨?_, fun link member => (ordered.linked link member).announce
        event⟩
      have longer := List.sublist_append_left (kinds feed.log) [event.kind]
      unfold kinds at longer ⊢
      rw [List.map_append]
      exact ordered.told.trans longer
  | upgrade connecting =>
      refine ordered.serve ?_
      rw [List.filterMap_nil, List.append_nil]
      exact ordered.told
  | subscribe wire linked =>
      refine ordered.serve ?_
      have partOf := ordered.linked _ linked
      have all : (kinds feed.log).take feed.log.length = kinds feed.log :=
        List.take_of_length_le (by rw [kinds, List.length_map])
      change List.Sublist _ _
      rw [all]
      exact partOf
  | receive place wire linked => exact ordered.receive linked
  | sent place event wire linked =>
      refine ordered.serve ?_
      have partOf := ordered.linked _ linked
      rw [List.filterMap_append, List.filterMap_cons_some
        (frameChange_text event), ← List.append_assoc]
      exact partOf
  | notSent place event wire linked =>
      exact ordered.serve (ordered.linked _ linked).sublist
  | write server wire frame noText linked =>
      refine ordered.serve ?_
      have silent : frameChange frame = none := by
        rcases noText with rfl | rfl <;> rfl
      rw [List.filterMap_append, List.filterMap_cons_none silent,
        List.filterMap_nil, List.append_nil]
      exact ordered.linked _ linked
  | hangUp server wire linked =>
      exact ordered.serve (ordered.linked _ linked).sublist
  | opened connecting link linked => exact ⟨ordered.told, ordered.linked⟩
  | failed connecting => exact ordered.giveUp
  | greeted taken connected again =>
      have greeted : Ordered
          { feed with
            client := .reading
            connectedBefore := true } := ⟨ordered.told, ordered.linked⟩
      exact greeted.tell_resumed taken
  | first taken connected before => exact ⟨ordered.told, ordered.linked⟩
  | read taken server frame wire reading linked =>
      exact ordered.hear linked taken
  | broken reading => exact ordered.giveUp
  | wake sleeping => exact ⟨ordered.told, ordered.linked⟩
  | idle => exact ordered

end Orders

/-! ## Where the daemon stands -/

/-- The place of the next message. -/
def Server.next : Server → Nat
  | .receiving next => next
  | .sending next _ => next
  | _ => 0

/-- A shell that is connected has a connection, and the daemon stands nowhere
behind the last event. -/
structure Standing (feed : Feed) : Prop where
  held : feed.client = .connected ∨ feed.client = .reading →
    ∃ link, feed.link = some link
  place : ∀ link ∈ feed.link, link.server.next ≤ feed.log.length

section Stands

variable {feed : Feed}

/-- A shell that is not connected holds nothing. -/
theorem Standing.of_away
    (notConnected : feed.client ≠ .connected)
    (notReading : feed.client ≠ .reading)
    (place : ∀ link ∈ feed.link, link.server.next ≤ feed.log.length) :
    Standing feed where
  held
    | .inl connected => absurd connected notConnected
    | .inr reading => absurd reading notReading
  place := place

theorem standing_serve
    {link : Link}
    (place : link.server.next ≤ feed.log.length) :
    Standing (feed.serve link) where
  held _ := ⟨link, rfl⟩
  place := by
    rintro other ⟨⟩
    exact place

theorem standing_giveUp (feed : Feed) : Standing feed.giveUp :=
  .of_away nofun nofun nofun

theorem Standing.tell
    (standing : Standing feed)
    (notice : FeedEvent)
    (taken : Bool) :
    Standing (feed.tell notice taken) := by
  unfold Feed.tell
  cases taken with
  | true => exact ⟨standing.held, standing.place⟩
  | false => exact .of_away nofun nofun standing.place

theorem Standing.step
    (standing : Standing feed)
    {move : Move}
    {next : Feed}
    (happens : Happens feed move next) :
    Standing next := by
  cases happens with
  | announce event =>
      refine ⟨standing.held, fun link member => ?_⟩
      rw [List.length_append]
      exact (standing.place link member).trans (Nat.le_add_right _ _)
  | upgrade connecting => exact standing_serve (Nat.zero_le _)
  | subscribe wire linked => exact standing_serve (Nat.le_refl _)
  | receive place wire linked =>
      unfold Feed.receive
      split
      case h_1 event later received =>
          obtain ⟨found, rfl⟩ := receive_eq_message received
          exact standing_serve (List.getElem?_eq_some_iff.mp found).1
      case h_2 later received =>
          obtain ⟨_, rfl⟩ := receive_eq_lagged received
          exact standing_serve (Nat.sub_le _ _)
      case h_3 => exact standing
  | sent place event wire linked =>
      have place := standing.place _ linked
      exact standing_serve place
  | notSent place event wire linked => exact standing_serve (Nat.zero_le _)
  | write server wire frame noText linked =>
      have place := standing.place _ linked
      exact standing_serve place
  | hangUp server wire linked => exact standing_serve (Nat.zero_le _)
  | opened connecting link linked =>
      exact ⟨fun _ => ⟨link, linked⟩, standing.place⟩
  | failed connecting => exact standing_giveUp feed
  | greeted taken connected again =>
      have greeted : Standing
          { feed with
            client := .reading
            connectedBefore := true } :=
        ⟨fun _ => standing.held (.inl connected), standing.place⟩
      exact greeted.tell .resumed taken
  | first taken connected before =>
      exact ⟨fun _ => standing.held (.inl connected), standing.place⟩
  | read taken server frame wire reading linked =>
      have place := standing.place _ linked
      have served : Standing
          (feed.serve { server := server, wire := wire }) :=
        standing_serve place
      unfold Feed.hear
      split
      case h_1 text =>
          split
          case h_1 kind read => exact served.tell (.changed kind) taken
          case h_2 => exact served
      case h_2 => exact standing_giveUp _
      case h_3 => exact served
  | broken reading => exact standing_giveUp feed
  | wake sleeping =>
      exact .of_away nofun nofun standing.place
  | idle => exact standing

end Stands

/-! ## Nothing is lost without a notice -/

/-- The daemon has answered, and the app has been told all that it is told
before the daemon subscribes. -/
def Exposed (feed : Feed) : Prop :=
  feed.client = .reading ∧ ∃ wire, feed.link = some ⟨.upgrading, wire⟩

/-- The daemon falls so far behind an event that it is not kept. -/
def Overrun (place : Nat) (feed : Feed) : Move → Prop
  | .receive => ∃ next wire, feed.link = some ⟨.receiving next, wire⟩ ∧
      next ≤ place ∧ place + eventCapacity < feed.log.length
  | _ => False

/-- The feed is up and everything has been read. -/
def Settled (feed : Feed) : Prop :=
  feed.client = .reading ∧
    feed.link = some ⟨.receiving feed.log.length, []⟩

/-- The app was told of an event, or that the feed was back.  Notices do not
say which event they are of: any later one of its kind tells of it. -/
def Told (event : ServerEvent) (count : Nat) (feed : Feed) : Prop :=
  ∃ later ∈ feed.told.drop count,
    later = .changed event.kind ∨ later = .resumed

/-- An event is on its way through a connection, or the connection is dead. -/
def Conveyed
    (event : ServerEvent)
    (place : Nat)
    (link : Link) : Prop :=
  .text (some event.json) ∈ link.wire ∨
    match link.server with
    | .upgrading => False
    | .receiving next => next ≤ place
    | .sending next other => other = event ∨ next ≤ place
    | .gone => True

/-- Where an event is while the app was not told: the feed will be back, or the
event is on its way. -/
def Owed
    (event : ServerEvent)
    (place : Nat)
    (feed : Feed) : Prop :=
  match feed.client with
  | .reading => ∃ link ∈ feed.link, Conveyed event place link
  | _ => True

/-- What holds of an event from its announcement on. -/
structure Safe
    (event : ServerEvent)
    (place count : Nat)
    (feed : Feed) : Prop where
  before : feed.connectedBefore = true
  placed : feed.log[place]? = some event
  counted : count ≤ feed.told.length
  owed : Told event count feed ∨ Owed event place feed

section Safety

variable
  {event : ServerEvent}
  {place count : Nat}
  {feed : Feed}

theorem Told.of_le
    {next : Feed}
    (told : Told event count feed)
    (more : feed.told <+: next.told) :
    Told event count next := by
  obtain ⟨later, member, tells⟩ := told
  obtain ⟨rest, longer⟩ := more
  refine ⟨later, ?_, tells⟩
  rw [← longer, List.drop_append]
  exact List.mem_append_left _ member

/-- A notice tells of what was announced before it. -/
theorem told_tell
    (counted : count ≤ feed.told.length)
    {notice : FeedEvent}
    (tells : notice = .changed event.kind ∨ notice = .resumed) :
    Told event count (feed.tell notice true) := by
  refine ⟨notice, ?_, tells⟩
  change notice ∈ (feed.told ++ [notice]).drop count
  rw [List.drop_append_of_le_length counted]
  exact List.mem_append_right _ (List.mem_singleton_self _)

theorem Owed.of_client
    {next : Feed}
    (away : next.client ≠ .reading) :
    Owed event place next := by
  unfold Owed
  split
  case h_1 reading => exact absurd reading away
  case h_2 => trivial

/-- Where the client is reading, the event is on its way. -/
theorem owed_iff
    {next : Feed} :
    Owed event place next ↔
      (next.client = .reading →
        ∃ link ∈ next.link, Conveyed event place link) := by
  unfold Owed
  split
  case h_1 reading => exact ⟨fun conveyed _ => conveyed, fun all => all reading⟩
  case h_2 away =>
      exact ⟨fun _ reading => absurd reading away, fun _ => trivial⟩

theorem Owed.serve
    {link next : Link}
    (owed : Owed event place feed)
    (linked : feed.link = some link)
    (goesOn : Conveyed event place link →
      Conveyed event place next) :
    Owed event place (feed.serve next) := by
  rw [owed_iff] at owed ⊢
  intro reading
  obtain ⟨other, member, conveyed⟩ := owed reading
  rw [linked] at member
  cases member
  exact ⟨next, rfl, goesOn conveyed⟩

/-- The daemon reads the broadcast: the event that it has not overrun is read,
or still to be read. -/
theorem Owed.receive
    (owed : Owed event place feed)
    (placed : feed.log[place]? = some event)
    {next : Nat}
    {wire : List Frame}
    (linked : feed.link = some ⟨.receiving next, wire⟩)
    (kept : next ≤ place → feed.log.length ≤ place + eventCapacity) :
    Owed event place (feed.receive ⟨.receiving next, wire⟩ next) := by
  unfold Feed.receive
  split
  case h_1 message later received =>
      refine owed.serve linked ?_
      rintro (written | ahead)
      · exact .inl written
      · rcases ahead_of_message ahead received with before | same
        · exact .inr (.inr before)
        · rw [placed] at same
          exact .inr (.inl (Option.some.inj same).symm)
  case h_2 later received =>
      refine owed.serve linked ?_
      rintro (written | ahead)
      · exact .inl written
      · exact .inr (ahead_of_lagged (kept ahead) received)
  case h_3 nothing => exact owed

/-- What the shell reads is the event, or something before it. -/
theorem Owed.hear
    (owed : Owed event place feed)
    (counted : count ≤ feed.told.length)
    {server : Server}
    {frame : Frame}
    {wire : List Frame}
    (linked : feed.link = some ⟨server, frame :: wire⟩)
    (reading : feed.client = .reading)
    (taken : Bool) :
    let next :=
      (feed.serve { server := server, wire := wire }).hear frame taken
    Told event count next ∨ Owed event place next := by
  intro next
  obtain ⟨link, member, conveyed⟩ := owed_iff.mp owed reading
  rw [linked] at member
  cases member
  by_cases same : frame = .text (some event.json)
  case pos =>
    have heard : next =
        (feed.serve { server := server, wire := wire }).tell
          (.changed event.kind) taken := by
      have tells := frameChange_text event
      change (some event.json).bind readKind = _ at tells
      unfold next Feed.hear
      rw [same]
      dsimp only
      rw [tells]
    rw [heard]
    cases taken with
    | true => exact .inl (told_tell counted (.inl rfl))
    | false => exact .inr (Owed.of_client nofun)
  case neg =>
    have behind : Conveyed event place ⟨server, wire⟩ := by
      rcases conveyed with written | ahead
      · exact .inl ((List.mem_cons.mp written).resolve_left
          (Ne.symm same))
      · exact .inr ahead
    have served : Owed event place
        (feed.serve { server := server, wire := wire }) :=
      owed_iff.mpr fun _ => ⟨_, rfl, behind⟩
    refine .inr ?_
    unfold next Feed.hear
    split
    case h_1 text =>
        split
        case h_1 kind read =>
            unfold Feed.tell
            cases taken with
            | true => exact served
            | false => exact Owed.of_client nofun
        case h_2 => exact served
    case h_2 => exact Owed.of_client nofun
    case h_3 => exact served

/-- The log and what the app was told only grow. -/
theorem happens_grows
    {move : Move}
    {next : Feed}
    (happens : Happens feed move next) :
    feed.log <+: next.log ∧ feed.told <+: next.told ∧
      (feed.connectedBefore = true → next.connectedBefore = true) := by
  have tell : ∀ (feed : Feed) (notice : FeedEvent) (taken : Bool),
      feed.log <+: (feed.tell notice taken).log ∧
        feed.told <+: (feed.tell notice taken).told ∧
          (feed.tell notice taken).connectedBefore =
            feed.connectedBefore := by
    intro feed notice taken
    unfold Feed.tell
    cases taken with
    | true => exact ⟨List.prefix_refl _, List.prefix_append _ _, rfl⟩
    | false => exact ⟨List.prefix_refl _, List.prefix_refl _, rfl⟩
  cases happens with
  | announce event =>
      exact ⟨List.prefix_append _ _, List.prefix_refl _, id⟩
  | receive place wire linked =>
      unfold Feed.receive
      split <;> exact ⟨List.prefix_refl _, List.prefix_refl _, id⟩
  | greeted taken connected again =>
      obtain ⟨log, told, before⟩ := tell
        { feed with
          client := .reading
          connectedBefore := true } .resumed taken
      exact ⟨log, told, fun _ => before⟩
  | first taken connected before =>
      exact ⟨List.prefix_refl _, List.prefix_refl _, fun _ => rfl⟩
  | read taken server frame wire reading linked =>
      unfold Feed.hear
      split
      case h_1 text =>
          split
          case h_1 kind read =>
              obtain ⟨log, told, before⟩ := tell
                (feed.serve { server := server, wire := wire })
                (.changed kind) taken
              exact ⟨log, told, fun was => before.trans was⟩
          case h_2 => exact ⟨List.prefix_refl _, List.prefix_refl _, id⟩
      case h_2 => exact ⟨List.prefix_refl _, List.prefix_refl _, id⟩
      case h_3 => exact ⟨List.prefix_refl _, List.prefix_refl _, id⟩
  | _ => exact ⟨List.prefix_refl _, List.prefix_refl _, id⟩

/-- A step tells the app of the event, or leaves it on its way. -/
theorem Safe.owed_step
    (safe : Safe event place count feed)
    (owed : Owed event place feed)
    {move : Move}
    {next : Feed}
    (happens : Happens feed move next)
    (inTime : ¬ Overrun place feed move) :
    Told event count next ∨ Owed event place next := by
  cases happens with
  | announce event => exact .inr owed
  | upgrade connecting =>
      exact .inr (Owed.of_client (connecting ▸ nofun))
  | subscribe wire linked =>
      refine .inr (owed.serve linked ?_)
      rintro (written | nothing)
      · exact .inl written
      · exact nothing.elim
  | receive place' wire linked =>
      refine .inr (owed.receive safe.placed linked fun ahead => ?_)
      by_contra far
      exact inTime ⟨place', wire, linked, ahead, Nat.lt_of_not_le far⟩
  | sent place' other wire linked =>
      refine .inr (owed.serve linked ?_)
      rintro (written | rfl | ahead)
      · exact .inl (List.mem_append_left _ written)
      · exact .inl (List.mem_append_right _ (List.mem_singleton_self _))
      · exact .inr ahead
  | notSent place' other wire linked =>
      exact .inr (owed.serve linked fun _ => .inr trivial)
  | write server wire frame noText linked =>
      refine .inr (owed.serve linked ?_)
      exact Or.imp_left (List.mem_append_left _)
  | hangUp server wire linked =>
      exact .inr (owed.serve linked fun _ => .inr trivial)
  | opened connecting link linked => exact .inr (Owed.of_client nofun)
  | failed connecting => exact .inr (Owed.of_client nofun)
  | greeted taken connected again =>
      cases taken with
      | true => exact .inl (told_tell safe.counted (.inr rfl))
      | false => exact .inr (Owed.of_client nofun)
  | first taken connected before =>
      exact absurd (safe.before.symm.trans before) nofun
  | read taken server frame wire reading linked =>
      exact owed.hear safe.counted linked reading taken
  | broken reading => exact .inr (Owed.of_client nofun)
  | wake sleeping => exact .inr (Owed.of_client nofun)
  | idle => exact .inr owed

theorem Safe.step
    (safe : Safe event place count feed)
    {move : Move}
    {next : Feed}
    (happens : Happens feed move next)
    (inTime : ¬ Overrun place feed move) :
    Safe event place count next := by
  obtain ⟨log, told, before⟩ := happens_grows happens
  refine ⟨before safe.before, ?_, safe.counted.trans told.length_le, ?_⟩
  · obtain ⟨rest, longer⟩ := log
    rw [← longer, List.getElem?_append_left
      (List.getElem?_eq_some_iff.mp safe.placed).1]
    exact safe.placed
  · rcases safe.owed with already | owed
    · exact .inl (already.of_le told)
    · exact safe.owed_step owed happens inTime

/-- In a settled feed nothing is on its way. -/
theorem Safe.told
    (safe : Safe event place count feed)
    (settled : Settled feed) :
    Told event count feed := by
  rcases safe.owed with told | owed
  · exact told
  · exfalso
    obtain ⟨link, member, conveyed⟩ := owed_iff.mp owed settled.1
    rw [settled.2] at member
    cases member
    rcases conveyed with written | behind
    · exact List.not_mem_nil written
    · have placed := safe.placed
      rw [List.getElem?_eq_none behind] at placed
      cases placed

end Safety

/-- An event is announced while the app is told of the feed's changes. -/
theorem safe_announce
      {feed : Feed}
    (standing : Standing feed)
    (before : feed.connectedBefore = true)
    (covered : ¬ Exposed feed)
    (event : ServerEvent) :
    Safe event feed.log.length feed.told.length
      { feed with log := feed.log ++ [event] } := by
  refine ⟨before, by simp, Nat.le_refl _, .inr (owed_iff.mpr ?_)⟩
  intro reading
  obtain ⟨link, linked⟩ := standing.held (.inr reading)
  have place := standing.place link linked
  refine ⟨link, linked, .inr ?_⟩
  cases server : link.server with
  | upgrading =>
      obtain ⟨stands, wire⟩ := link
      cases server
      exact covered ⟨reading, wire, linked⟩
  | receiving next =>
      rw [server] at place
      exact place
  | sending next other =>
      rw [server] at place
      exact .inr place
  | gone => trivial

/-- In every run the app is told of broadcast events in order, of none twice
and of no other. -/
theorem events_are_told_in_order
    (log : List ServerEvent)
    (moves : List Move) :
    let ended := (Feed.machine log).run moves
    (ended.told.filterMap changeOf).Sublist (kinds ended.log) := by
  have ordered := (Feed.machine log).run_induction (Ordered)
    ⟨List.nil_sublist _, nofun⟩
    (fun feed move ordered => ordered.step (happens_step feed move)) moves
  exact ordered.told

/-- The app is told in order.  Of an event that is broadcast after the feed has
been up, and not between the daemon's answer and its subscription, the app has
been told in the end, or that the feed was back, whatever became of the
connection: unless the daemon fell so far behind that the event was not
kept. -/
theorem announced_events_are_told
    (log : List ServerEvent)
    {before after : List Move}
    {event : ServerEvent}
    (up : ((Feed.machine log).run before).connectedBefore = true)
    (covered : ¬ Exposed ((Feed.machine log).run before))
    (inTime : ((Feed.machine log).startingIn
        ((Feed.machine log).run
          (before ++ [.announce event]))).Along
      (fun feed move => ¬ Overrun
        ((Feed.machine log).run before).log.length feed move) after) :
    let reached := (Feed.machine log).run before
    let ended := (Feed.machine log).run
      (before ++ .announce event :: after)
    (ended.told.filterMap changeOf).Sublist (kinds ended.log) ∧
      (Settled ended → Told event reached.told.length ended) := by
  intro reached ended
  have stands := (Feed.machine log).run_induction Standing
    (.of_away nofun nofun nofun)
    fun feed move standing => standing.step (happens_step feed move)
  refine ⟨events_are_told_in_order log _, fun settled => ?_⟩
  have announced : Safe event reached.log.length reached.told.length
      ((Feed.machine log).run (before ++ [.announce event])) := by
    rw [Machine.run_concat]
    exact safe_announce (stands before) up covered event
  have safe := Machine.run_induction_along _ _
    (Safe event reached.log.length reached.told.length) announced
    (fun feed move safe inTime =>
      safe.step (happens_step feed move) inTime) after inTime
  rw [← Machine.run_append, List.append_assoc, List.singleton_append] at safe
  exact safe.told settled

/-- The feed comes up for the first time. -/
def firstMoves : List Move :=
  [.upgrade, .subscribe, .opened, .resume true]

/-- The connection breaks, and the feed comes back. -/
def againMoves : List Move :=
  [.broken, .wake, .upgrade, .opened, .subscribe, .resume true]

theorem up_firstMoves :
    ((Feed.machine []).run firstMoves).connectedBefore = true := rfl

theorem covered_firstMoves :
    ¬ Exposed ((Feed.machine []).run firstMoves) := by
  rintro ⟨_, wire, ⟨⟩⟩

theorem inTime_againMoves (event : ServerEvent) (place : Nat) :
    ((Feed.machine []).startingIn
        ((Feed.machine []).run (firstMoves ++ [.announce event]))).Along
      (fun feed move => ¬ Overrun place feed move) againMoves :=
  Machine.along_of_alongFrom ⟨id, id, id, id, id, id, trivial⟩

/-- An event that goes down with its connection. -/
theorem announced_events_are_told_again :
    Told (.libraryChanged "heroic" 3) 0
      ((Feed.machine []).run
        (firstMoves ++ .announce (.libraryChanged "heroic" 3) ::
          againMoves)) :=
  (announced_events_are_told [] up_firstMoves covered_firstMoves
    (inTime_againMoves _ _)).2 ⟨rfl, rfl⟩

/- Between the answer and the subscription an event is lost, though the feed is
up and everything was read. -/
example :
    let before := (Feed.machine []).run
      (firstMoves ++ [.broken, .wake, .upgrade, .opened, .resume true])
    let ended := (before.step
      (.announce (.libraryChanged "heroic" 3))).step .subscribe
    Settled ended ∧ before.told = [.resumed] ∧ ended.told = before.told :=
  ⟨⟨rfl, rfl⟩, rfl, rfl⟩

end ChangeFeed
end Frontend
end Hearthdeck
