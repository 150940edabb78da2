import Hearthdeck.Daemon.ContinueWatching
import Hearthdeck.Daemon.StremioLink
import Hearthdeck.Foundation.Machine

/-!
# The cached refresh of Stremio

A refresh reads the metadata of the account first, and its text decides
whether the library is read at all: the snapshot that was published with the
same metadata is published again.  The entry that opens a title is found among
the applications of the host when the library is read, and it is kept with the
snapshot.

That the metadata determines the library is assumed throughout: the library of
an account is an argument, as a function of the text of its metadata.
-/

namespace Hearthdeck
namespace Daemon
namespace Stremio

open Foundation Frontend

/-! ## The entry of the host -/

/-- `STREMIO_SCHEME`. -/
def stremioScheme : String := "stremio"

/-- What is read of a `DiscoveredApplication`. -/
structure Application where
  applicationId : String
  name : String
  launchScheme : Option String

/-- `str::to_ascii_lowercase`. -/
def toAsciiLowercase (text : String) : String :=
  .ofList (text.toList.map Char.toLower)

/-- `pick_stremio`. -/
def pickStremio (applications : List Application) : Option String :=
  let byScheme := applications.find? fun application =>
    application.launchScheme = some stremioScheme
  let byName := applications.find? fun application =>
    contains (toAsciiLowercase application.applicationId) stremioScheme ||
      contains (toAsciiLowercase application.name) stremioScheme
  (byScheme.or byName).map Application.applicationId

/-- What the bridge answers to `DiscoverApplications`. -/
inductive HostReply
  /-- There is no answer in time, or none that can be read. -/
  | failed
  /-- An answer to another question, or an error. -/
  | other
  | applications (applications : List Application)

/-- `desktop_entry_for_stremio`. -/
def desktopEntryForStremio : HostReply → Option String
  | .failed => none
  | .other => none
  | .applications applications => pickStremio applications

/-! ## The datastore -/

/-- `datastore`: the body of an answer, unless the answer is an error. -/
def datastore
    (path : String)
    (answer : Except String Json) : Except String Json :=
  match answer with
  | .error error => .error error
  | .ok body =>
      match envelopeError body with
      | some message =>
          .error ("the Stremio account API refused " ++ path ++ ": " ++
            message)
      | none => .ok body

/-- `digest_of`, where `spell` is how a value is written as JSON. -/
def digestOf (spell : Json → String) (metadata : Json) : String :=
  ((metadata.get "result").map spell).getD ""

/-- `CachedLibrary`. -/
structure CachedLibrary where
  digest : String
  records : List (CatalogRecord Metadata)

/-- What there is around the provider. -/
structure World where
  /-- The session key, while an account is linked. -/
  link : Option String
  /-- The body `datastoreMeta` is answered with for a session key. -/
  metadata : String → Json
  /-- What the bridge answers. -/
  host : HostReply

/-- What fails of a refresh, and with which error. -/
structure Faults where
  storage : Option String
  metadata : Option String
  library : Option String

/-- Nothing fails. -/
def Faults.none : Faults := ⟨.none, .none, .none⟩

/-- The answer of a request that may fail. -/
def reply (fault : Option String) (body : Json) : Except String Json :=
  match fault with
  | some error => .error error
  | none => .ok body

/-- A record that opens with an entry of the host. -/
def launched
    (entry : Option String)
    (record : CatalogRecord Metadata) : CatalogRecord Metadata :=
  { record with launchId := entry }

section Provider

/- How a value is written as JSON. -/
variable (spell : Json → String)

/- How a time of RFC 3339 is read. -/
variable (parse : String → Option Int)

/- The body `datastoreGet` is answered with, by the digest of the metadata. -/
variable (library : String → Json)

/-- The part of `StremioProvider::discover` that reads the library. -/
def readLibrary
    (world : World)
    (fault : Option String)
    (digest : String) : Except String (List (CatalogRecord Metadata)) :=
  match datastore "datastoreGet" (reply fault (library digest)) with
  | .error error => .error error
  | .ok body =>
      match continueWatching parse body with
      | .error error => .error error
      | .ok records =>
          .ok (records.map (launched (desktopEntryForStremio world.host)))

/-- `StremioProvider::discover`: what it returns, and what is cached then. -/
def discover
    (world : World)
    (faults : Faults)
    (cached : Option CachedLibrary) :
    Except String (List (CatalogRecord Metadata)) × Option CachedLibrary :=
  match faults.storage, world.link with
  | some error, _ => (.error error, cached)
  | none, none => (.ok [], none)
  | none, some authKey =>
      match datastore "datastoreMeta"
          (reply faults.metadata (world.metadata authKey)) with
      | .error error => (.error error, cached)
      | .ok body =>
          let digest := digestOf spell body
          match cached.filter fun snapshot => snapshot.digest = digest with
          | some snapshot => (.ok snapshot.records, cached)
          | none =>
              match readLibrary parse library world faults.library digest with
              | .error error => (.error error, cached)
              | .ok records => (.ok records, some ⟨digest, records⟩)

/-- What a refresh returns that has nothing cached, when nothing fails. -/
def uncached (world : World) :
    Except String (List (CatalogRecord Metadata)) :=
  (discover spell parse library world .none none).1

/-! ## Runs -/

/-- What happens to the provider and around it. -/
inductive Event
  | link (authKey : String)
  | unlink
  /-- Something changes in the accounts. -/
  | account (metadata : String → Json)
  /-- Something is installed or removed, or the bridge starts or stops. -/
  | host (reply : HostReply)
  | discover (faults : Faults)

/-- The provider and its surroundings. -/
structure State where
  world : World
  cached : Option CachedLibrary

/-- One event.  A refresh emits what it returns. -/
def step (state : State) :
    Event → State × List (Except String (List (CatalogRecord Metadata)))
  | .link authKey =>
      ({ state with world := { state.world with link := some authKey } }, [])
  | .unlink =>
      ({ state with world := { state.world with link := none } }, [])
  | .account metadata =>
      ({ state with world := { state.world with metadata := metadata } }, [])
  | .host reply =>
      ({ state with world := { state.world with host := reply } }, [])
  | .discover faults =>
      let (result, cached) :=
        discover spell parse library state.world faults state.cached
      ({ state with cached := cached }, [result])

/-- Runs of the provider.  At the start nothing is linked or cached. -/
def machine :
    Machine State Event (Except String (List (CatalogRecord Metadata))) where
  start := ⟨⟨none, fun _ => .null, .failed⟩, none⟩
  step := step spell parse library

/-- What a successful refresh returns is what one without a cache would
return. -/
def Fresh (state : State) (event : Event) : Prop :=
  ∀ records,
    .ok records ∈ (step spell parse library state event).2 →
    uncached spell parse library state.world = .ok records

/-- A refresh publishes the cached snapshot again although the host opens a
title of it with another entry now. -/
def Stale (state : State) : Event → Prop
  | .discover faults =>
      faults.storage = none ∧ faults.metadata = none ∧
        ∃ authKey ∈ state.world.link,
          envelopeError (state.world.metadata authKey) = none ∧
          ∃ snapshot ∈ state.cached,
            snapshot.digest =
              digestOf spell (state.world.metadata authKey) ∧
            ∃ record ∈ snapshot.records,
              record.launchId ≠ desktopEntryForStremio state.world.host
  | _ => False

/-! ## What is cached -/

/-- The row of a library, before its titles open with anything. -/
def row (digest : String) : Except String (List (CatalogRecord Metadata)) :=
  match datastore "datastoreGet" (.ok (library digest)) with
  | .error error => .error error
  | .ok body => continueWatching parse body

/-- The row of a library whose titles open with an entry of the host. -/
def launchedRow
    (digest : String)
    (entry : Option String) :
    Except String (List (CatalogRecord Metadata)) :=
  (row parse library digest).map (List.map (launched entry))

theorem readLibrary_of_reached
    (world : World)
    (digest : String) :
    readLibrary parse library world none digest =
      launchedRow parse library digest
        (desktopEntryForStremio world.host) := by
  unfold readLibrary launchedRow row reply
  dsimp only
  cases datastore "datastoreGet" (.ok (library digest)) with
  | error error => rfl
  | ok body =>
      dsimp only
      cases continueWatching parse body with
      | error error => rfl
      | ok records => rfl

/-- What is read of a library does not depend on what could have failed. -/
theorem readLibrary_eq_ok
    {world : World}
    {fault : Option String}
    {digest : String}
    {records : List (CatalogRecord Metadata)}
    (reads : readLibrary parse library world fault digest = .ok records) :
    launchedRow parse library digest (desktopEntryForStremio world.host) =
      .ok records := by
  cases fault with
  | none =>
      rw [← readLibrary_of_reached]
      exact reads
  | some error => cases reads

/-- Every snapshot is the row of the library of its digest. -/
def Kept (cached : Option CachedLibrary) : Prop :=
  ∀ snapshot ∈ cached, ∃ entry,
    launchedRow parse library snapshot.digest entry = .ok snapshot.records

theorem datastore_eq_ok_iff
    {path : String}
    {fault : Option String}
    {body result : Json} :
    datastore path (reply fault body) = .ok result ↔
      fault = none ∧ envelopeError body = none ∧ result = body := by
  unfold datastore reply
  cases fault with
  | some error => simp
  | none =>
      dsimp only
      cases envelopeError body with
      | some message => simp
      | none => simp [eq_comm]

/-- What a refresh does, in full. -/
theorem discover_cases
    (world : World)
    (faults : Faults)
    (cached : Option CachedLibrary) :
    (∃ error,
      discover spell parse library world faults cached =
        (.error error, cached)) ∨
    (faults.storage = none ∧ world.link = none ∧
      discover spell parse library world faults cached = (.ok [], none)) ∨
    ∃ authKey,
      faults.storage = none ∧ faults.metadata = none ∧
      world.link = some authKey ∧
      envelopeError (world.metadata authKey) = none ∧
      ((∃ snapshot,
          cached = some snapshot ∧
          snapshot.digest = digestOf spell (world.metadata authKey) ∧
          discover spell parse library world faults cached =
            (.ok snapshot.records, cached)) ∨
        ∃ records,
          (∀ snapshot ∈ cached,
            snapshot.digest ≠ digestOf spell (world.metadata authKey)) ∧
          readLibrary parse library world faults.library
            (digestOf spell (world.metadata authKey)) = .ok records ∧
          discover spell parse library world faults cached =
            (.ok records,
              some ⟨digestOf spell (world.metadata authKey), records⟩)) := by
  unfold discover
  split
  case h_1 error _ => exact .inl ⟨error, rfl⟩
  case h_2 stored unlinked =>
      exact .inr (.inl ⟨stored, unlinked, rfl⟩)
  case h_3 authKey stored linked =>
      split
      case h_1 error _ => exact .inl ⟨error, rfl⟩
      case h_2 body answered =>
          obtain ⟨reached, accepted, rfl⟩ := datastore_eq_ok_iff.mp answered
          dsimp only
          split
          case h_1 snapshot hit =>
              obtain ⟨held, same⟩ := Option.filter_eq_some_iff.mp hit
              exact .inr (.inr ⟨authKey, stored, reached, linked, accepted,
                .inl ⟨snapshot, held, of_decide_eq_true same, rfl⟩⟩)
          case h_2 miss =>
              split
              case h_1 error _ => exact .inl ⟨error, rfl⟩
              case h_2 records reads =>
                  refine .inr (.inr ⟨authKey, stored, reached, linked,
                    accepted, .inr ⟨records, ?_, reads, rfl⟩⟩)
                  intro snapshot held
                  simpa using Option.filter_eq_none_iff.mp miss snapshot held

/-- A refresh that succeeds without a cache returns the row of the library of
the account, and its titles open with the entry of the host. -/
theorem uncached_eq
    {world : World}
    {authKey : String}
    (linked : world.link = some authKey)
    (accepted : envelopeError (world.metadata authKey) = none) :
    uncached spell parse library world =
      launchedRow parse library (digestOf spell (world.metadata authKey))
        (desktopEntryForStremio world.host) := by
  have answered : datastore "datastoreMeta"
      (reply Faults.none.metadata (world.metadata authKey)) =
        .ok (world.metadata authKey) :=
    datastore_eq_ok_iff.mpr ⟨rfl, accepted, rfl⟩
  have reads := readLibrary_of_reached parse library world
    (digestOf spell (world.metadata authKey))
  unfold uncached discover
  rw [linked]
  change (match datastore "datastoreMeta"
      (reply Faults.none.metadata (world.metadata authKey)) with
    | .error error => (_, none)
    | .ok body => _ :
      Except String (List (CatalogRecord Metadata)) × _).1 = _
  rw [answered]
  dsimp only [Option.filter_none, Faults.none]
  rw [reads]
  cases launchedRow parse library (digestOf spell (world.metadata authKey))
    (desktopEntryForStremio world.host) with
  | error error => rfl
  | ok records => rfl

/-- A refresh keeps that snapshots are rows. -/
theorem kept_discover
    {world : World}
    {faults : Faults}
    {cached : Option CachedLibrary}
    (kept : Kept parse library cached) :
    Kept parse library
      (discover spell parse library world faults cached).2 := by
  rcases discover_cases spell parse library world faults cached with
    ⟨error, does⟩ | ⟨_, _, does⟩ |
      ⟨authKey, _, _, _, _, ⟨snapshot, _, _, does⟩ |
        ⟨records, _, reads, does⟩⟩
  · rw [does]
    exact kept
  · rw [does]
    intro snapshot held
    cases held
  · rw [does]
    exact kept
  · rw [does]
    intro snapshot held
    cases held
    exact ⟨_, readLibrary_eq_ok parse library reads⟩

theorem kept_step
    (state : State)
    (event : Event)
    (kept : Kept parse library state.cached) :
    Kept parse library (step spell parse library state event).1.cached := by
  cases event with
  | link authKey => exact kept
  | unlink => exact kept
  | account metadata => exact kept
  | host reply => exact kept
  | discover faults => exact kept_discover spell parse library kept

theorem kept_run (events : List Event) :
    Kept parse library
      ((machine spell parse library).run events).cached := by
  apply (machine spell parse library).run_induction
    (fun state => Kept parse library state.cached)
  · intro snapshot held
    cases held
  · exact kept_step spell parse library

/-! ## When the cache is fresh -/

/-- A row opens with one entry as with another exactly when every title of it
opens with the other. -/
theorem launchedRow_eq_iff
    {digest : String}
    {first second : Option String}
    {records : List (CatalogRecord Metadata)}
    (isRow : launchedRow parse library digest first = .ok records) :
    launchedRow parse library digest second = .ok records ↔
      ∀ record ∈ records, record.launchId = second := by
  unfold launchedRow at isRow ⊢
  cases read : row parse library digest with
  | error error =>
      rw [read] at isRow
      cases isRow
  | ok plain =>
      rw [read] at isRow
      change Except.ok (plain.map (launched first)) = .ok records at isRow
      change Except.ok (plain.map (launched second)) = .ok records ↔ _
      cases isRow
      rw [Except.ok.injEq, List.map_inj_left, List.forall_mem_map]
      refine forall₂_congr fun record _ => ?_
      constructor
      · intro same
        exact congrArg CatalogRecord.launchId same.symm
      · intro same
        change { record with launchId := second } =
          { record with launchId := first }
        rw [← same]
        rfl

/-- A snapshot of the same metadata is returned. -/
theorem discover_of_hit
    {world : World}
    {faults : Faults}
    {authKey : String}
    {snapshot : CachedLibrary}
    (stored : faults.storage = none)
    (reached : faults.metadata = none)
    (linked : world.link = some authKey)
    (accepted : envelopeError (world.metadata authKey) = none)
    (hit : snapshot.digest = digestOf spell (world.metadata authKey)) :
    discover spell parse library world faults (some snapshot) =
      (.ok snapshot.records, some snapshot) := by
  have answered : datastore "datastoreMeta"
      (reply faults.metadata (world.metadata authKey)) =
        .ok (world.metadata authKey) :=
    datastore_eq_ok_iff.mpr ⟨reached, accepted, rfl⟩
  unfold discover
  rw [stored, linked]
  dsimp only
  rw [answered]
  dsimp only
  rw [Option.filter_some, if_pos (decide_eq_true hit)]

theorem fresh_discover_iff
    {state : State}
    {faults : Faults} :
    Fresh spell parse library state (.discover faults) ↔
      ∀ records,
        (discover spell parse library state.world faults
          state.cached).1 = .ok records →
        uncached spell parse library state.world = .ok records := by
  refine forall_congr' fun records => imp_congr_left ?_
  change Except.ok records ∈ [_] ↔ _
  rw [List.mem_singleton]
  exact eq_comm

/-- Where snapshots are rows, a refresh returns what one without a cache
would, unless it is stale. -/
theorem fresh_iff
    {state : State}
    (kept : Kept parse library state.cached)
    (event : Event) :
    Fresh spell parse library state event ↔ ¬ Stale spell state event := by
  cases event with
  | link authKey => simp [Fresh, Stale, step]
  | unlink => simp [Fresh, Stale, step]
  | account metadata => simp [Fresh, Stale, step]
  | host reply => simp [Fresh, Stale, step]
  | discover faults =>
      rw [fresh_discover_iff]
      constructor
      · rintro fresh ⟨stored, reached, authKey, linked, accepted, snapshot,
          held, hit, record, member, other⟩
        obtain ⟨entry, isRow⟩ := kept snapshot held
        have returned := discover_of_hit spell parse library stored reached
          linked accepted hit
        rw [held] at fresh
        have now := fresh snapshot.records (congrArg Prod.fst returned)
        rw [uncached_eq spell parse library linked accepted, ← hit] at now
        exact other ((launchedRow_eq_iff parse library isRow).mp now record
          member)
      · intro current records returned
        rcases discover_cases spell parse library state.world faults
            state.cached with
          ⟨error, does⟩ | ⟨stored, unlinked, does⟩ |
            ⟨authKey, stored, reached, linked, accepted,
              ⟨snapshot, held, hit, does⟩ | ⟨read, miss, reads, does⟩⟩
        · rw [does] at returned
          cases returned
        · rw [does] at returned
          cases returned
          unfold uncached discover
          rw [unlinked]
          rfl
        · rw [does] at returned
          cases returned
          obtain ⟨entry, isRow⟩ := kept snapshot held
          rw [uncached_eq spell parse library linked accepted, ← hit,
            launchedRow_eq_iff parse library isRow]
          intro record member
          by_contra other
          exact current ⟨stored, reached, authKey, linked, accepted,
            snapshot, held, hit, record, member, other⟩
        · rw [does] at returned
          cases returned
          rw [uncached_eq spell parse library linked accepted]
          exact readLibrary_eq_ok parse library reads

/-- In a run every successful refresh returns what one without a cache would
return exactly if none publishes a snapshot again that the host opens with
another entry now.  What one without a cache returns is the row of the library
of the account, opened with the entry picked among the applications of the
host, or nothing where no account is linked. -/
theorem cached_refresh_fresh_iff (events : List Event) :
    ((machine spell parse library).Along (Fresh spell parse library) events ↔
      (machine spell parse library).Along
        (fun state event => ¬ Stale spell state event) events) ∧
    (∀ world, world.link = none →
      uncached spell parse library world = .ok []) ∧
    ∀ world authKey,
      world.link = some authKey →
      envelopeError (world.metadata authKey) = none →
      uncached spell parse library world =
        launchedRow parse library (digestOf spell (world.metadata authKey))
          (desktopEntryForStremio world.host) := by
  refine ⟨?_, ?_, fun world authKey => uncached_eq spell parse library⟩
  · refine forall₄_congr fun earlier event later split => ?_
    exact fresh_iff spell parse library (kept_run spell parse library earlier)
      event
  · intro world unlinked
    unfold uncached discover
    rw [unlinked]
    rfl

end Provider

/-- How the values of the example are written. -/
def spellOne : Json → String
  | .array [] => "[]"
  | .array _ => "[[\"tt0149460\",1700000000000]]"
  | _ => "null"

/-- The library of the example: one title that was begun. -/
def oneTitle (_ : String) : Json :=
  .object [("result", .array
    [.object
      [("_id", .string "tt0149460"),
        ("type", .string "series"),
        ("state", .object [("timeOffset", .number "60000")])]])]

/-- The account is linked and read before Stremio is installed. -/
def installedLater : List Event :=
  [.account fun _ => .object [("result", .array
      [.array [.string "tt0149460", .number "1700000000000"]])],
    .link "key",
    .host (.applications []),
    .discover .none,
    .host (.applications
      [⟨"com.stremio.Stremio.desktop", "Stremio", none⟩])]

/-- The runs of the provider with this library. -/
def oneTitleRuns :
    Machine State Event (Except String (List (CatalogRecord Metadata))) :=
  machine spellOne (fun _ => none) oneTitle

/-- The next refresh does not find the application that was installed. -/
theorem installed_later_is_not_found :
    (oneTitleRuns.step (oneTitleRuns.run installedLater)
        (.discover .none)).2.map
        (Except.map (List.map CatalogRecord.launchId)) =
      [.ok [none]] ∧
    (uncached spellOne (fun _ => none) oneTitle
        (oneTitleRuns.run installedLater).world).map
          (List.map CatalogRecord.launchId) =
      .ok [some "com.stremio.Stremio.desktop"] ∧
    ¬ oneTitleRuns.Along (Fresh spellOne (fun _ => none) oneTitle)
      (installedLater ++ [.discover .none]) := by
  have cached : (oneTitleRuns.step (oneTitleRuns.run installedLater)
      (.discover .none)).2.map
        (Except.map (List.map CatalogRecord.launchId)) =
      [.ok [none]] := by decide +kernel
  have found : (uncached spellOne (fun _ => none) oneTitle
      (oneTitleRuns.run installedLater).world).map
        (List.map CatalogRecord.launchId) =
      .ok [some "com.stremio.Stremio.desktop"] := by decide +kernel
  refine ⟨cached, found, fun along => ?_⟩
  have fresh := along installedLater (.discover .none) [] rfl
  cases returned : (oneTitleRuns.step (oneTitleRuns.run installedLater)
      (.discover .none)).2 with
  | nil =>
      rw [returned] at cached
      cases cached
  | cons result others =>
      rw [returned, List.map_cons, List.cons.injEq] at cached
      cases result with
      | error error => cases cached.1
      | ok records =>
          have now := fresh records (by
            change _ ∈ (oneTitleRuns.step _ _).2
            rw [returned]
            exact List.mem_cons_self)
          rw [now] at found
          have launched : (.ok (records.map CatalogRecord.launchId) :
              Except String (List (Option String))) = .ok [none] := cached.1
          have other : (.ok (records.map CatalogRecord.launchId) :
              Except String (List (Option String))) =
                .ok [some "com.stremio.Stremio.desktop"] := found
          rw [launched] at other
          cases other

end Stremio
end Daemon
end Hearthdeck
