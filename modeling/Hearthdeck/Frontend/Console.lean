import Hearthdeck.Foundation.Machine
import Hearthdeck.Foundation.Table
import Mathlib.Data.Finmap
import Mathlib.Data.List.MinMax

/-!
# The console grid's pages

A console is served a page at a time.  Every scope (a console tab narrowed by
the search term and the facet selection) holds the pages fetched for it and
the cursor that extends them; the cache of all scopes decides what to ask for.
Requests carry a generation, which belongs to the cache and not to a scope, so
that a scope that was dropped and opened again does not accept the answer to a
request of its earlier life.

Records and version lists are drawn, not looked into, so their types are
parameters.  Offsets are 32-bit numbers.
-/

namespace Hearthdeck
namespace Frontend

open Foundation

/-- How many scopes the background prefetch may have in flight at once. -/
def maxPrefetchInflight : Nat := 3

/-- How many narrowed scopes the cache keeps beside the tabs. -/
def maxNarrowedScopes : Nat := 8

/-- Which console grid a page belongs to: the platform of its tab, the search
term and the facet selection. -/
structure ConsoleScope where
  platform : Option Int
  search : String
  facets : Finmap fun _ : String => String
  deriving DecidableEq

/-- One tab with no search and no filters on it. -/
def ConsoleScope.plain (platform : Option Int) : ConsoleScope where
  platform := platform
  search := ""
  facets := ∅

/-- Whether a scope is a tab rather than a query. -/
def ConsoleScope.isPlain (scope : ConsoleScope) : Bool :=
  scope.search.isEmpty && decide (scope.facets = ∅)

@[simp] theorem ConsoleScope.isPlain_plain
    (platform : Option Int) :
    (ConsoleScope.plain platform).isPlain = true := by
  simp [isPlain, plain]

/-- One page of a source's records. -/
structure Page (Item Version : Type) where
  entries : List Item
  /-- The version lists of the entries that have several files. -/
  versions : Table String (List Version)
  /-- How many records the whole scope has. -/
  total : Nat
  offset : Nat

/-- The pages loaded for one scope. -/
structure ConsoleListing (Item Version : Type) where
  entries : List Item
  versions : Table String (List Version)
  /-- The offset to ask for next, if there is more to load. -/
  nextOffset : Option Nat
  /-- The generation of the request in flight. -/
  pending : Option Nat
  generation : Nat
  /-- Whether the scope has ever answered with a page. -/
  loaded : Bool
  /-- When the scope was last asked for, in the clock of the cache. -/
  used : Nat

variable {Item Version : Type}

namespace ConsoleListing

/-- The log of a scope nothing is known of. -/
def new : ConsoleListing Item Version where
  entries := []
  versions := ∅
  nextOffset := none
  pending := none
  generation := 0
  loaded := false
  used := 0

/-- Begin a load of the page at an offset.  Offset 0 opens a new generation; a
later page is refused while one is in flight. -/
def start
    (log : ConsoleListing Item Version)
    (offset generation : Nat) :
    ConsoleListing Item Version × Option Nat :=
  if 0 < offset && log.pending.isSome then
    (log, none)
  else
    let opened : ConsoleListing Item Version :=
      if offset = 0 then
        { log with
          generation := generation
          nextOffset := none }
      else
        log
    ({ opened with pending := some opened.generation },
      some opened.generation)

/-- Merge an arriving page, and whether it belonged to the load in flight. -/
def apply
    (log : ConsoleListing Item Version)
    (generation : Nat)
    (page : Page Item Version) :
    ConsoleListing Item Version × Bool :=
  if generation ≠ log.generation then
    (log, false)
  else
    let first : Bool := page.offset = 0
    let loaded := page.offset + page.entries.length
    let more : Bool := !page.entries.isEmpty && decide (loaded < page.total)
    ({ log with
        pending := none
        loaded := true
        versions := page.versions.entries.foldl
          (fun versions entry => versions.insert entry.1 entry.2)
          (if first then ∅ else log.versions)
        entries := (if first then [] else log.entries) ++ page.entries
        -- The cursor is kept as a 32-bit number.
        nextOffset := if more then some (loaded % 2 ^ 32) else none },
      true)

/-- Note that a load came back without a page, and whether it was the one in
flight. -/
def failed
    (log : ConsoleListing Item Version)
    (generation : Nat) :
    ConsoleListing Item Version × Bool :=
  if generation ≠ log.generation then
    (log, false)
  else
    ({ log with pending := none }, true)

/-- The offset to load next, if the end of what is loaded is on screen.
`endOnScreen` is the geometry of the grid: whether the viewport has reached
the end of a list of so many tiles. -/
def extendOffset
    (log : ConsoleListing Item Version)
    (endOnScreen : Nat → Bool) : Option Nat :=
  match log.nextOffset with
  | none => none
  | some next =>
      if log.pending.isSome then
        none
      else if endOnScreen log.entries.length then
        some next
      else
        none

end ConsoleListing

/-- What showing a scope asks for. -/
inductive Ensure
  | cached
  | loading
  | requested (generation : Nat)
  deriving DecidableEq, Repr

/-- The logs of all scopes, and the queue that warms them. -/
structure ConsoleScopes (Item Version : Type) where
  scopes : Table ConsoleScope (ConsoleListing Item Version)
  /-- The scopes the prefetch still owes a first page. -/
  prefetch : List ConsoleScope
  clock : Nat
  generation : Nat
  /-- The revision of the connection the pages come from. -/
  source : Nat

namespace ConsoleScopes

/-- The cache at start. -/
def new : ConsoleScopes Item Version where
  scopes := ∅
  prefetch := []
  clock := 0
  generation := 0
  source := 0

/-- Forget the data of the previous server. -/
def invalidate
    (console : ConsoleScopes Item Version) : ConsoleScopes Item Version :=
  { console with
    source := console.source + 1
    prefetch := []
    scopes := ∅ }

/-- The records loaded for a scope. -/
def entries
    (console : ConsoleScopes Item Version)
    (scope : ConsoleScope) : List Item :=
  match console.scopes.lookup scope with
  | some log => log.entries
  | none => []

/-- The files an entry of a scope collapsed. -/
def versions
    (console : ConsoleScopes Item Version)
    (scope : ConsoleScope)
    (entryId : String) : List Version :=
  match console.scopes.lookup scope with
  | some log => (log.versions.lookup entryId).getD []
  | none => []

/-- Change the log of a scope, if it has one. -/
def adjust
    (console : ConsoleScopes Item Version)
    (scope : ConsoleScope)
    (change : ConsoleListing Item Version → ConsoleListing Item Version) :
    ConsoleScopes Item Version :=
  { console with
    scopes := console.scopes.mapValues fun key log =>
      if key = scope then change log else log }

/-- Mark a scope as just used. -/
def touch
    (console : ConsoleScopes Item Version)
    (scope : ConsoleScope) : ConsoleScopes Item Version :=
  { console with clock := console.clock + 1 }.adjust scope fun log =>
    { log with used := console.clock + 1 }

/-- How many scopes wait for a page. -/
def inflight (console : ConsoleScopes Item Version) : Nat :=
  console.scopes.count fun _ log => log.pending.isSome

/-- How many narrowed scopes the cache holds. -/
def narrowed (console : ConsoleScopes Item Version) : Nat :=
  console.scopes.count fun scope _ => !scope.isPlain

/-- The narrowed scope that goes first: of those that wait for no page, the
one used longest ago. -/
def oldest (console : ConsoleScopes Item Version) : Option ConsoleScope :=
  ((console.scopes.entries.filter fun entry =>
      !entry.1.isPlain && entry.2.pending.isNone).argmin
    fun entry => entry.2.used).map Sigma.fst

/-- At most so many rounds of `evict`. -/
def evictRounds :
    Nat → ConsoleScopes Item Version → ConsoleScopes Item Version
  | 0, console => console
  | rounds + 1, console =>
      if maxNarrowedScopes < console.narrowed then
        match console.oldest with
        | none => console
        | some scope =>
            evictRounds rounds
              { console with scopes := console.scopes.erase scope }
      else
        console

/-- Drop the least recently used narrowed scopes.  Every round drops one, so
no more rounds are needed than there are narrowed scopes (`evict_done`). -/
def evict
    (console : ConsoleScopes Item Version) : ConsoleScopes Item Version :=
  evictRounds console.narrowed console

/-- Begin a load of the page of a scope at an offset, with the generation to
tag the request with. -/
def begin
    (console : ConsoleScopes Item Version)
    (scope : ConsoleScope)
    (offset : Nat) : ConsoleScopes Item Version × Option Nat :=
  let generation :=
    if offset = 0 then console.generation + 1 else console.generation
  let log := (console.scopes.lookup scope).getD .new
  let started := log.start offset generation
  (({ console with
      generation := generation
      scopes := console.scopes.insert scope started.1 }.touch scope).evict,
    started.2)

/-- Begin the first page of a scope. -/
def openFirst
    (console : ConsoleScopes Item Version)
    (scope : ConsoleScope) : ConsoleScopes Item Version × Ensure :=
  match console.begin scope 0 with
  | (begun, some generation) => (begun, .requested generation)
  | (begun, none) => (begun, .loading)

/-- What showing a scope asks for. -/
def ensure
    (console : ConsoleScopes Item Version)
    (scope : ConsoleScope) : ConsoleScopes Item Version × Ensure :=
  match (console.touch scope).scopes.lookup scope with
  | some log =>
      if log.loaded then
        (console.touch scope, .cached)
      else if log.pending.isSome then
        (console.touch scope, .loading)
      else
        (console.touch scope).openFirst scope
  | none => (console.touch scope).openFirst scope

/-- Merge an arriving page into the log of its scope, and whether it was
accepted. -/
def apply
    (console : ConsoleScopes Item Version)
    (scope : ConsoleScope)
    (generation : Nat)
    (page : Page Item Version) : ConsoleScopes Item Version × Bool :=
  (console.adjust scope fun log => (log.apply generation page).1,
    (console.scopes.lookup scope).any fun log =>
      (log.apply generation page).2)

/-- Note that a load came back without a page, and whether it was the one in
flight. -/
def failed
    (console : ConsoleScopes Item Version)
    (scope : ConsoleScope)
    (generation : Nat) : ConsoleScopes Item Version × Bool :=
  (console.adjust scope fun log => (log.failed generation).1,
    (console.scopes.lookup scope).any fun log => (log.failed generation).2)

/-- The offset a scope should load next. -/
def extendOffset
    (console : ConsoleScopes Item Version)
    (scope : ConsoleScope)
    (endOnScreen : Nat → Bool) : Option Nat :=
  (console.scopes.lookup scope).bind fun log => log.extendOffset endOnScreen

/-- Whether a tab has no page and none on its way. -/
def owed
    (console : ConsoleScopes Item Version)
    (scope : ConsoleScope) : Bool :=
  match console.scopes.lookup scope with
  | some log => !log.loaded && log.pending.isNone
  | none => true

/-- Queue a tab that has no page yet. -/
def queueTab
    (console : ConsoleScopes Item Version)
    (platform : Option Int) : ConsoleScopes Item Version :=
  if console.owed (.plain platform) &&
      !console.prefetch.contains (.plain platform) then
    { console with prefetch := console.prefetch ++ [.plain platform] }
  else
    console

/-- Queue every tab that has no page yet. -/
def queuePrefetch
    (console : ConsoleScopes Item Version)
    (platforms : List (Option Int)) : ConsoleScopes Item Version :=
  platforms.foldl queueTab console

/-- Walk a queue of prefetches while few enough are in flight. -/
def nextPrefetchOf :
    List ConsoleScope → ConsoleScopes Item Version →
    ConsoleScopes Item Version × List (ConsoleScope × Nat)
  | [], console => ({ console with prefetch := [] }, [])
  | scope :: queue, console =>
      if console.inflight < maxPrefetchInflight then
        if console.owed scope then
          match console.begin scope 0 with
          | (begun, some generation) =>
              let walked := nextPrefetchOf queue begun
              (walked.1, (scope, generation) :: walked.2)
          | (begun, none) => nextPrefetchOf queue begun
        else
          nextPrefetchOf queue console
      else
        ({ console with prefetch := scope :: queue }, [])

/-- Hand out queued prefetches, each with the generation its answer must
carry. -/
def nextPrefetch
    (console : ConsoleScopes Item Version) :
    ConsoleScopes Item Version × List (ConsoleScope × Nat) :=
  nextPrefetchOf console.prefetch console

end ConsoleScopes
end Frontend
end Hearthdeck
