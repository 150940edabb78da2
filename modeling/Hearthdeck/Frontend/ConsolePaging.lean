import Hearthdeck.Frontend.ConsoleCache

/-!
# The paging protocol

The cache of console pages and a daemon that answers page requests late, in
any order, with errors or with chunks of the lists it keeps.  Whatever the
order, what a scope holds is the beginning of its own list, and the answer it
waits for is the only one it accepts.
-/

namespace Hearthdeck
namespace Frontend

open Foundation

variable {Item Version : Type}

/-! ## The protocol -/

/-- A page request on its way: the connection it went to, the scope, the
generation its answer carries and the offset asked for. -/
structure PageRequest where
  source : Nat
  scope : ConsoleScope
  generation : Nat
  offset : Nat
  deriving DecidableEq

/-- An answer of the daemon: an error, or so many records from the requested
offset on, with their version lists. -/
inductive Reply (Version : Type)
  | failed
  | page (length : Nat) (versions : Table String (List Version))

/-- What can happen between the cache and the daemon. -/
inductive PagingStep (Version : Type)
  /-- A scope is shown. -/
  | ensure (scope : ConsoleScope)
  | queuePrefetch (platforms : List (Option Int))
  | nextPrefetch
  /-- The grid of a scope is scrolled, and the page it then lacks begun. -/
  | extend (scope : ConsoleScope) (endOnScreen : Nat → Bool)
  /-- One of the requests on their way is answered. -/
  | answer (index : Nat) (reply : Reply Version)
  | invalidate

/-- The cache, the requests on their way, the pages accepted so far with the
newest first, and the scope shown last: `overtaken` once the page of another
scope was begun by scrolling. -/
structure Exchange (Item Version : Type) where
  console : ConsoleScopes Item Version
  outstanding : List PageRequest
  accepted : List (ConsoleScope × Page Item Version)
  ensured : Option ConsoleScope
  overtaken : Bool

namespace Exchange

/-- Nothing is loaded and nothing asked for. -/
def new : Exchange Item Version where
  console := .new
  outstanding := []
  accepted := []
  ensured := none
  overtaken := false

/-- Send the requests a cache has begun. -/
def send
    (exchange : Exchange Item Version)
    (console : ConsoleScopes Item Version)
    (begun : List (ConsoleScope × Nat))
    (offset : Nat) : Exchange Item Version :=
  { exchange with
    console := console
    outstanding := exchange.outstanding ++ begun.map fun request =>
      { source := console.source
        scope := request.1
        generation := request.2
        offset := offset } }

/-- The page that answers a request. -/
def pageFor
    (library : Nat → ConsoleScope → List Item)
    (request : PageRequest)
    (length : Nat)
    (versions : Table String (List Version)) : Page Item Version where
  entries :=
    ((library request.source request.scope).drop request.offset).take length
  versions := versions
  total := (library request.source request.scope).length
  offset := request.offset

/-- Deliver the answer to a request. -/
def deliver
    (library : Nat → ConsoleScope → List Item)
    (exchange : Exchange Item Version)
    (request : PageRequest) : Reply Version → Exchange Item Version
  | .failed =>
      { exchange with
        console :=
          (exchange.console.failed request.scope request.generation).1 }
  | .page length versions =>
      let page := pageFor library request length versions
      let applied :=
        exchange.console.apply request.scope request.generation page
      { exchange with
        console := applied.1
        accepted :=
          if applied.2 then
            (request.scope, page) :: exchange.accepted
          else
            exchange.accepted }

/-- Show a scope. -/
def ensure
    (exchange : Exchange Item Version)
    (scope : ConsoleScope) : Exchange Item Version :=
  let shown : Exchange Item Version :=
    { exchange with
      ensured := some scope
      overtaken := false }
  match exchange.console.ensure scope with
  | (console, .requested generation) =>
      shown.send console [(scope, generation)] 0
  | (console, _) => { shown with console := console }

/-- Begin the page of a scope at an offset. -/
def loadPage
    (exchange : Exchange Item Version)
    (scope : ConsoleScope)
    (offset : Nat) : Exchange Item Version :=
  let begun : Exchange Item Version :=
    { exchange with
      overtaken := exchange.overtaken ||
        decide (exchange.ensured ≠ some scope) }
  match exchange.console.begin scope offset with
  | (console, some generation) =>
      begun.send console [(scope, generation)] offset
  | (console, none) => { begun with console := console }

/-- One step of the protocol.  An answer to no request on its way does
nothing. -/
def step
    (library : Nat → ConsoleScope → List Item)
    (exchange : Exchange Item Version) :
    PagingStep Version → Exchange Item Version
  | .ensure scope => exchange.ensure scope
  | .queuePrefetch platforms =>
      { exchange with console := exchange.console.queuePrefetch platforms }
  | .nextPrefetch =>
      exchange.send exchange.console.nextPrefetch.1
        exchange.console.nextPrefetch.2 0
  | .extend scope endOnScreen =>
      match exchange.console.extendOffset scope endOnScreen with
      | some offset => exchange.loadPage scope offset
      | none => exchange
  | .answer index reply =>
      match exchange.outstanding[index]? with
      | some request =>
          deliver library
            { exchange with
              outstanding := exchange.outstanding.eraseIdx index }
            request reply
      | none => exchange
  | .invalidate =>
      { exchange with
        console := exchange.console.invalidate
        ensured := none }

end Exchange

/-- The cache and a daemon that keeps the given lists. -/
def paging
    (library : Nat → ConsoleScope → List Item) :
    Machine (Exchange Item Version) (PagingStep Version) Unit where
  start := .new
  step := fun exchange step => (exchange.step library step, [])

/-! ## The invariant -/

namespace Exchange

/-- The page accepted last for a scope. -/
def lastPage
    (exchange : Exchange Item Version)
    (scope : ConsoleScope) : Option (Page Item Version) :=
  (exchange.accepted.find? fun page => page.1 = scope).map Prod.snd

/-- The cursor of a loaded scope: it stands at the end of what is loaded,
unless the last page was empty or completed the list. -/
def CursorAt
    (records : List Item)
    (page : Page Item Version)
    (log : ConsoleListing Item Version) : Prop :=
  (log.nextOffset = some log.entries.length ∧ 0 < log.entries.length ∧
      page.entries ≠ [] ∧ log.entries ≠ records) ∨
    (log.nextOffset = none ∧ (page.entries = [] ∨ log.entries = records))

/-- What holds of the log of a scope. -/
structure SoundLog
    (library : Nat → ConsoleScope → List Item)
    (exchange : Exchange Item Version)
    (scope : ConsoleScope)
    (log : ConsoleListing Item Version) : Prop where
  holds : log.entries <+: library exchange.console.source scope
  unloaded : log.loaded = false → log.entries = [] ∧ log.nextOffset = none
  cursor : log.loaded = true →
    ∃ page, exchange.lastPage scope = some page ∧
      CursorAt (library exchange.console.source scope) page log
  counted : log.generation ≤ exchange.console.generation
  usedBefore : log.used ≤ exchange.console.clock
  /-- The scope waits for exactly the requests that carry its generation, and
  never for two. -/
  awaited : exchange.outstanding.countP (fun request =>
      decide (request.scope = scope) &&
        decide (request.generation = log.generation)) =
    if log.pending.isSome then 1 else 0

/-- What holds of a request on its way. -/
structure SoundRequest
    (exchange : Exchange Item Version)
    (request : PageRequest) : Prop where
  counted : request.generation ≤ exchange.console.generation
  expected : ∀ log,
    exchange.console.scopes.lookup request.scope = some log →
    request.generation = log.generation →
    request.source = exchange.console.source ∧
      request.offset = log.entries.length

/-- The invariant of the protocol. -/
structure Sound
    (library : Nat → ConsoleScope → List Item)
    (exchange : Exchange Item Version) : Prop where
  logs : ∀ scope log, exchange.console.scopes.lookup scope = some log →
    SoundLog library exchange scope log
  requests : ∀ request ∈ exchange.outstanding, SoundRequest exchange request
  queued : ∀ scope ∈ exchange.console.prefetch, scope.isPlain = true

theorem sound_new
    (library : Nat → ConsoleScope → List Item) :
    Sound library (new : Exchange Item Version) where
  logs := fun _ _ found => by cases found
  requests := fun _ member => by cases member
  queued := fun _ member => by cases member

/-- A log stays sound when the clocks advance and its own requests and last
page stay. -/
theorem SoundLog.advance
    {library : Nat → ConsoleScope → List Item}
    {before after : Exchange Item Version}
    {scope : ConsoleScope}
    {log : ConsoleListing Item Version}
    (sound : SoundLog library before scope log)
    (source : after.console.source = before.console.source)
    (generation :
      before.console.generation ≤ after.console.generation)
    (clock : before.console.clock ≤ after.console.clock)
    (pages : after.lastPage scope = before.lastPage scope)
    (requests : ∀ generation,
      after.outstanding.countP (fun request =>
          decide (request.scope = scope) &&
            decide (request.generation = generation)) =
        before.outstanding.countP (fun request =>
          decide (request.scope = scope) &&
            decide (request.generation = generation))) :
    SoundLog library after scope log where
  holds := by
    rw [source]
    exact sound.holds
  unloaded := sound.unloaded
  cursor := by
    rw [source, pages]
    exact sound.cursor
  counted := Nat.le_trans sound.counted generation
  usedBefore := Nat.le_trans sound.usedBefore clock
  awaited := by
    rw [requests]
    exact sound.awaited

/-- A page that is due is begun at the end of what is loaded. -/
theorem Sound.due_offset
    {library : Nat → ConsoleScope → List Item}
    {exchange : Exchange Item Version}
    (sound : Sound library exchange)
    {scope : ConsoleScope}
    {offset : Nat}
    (due : exchange.console.Due scope offset) :
    offset = (exchange.console.log scope).entries.length ∧
      (offset = 0 → (exchange.console.log scope).loaded = false) := by
  obtain ⟨-, due⟩ := due
  unfold ConsoleScopes.log at due ⊢
  cases found : exchange.console.scopes.lookup scope with
  | none =>
      rw [found] at due
      rcases due with ⟨first, -⟩ | ⟨-, loaded⟩
      · exact ⟨first, fun _ => rfl⟩
      · cases loaded
  | some log =>
      rw [found] at due
      have kept := sound.logs scope log found
      simp only [Option.getD_some] at due ⊢
      rcases due with ⟨first, unloaded⟩ | ⟨next, loaded⟩
      · refine ⟨?_, fun _ => unloaded⟩
        rw [(kept.unloaded unloaded).1]
        exact first
      · obtain ⟨page, -, cursor⟩ := kept.cursor loaded
        rcases cursor with ⟨atEnd, positive, -⟩ | ⟨ended, -⟩
        · rw [next] at atEnd
          have same := Option.some.inj atEnd
          refine ⟨same, ?_⟩
          intro first
          omega
        · rw [next] at ended
          cases ended

/-- Requests already on their way carry no generation that a page begun now
would carry. -/
theorem Sound.not_awaited
    {library : Nat → ConsoleScope → List Item}
    {exchange : Exchange Item Version}
    (sound : Sound library exchange)
    {scope : ConsoleScope}
    {offset generation : Nat}
    {after : ConsoleScopes Item Version}
    (due : exchange.console.Due scope offset)
    (begun : exchange.console.Begun scope offset generation after)
    (request : PageRequest)
    (sent : request ∈ exchange.outstanding)
    (same : request.scope = scope) :
    request.generation ≠ generation := by
  intro carried
  have tagged := begun.tagged
  split at tagged
  case isTrue first =>
      have old := (sound.requests request sent).counted
      omega
  case isFalse later =>
      obtain ⟨idle, due⟩ := due
      unfold ConsoleScopes.log at due tagged idle
      cases found : exchange.console.scopes.lookup scope with
      | none =>
          rw [found] at due
          rcases due with ⟨first, -⟩ | ⟨-, loaded⟩
          · exact later first
          · cases loaded
      | some log =>
          rw [found] at tagged idle
          simp only [Option.getD_some] at tagged idle
          have awaited := (sound.logs scope log found).awaited
          rw [idle] at awaited
          have none := List.countP_eq_zero.mp awaited request sent
          simp [same, carried, tagged] at none

/-- What holds of every log holds of the empty one too. -/
theorem Sound.log
    {library : Nat → ConsoleScope → List Item}
    {exchange : Exchange Item Version}
    (sound : Sound library exchange)
    (scope : ConsoleScope) :
    (exchange.console.log scope).entries <+:
        library exchange.console.source scope ∧
      ((exchange.console.log scope).loaded = false →
        (exchange.console.log scope).entries = [] ∧
          (exchange.console.log scope).nextOffset = none) ∧
      ((exchange.console.log scope).loaded = true →
        ∃ page, exchange.lastPage scope = some page ∧
          CursorAt (library exchange.console.source scope) page
            (exchange.console.log scope)) ∧
      (exchange.console.log scope).generation ≤
        exchange.console.generation := by
  unfold ConsoleScopes.log
  cases found : exchange.console.scopes.lookup scope with
  | none =>
      refine ⟨List.nil_prefix, fun _ => ⟨rfl, rfl⟩, ?_, Nat.zero_le _⟩
      intro loaded
      cases loaded
  | some log =>
      have kept := sound.logs scope log found
      exact ⟨kept.holds, kept.unloaded, kept.cursor, kept.counted⟩

theorem soundLog_send
    {library : Nat → ConsoleScope → List Item}
    {exchange : Exchange Item Version}
    (sound : Sound library exchange)
    {scope : ConsoleScope}
    {offset generation : Nat}
    {after : ConsoleScopes Item Version}
    (due : exchange.console.Due scope offset)
    (begun : exchange.console.Begun scope offset generation after) :
    SoundLog library (exchange.send after [(scope, generation)] offset)
      scope
      { exchange.console.log scope with
        generation := generation
        pending := some generation
        nextOffset :=
          if offset = 0 then none
          else (exchange.console.log scope).nextOffset
        used := exchange.console.clock + 1 } := by
  obtain ⟨-, firstUnloaded⟩ := sound.due_offset due
  obtain ⟨holds, unloaded, cursor, counted⟩ := sound.log scope
  constructor
  · change _ <+: library after.source scope
    rw [begun.source]
    exact holds
  · intro empty
    obtain ⟨nothing, ended⟩ := unloaded empty
    refine ⟨nothing, ?_⟩
    change (if offset = 0 then none else _) = none
    rw [ended, ite_self]
  · intro loaded
    have later : offset ≠ 0 := by
      intro first
      have empty := firstUnloaded first
      rw [empty] at loaded
      cases loaded
    change ∃ page, exchange.lastPage scope = some page ∧
      CursorAt (library after.source scope) page _
    rw [begun.source, if_neg later]
    exact cursor loaded
  · change generation ≤ after.generation
    rw [begun.tagged, begun.counted]
    split
    case isTrue first => exact Nat.le_refl _
    case isFalse later => exact counted
  · change exchange.console.clock + 1 ≤ after.clock
    rw [begun.clock]
  · -- No older request carries the new tag.
    change List.countP _ (exchange.outstanding ++ _) = 1
    rw [List.countP_append, List.countP_eq_zero.mpr]
    · simp
    · intro request sent matching
      simp only [Bool.and_eq_true, decide_eq_true_eq] at matching
      exact sound.not_awaited due begun request sent matching.1 matching.2

theorem soundRequest_send
    {library : Nat → ConsoleScope → List Item}
    {exchange : Exchange Item Version}
    (sound : Sound library exchange)
    {scope : ConsoleScope}
    {offset generation : Nat}
    {after : ConsoleScopes Item Version}
    (due : exchange.console.Due scope offset)
    (begun : exchange.console.Begun scope offset generation after)
    (request : PageRequest)
    (sent : request ∈ exchange.outstanding) :
    SoundRequest (exchange.send after [(scope, generation)] offset)
      request := by
  have old := sound.requests request sent
  constructor
  · change request.generation ≤ after.generation
    rw [begun.counted]
    split
    case isTrue first => exact Nat.le_succ_of_le old.counted
    case isFalse later => exact old.counted
  · intro log found carried
    change after.scopes.lookup request.scope = some log at found
    change request.source = after.source ∧ _
    rw [begun.source]
    by_cases same : request.scope = scope
    · rw [same, begun.own] at found
      cases found
      exact absurd carried (sound.not_awaited due begun request sent same)
    · rcases begun.others request.scope same with kept | ⟨dropped, -⟩
      · rw [kept] at found
        exact old.expected log found carried
      · rw [dropped] at found
        cases found

/-- Beginning a page that is due keeps the invariant. -/
theorem sound_send
    {library : Nat → ConsoleScope → List Item}
    {exchange : Exchange Item Version}
    (sound : Sound library exchange)
    {scope : ConsoleScope}
    {offset generation : Nat}
    {after : ConsoleScopes Item Version}
    (due : exchange.console.Due scope offset)
    (begun : exchange.console.Begun scope offset generation after) :
    Sound library (exchange.send after [(scope, generation)] offset) := by
  have grows : exchange.console.generation ≤ after.generation := by
    rw [begun.counted]
    split <;> omega
  constructor
  · intro other log found
    change after.scopes.lookup other = some log at found
    by_cases same : other = scope
    · subst same
      rw [begun.own] at found
      cases found
      exact soundLog_send sound due begun
    · have kept : exchange.console.scopes.lookup other = some log := by
        rcases begun.others other same with kept | ⟨dropped, -⟩
        · rw [← kept, found]
        · rw [dropped] at found
          cases found
      apply (sound.logs other log kept).advance begun.source grows
      · change exchange.console.clock ≤ after.clock
        rw [begun.clock]
        omega
      · rfl
      · intro otherGeneration
        simp [send, Ne.symm same]
  · intro request sent
    rcases List.mem_append.mp sent with older | sentNow
    · exact soundRequest_send sound due begun request older
    · simp only [List.map_cons, List.map_nil, List.mem_singleton] at sentNow
      subst sentNow
      refine ⟨?_, ?_⟩
      · have counted := (soundLog_send sound due begun).counted
        exact counted
      · intro log found _
        change after.scopes.lookup scope = some log at found
        rw [begun.own] at found
        cases found
        exact ⟨rfl, (sound.due_offset due).1⟩
  · change ∀ scope ∈ after.prefetch, scope.isPlain = true
    rw [begun.prefetch]
    exact sound.queued

/-! ## Steps -/

/-- The invariant is about the pages, the requests and the queue. -/
theorem Sound.withShown
    {library : Nat → ConsoleScope → List Item}
    {exchange : Exchange Item Version}
    (sound : Sound library exchange)
    (ensured : Option ConsoleScope)
    (overtaken : Bool) :
    Sound library
      { exchange with
        ensured := ensured
        overtaken := overtaken } where
  logs := fun scope log found =>
    (sound.logs scope log found).advance rfl (Nat.le_refl _) (Nat.le_refl _)
      rfl fun _ => rfl
  requests := fun request sent =>
    ⟨(sound.requests request sent).counted,
      (sound.requests request sent).expected⟩
  queued := sound.queued

theorem Sound.withPrefetch
    {library : Nat → ConsoleScope → List Item}
    {exchange : Exchange Item Version}
    (sound : Sound library exchange)
    (queue : List ConsoleScope)
    (plain : ∀ scope ∈ queue, scope.isPlain = true) :
    Sound library
      { exchange with
        console := { exchange.console with prefetch := queue } } where
  logs := fun scope log found =>
    (sound.logs scope log found).advance rfl (Nat.le_refl _) (Nat.le_refl _)
      rfl fun _ => rfl
  requests := fun request sent =>
    ⟨(sound.requests request sent).counted,
      (sound.requests request sent).expected⟩
  queued := plain

theorem sound_touch
    {library : Nat → ConsoleScope → List Item}
    {exchange : Exchange Item Version}
    (sound : Sound library exchange)
    (scope : ConsoleScope) :
    Sound library
      { exchange with console := exchange.console.touch scope } := by
  constructor
  · intro other log found
    rw [ConsoleScopes.lookup_touch] at found
    obtain ⟨before, present, rfl⟩ := Option.map_eq_some_iff.mp found
    have kept := sound.logs other before present
    split
    case isTrue same =>
        exact ⟨kept.holds, kept.unloaded, kept.cursor, kept.counted,
          Nat.le_refl _, kept.awaited⟩
    case isFalse different =>
        exact kept.advance rfl (Nat.le_refl _) (Nat.le_succ _) rfl
          fun _ => rfl
  · intro request sent
    have old := sound.requests request sent
    refine ⟨old.counted, ?_⟩
    intro log found carried
    rw [ConsoleScopes.lookup_touch] at found
    obtain ⟨before, present, rfl⟩ := Option.map_eq_some_iff.mp found
    split at carried
    case isTrue same =>
        rw [if_pos same]
        exact old.expected before present carried
    case isFalse different =>
        rw [if_neg different]
        exact old.expected before present carried
  · exact sound.queued

theorem sound_ensure
    {library : Nat → ConsoleScope → List Item}
    {exchange : Exchange Item Version}
    (sound : Sound library exchange)
    (scope : ConsoleScope) :
    Sound library (exchange.ensure scope) := by
  have touched := (sound_touch sound scope).withShown (some scope) false
  unfold ensure
  rcases exchange.console.ensure_cases scope with
    ⟨log, -, cached | loading⟩ | ⟨generation, after, requested, due, begun⟩
  · rw [cached]
    exact touched
  · rw [loading]
    exact touched
  · rw [requested]
    exact sound_send touched due begun

theorem sound_queuePrefetch
    {library : Nat → ConsoleScope → List Item}
    {exchange : Exchange Item Version}
    (sound : Sound library exchange)
    (platforms : List (Option Int)) :
    Sound library
      { exchange with
        console := exchange.console.queuePrefetch platforms } := by
  unfold ConsoleScopes.queuePrefetch
  induction platforms generalizing exchange with
  | nil => exact sound
  | cons platform platforms inductionHypothesis =>
      rw [List.foldl_cons, ConsoleScopes.queueTab]
      split
      case isTrue owed =>
          have queued := sound.withPrefetch
            (exchange.console.prefetch ++ [.plain platform]) (by
              intro scope member
              rcases List.mem_append.mp member with older | added
              · exact sound.queued scope older
              · rw [List.mem_singleton.mp added]
                exact ConsoleScope.isPlain_plain platform)
          exact inductionHypothesis queued
      case isFalse known => exact inductionHypothesis sound

theorem sound_nextPrefetchOf
    {library : Nat → ConsoleScope → List Item}
    (queue : List ConsoleScope)
    (plain : ∀ scope ∈ queue, scope.isPlain = true)
    {exchange : Exchange Item Version}
    (sound : Sound library exchange) :
    Sound library
      (exchange.send
        (ConsoleScopes.nextPrefetchOf queue exchange.console).1
        (ConsoleScopes.nextPrefetchOf queue exchange.console).2 0) := by
  induction queue generalizing exchange with
  | nil =>
      have emptied := sound.withPrefetch [] plain
      simpa [send, ConsoleScopes.nextPrefetchOf] using emptied
  | cons scope queue inductionHypothesis =>
      have rest := fun other member =>
        plain other (List.mem_cons_of_mem scope member)
      rcases ConsoleScopes.nextPrefetchOf_cons_cases scope queue
          exchange.console with
        stops | skips | ⟨generation, after, -, due, begun, begins⟩
      · rw [stops]
        have stopped := sound.withPrefetch (scope :: queue) plain
        simpa [send] using stopped
      · rw [skips]
        exact inductionHypothesis rest sound
      · rw [begins]
        have walked := inductionHypothesis rest (sound_send sound due begun)
        have sameSource := ConsoleScopes.source_nextPrefetchOf queue after
        simpa [send, sameSource] using walked

/-- A page the grid asks for is due. -/
theorem due_of_extendOffset
    {library : Nat → ConsoleScope → List Item}
    {exchange : Exchange Item Version}
    (sound : Sound library exchange)
    {scope : ConsoleScope}
    {endOnScreen : Nat → Bool}
    {offset : Nat}
    (asked : exchange.console.extendOffset scope endOnScreen =
      some offset) :
    exchange.console.Due scope offset := by
  unfold ConsoleScopes.extendOffset at asked
  obtain ⟨log, found, asked⟩ := Option.bind_eq_some_iff.mp asked
  unfold ConsoleListing.extendOffset at asked
  cases next : log.nextOffset with
  | none =>
      rw [next] at asked
      cases asked
  | some cursor =>
      rw [next] at asked
      simp only at asked
      split at asked
      case isTrue waiting => cases asked
      case isFalse idle =>
          split at asked
          case isFalse away => cases asked
          case isTrue reached =>
              cases asked
              unfold ConsoleScopes.Due ConsoleScopes.log
              rw [found]
              refine ⟨by simpa using idle, .inr ⟨next, ?_⟩⟩
              cases loaded : log.loaded with
              | true => exact loaded
              | false =>
                  have ended := ((sound.logs scope log found).unloaded
                    loaded).2
                  rw [next] at ended
                  cases ended

/-- What `loadPage` does with a page that is due. -/
theorem loadPage_of_due
    {exchange : Exchange Item Version}
    {scope : ConsoleScope}
    {offset : Nat}
    (due : exchange.console.Due scope offset) :
    ∃ generation after,
      exchange.console.Begun scope offset generation after ∧
        exchange.loadPage scope offset =
          { exchange.send after [(scope, generation)] offset with
            overtaken := exchange.overtaken ||
              decide (exchange.ensured ≠ some scope) } := by
  obtain ⟨generation, tagged, begun⟩ :=
    exchange.console.begin_spec scope offset (.inr due.1)
  refine ⟨generation, _, begun, ?_⟩
  unfold loadPage
  rw [← Prod.mk.eta (p := exchange.console.begin scope offset), tagged]
  rfl

theorem sound_loadPage
    {library : Nat → ConsoleScope → List Item}
    {exchange : Exchange Item Version}
    (sound : Sound library exchange)
    {scope : ConsoleScope}
    {offset : Nat}
    (due : exchange.console.Due scope offset) :
    Sound library (exchange.loadPage scope offset) := by
  obtain ⟨generation, after, begun, loaded⟩ := loadPage_of_due due
  rw [loaded]
  exact (sound_send sound due begun).withShown _ _

/-! ## Answers -/

/-- A request taken out of those on their way. -/
theorem perm_of_getElem?
    {requests : List PageRequest}
    {index : Nat}
    {request : PageRequest}
    (taken : requests[index]? = some request) :
    (request :: requests.eraseIdx index).Perm requests := by
  obtain ⟨bound, rfl⟩ := List.getElem?_eq_some_iff.mp taken
  exact List.getElem_cons_eraseIdx_perm bound

/-- A request of a sound state, and the requests left beside it. -/
structure Taken
    (library : Nat → ConsoleScope → List Item)
    (exchange : Exchange Item Version)
    (request : PageRequest)
    (rest : List PageRequest) : Prop where
  sound : Sound library exchange
  requests : (request :: rest).Perm exchange.outstanding

namespace Taken

variable {library : Nat → ConsoleScope → List Item}
variable {exchange : Exchange Item Version}
variable {request : PageRequest}
variable {rest : List PageRequest}

/-- Requests of a scope left over when one is taken out. -/
theorem countP_eq
    (taken : Taken library exchange request rest)
    (scope : ConsoleScope)
    (generation : Nat) :
    exchange.outstanding.countP (fun request =>
        decide (request.scope = scope) &&
          decide (request.generation = generation)) =
      rest.countP (fun request =>
          decide (request.scope = scope) &&
            decide (request.generation = generation)) +
        if request.scope = scope ∧ request.generation = generation then 1
        else 0 := by
  rw [← taken.requests.countP_eq, List.countP_cons]
  simp

theorem soundRequest
    (taken : Taken library exchange request rest) :
    SoundRequest exchange request :=
  taken.sound.requests request
    (taken.requests.mem_iff.mp List.mem_cons_self)

/-- The scope of an accepted answer waits for it and for nothing else. -/
theorem awaited
    (taken : Taken library exchange request rest)
    {log : ConsoleListing Item Version}
    (found : exchange.console.scopes.lookup request.scope = some log)
    (carried : request.generation = log.generation) :
    log.pending.isSome = true ∧
      rest.countP (fun other =>
        decide (other.scope = request.scope) &&
          decide (other.generation = log.generation)) = 0 := by
  have awaited := (taken.sound.logs request.scope log found).awaited
  rw [taken.countP_eq, if_pos ⟨rfl, carried⟩] at awaited
  split at awaited
  case isTrue waiting => exact ⟨waiting, by omega⟩
  case isFalse idle => omega

/-- Requests that are not accepted do not count for any scope. -/
theorem countP_of_ignored
    (taken : Taken library exchange request rest)
    {scope : ConsoleScope}
    {generation : Nat}
    (ignored : ¬ (request.scope = scope ∧
      request.generation = generation)) :
    rest.countP (fun request =>
        decide (request.scope = scope) &&
          decide (request.generation = generation)) =
      exchange.outstanding.countP (fun request =>
        decide (request.scope = scope) &&
          decide (request.generation = generation)) := by
  rw [taken.countP_eq, if_neg ignored, Nat.add_zero]

/-- What an answer has to do to the log it is accepted by. -/
structure Answered
    (library : Nat → ConsoleScope → List Item)
    (exchange : Exchange Item Version)
    (request : PageRequest)
    (accepted : List (ConsoleScope × Page Item Version))
    (before after : ConsoleListing Item Version) : Prop where
  pending : after.pending = none
  generation : after.generation = before.generation
  used : after.used = before.used
  holds : after.entries <+: library exchange.console.source request.scope
  unloaded : after.loaded = false →
    after.entries = [] ∧ after.nextOffset = none
  cursor : after.loaded = true →
    ∃ page, lastPage { exchange with accepted := accepted }
        request.scope = some page ∧
      CursorAt (library exchange.console.source request.scope) page after

/-- An answer that does so to the log that waits for it, and nothing to any
other, keeps the invariant. -/
theorem sound_adjust
    (taken : Taken library exchange request rest)
    (change : ConsoleListing Item Version → ConsoleListing Item Version)
    (accepted : List (ConsoleScope × Page Item Version))
    (ignored : ∀ log,
      exchange.console.scopes.lookup request.scope = some log →
      request.generation ≠ log.generation → change log = log)
    (answered : ∀ log,
      exchange.console.scopes.lookup request.scope = some log →
      request.generation = log.generation →
      Answered library exchange request accepted log (change log))
    (pages : ∀ scope log,
      exchange.console.scopes.lookup scope = some log →
      ¬ (request.scope = scope ∧ request.generation = log.generation) →
      lastPage { exchange with accepted := accepted } scope =
        exchange.lastPage scope) :
    Sound library
      { exchange with
        console := exchange.console.adjust request.scope change
        outstanding := rest
        accepted := accepted } := by
  constructor
  · intro scope log found
    rw [ConsoleScopes.lookup_adjust] at found
    obtain ⟨before, present, rfl⟩ := Option.map_eq_some_iff.mp found
    have kept := taken.sound.logs scope before present
    by_cases hit : request.scope = scope ∧
        request.generation = before.generation
    · obtain ⟨rfl, carried⟩ := hit
      have done := answered before present carried
      rw [if_pos rfl]
      refine ⟨done.holds, done.unloaded, done.cursor, ?_, ?_, ?_⟩
      · rw [done.generation]
        exact kept.counted
      · rw [done.used]
        exact kept.usedBefore
      · rw [done.generation, done.pending]
        exact (taken.awaited present carried).2
    · have same : (if scope = request.scope then change before
          else before) = before := by
        split
        case isTrue own =>
            subst own
            apply ignored before present
            intro carried
            exact hit ⟨rfl, carried⟩
        case isFalse other => rfl
      rw [same]
      refine ⟨kept.holds, kept.unloaded, ?_, kept.counted, kept.usedBefore,
        ?_⟩
      · intro loaded
        have last := pages scope before present hit
        change ∃ page, lastPage { exchange with accepted := accepted }
          scope = some page ∧ _
        rw [last]
        exact kept.cursor loaded
      · rw [taken.countP_of_ignored hit]
        exact kept.awaited
  · intro other sent
    have old := taken.sound.requests other
      (taken.requests.mem_iff.mp (List.mem_cons_of_mem _ sent))
    refine ⟨old.counted, ?_⟩
    intro log found carried
    rw [ConsoleScopes.lookup_adjust] at found
    obtain ⟨before, present, rfl⟩ := Option.map_eq_some_iff.mp found
    split at carried
    case isFalse different =>
        rw [if_neg different]
        exact old.expected before present carried
    case isTrue same =>
        rw [if_pos same]
        rw [same] at present
        by_cases hit : request.generation = before.generation
        · -- No second request waits for the scope that was answered.
          have none := (taken.awaited present hit).2
          rw [(answered before present hit).generation] at carried
          have counted := List.countP_eq_zero.mp none other sent
          simp [same, carried] at counted
        · rw [ignored before present hit] at carried ⊢
          rw [← same] at present
          exact old.expected before present carried
  · exact taken.sound.queued

theorem sound_failed
    (taken : Taken library exchange request rest) :
    Sound library
      { exchange with
        console :=
          (exchange.console.failed request.scope request.generation).1
        outstanding := rest } := by
  refine taken.sound_adjust
    (fun log => (log.failed request.generation).1) exchange.accepted ?_ ?_
    fun _ _ _ _ => rfl
  · intro log _ stale
    rw [ConsoleListing.failed, if_pos stale]
  · intro log found carried
    have kept := taken.sound.logs request.scope log found
    rw [ConsoleListing.failed, if_neg (not_not_intro carried)]
    exact ⟨rfl, rfl, rfl, kept.holds, kept.unloaded, kept.cursor⟩

end Taken

/-- The next records of a list, put behind its beginning. -/
theorem append_take_drop_prefix
    {entries records : List Item}
    (holds : entries <+: records)
    (length : Nat) :
    entries ++ (records.drop entries.length).take length <+: records := by
  have rest : entries ++ records.drop entries.length = records :=
    List.prefix_iff_eq_append.mp holds
  have grown := (List.prefix_append_right_inj entries).mpr
    (List.take_prefix length (records.drop entries.length))
  rwa [rest] at grown

/-- A page that continues what is loaded is put behind it. -/
theorem entries_apply
    {log : ConsoleListing Item Version}
    {page : Page Item Version}
    (place : page.offset = log.entries.length) :
    (log.apply log.generation page).1.entries =
      log.entries ++ page.entries := by
  simp only [ConsoleListing.apply, ne_eq, not_true_eq_false, if_false]
  by_cases first : page.offset = 0
  · have empty : log.entries = [] :=
      List.eq_nil_of_length_eq_zero (place.symm.trans first)
    simp [first, empty]
  · simp [first]

/-- The cursor after a page that continues what is loaded. -/
theorem cursorAt_apply
    {records : List Item}
    {log : ConsoleListing Item Version}
    {page : Page Item Version}
    (short : records.length ≤ 2 ^ 32)
    (total : page.total = records.length)
    (place : page.offset = log.entries.length)
    (holds : log.entries ++ page.entries <+: records) :
    CursorAt records page (log.apply log.generation page).1 := by
  have loaded : page.offset + page.entries.length =
      (log.entries ++ page.entries).length := by
    rw [List.length_append, place]
  have next : (log.apply log.generation page).1.nextOffset =
      if !page.entries.isEmpty &&
          decide ((log.entries ++ page.entries).length < records.length) then
        some ((log.entries ++ page.entries).length % 2 ^ 32)
      else
        none := by
    simp only [ConsoleListing.apply, ne_eq, not_true_eq_false, if_false,
      loaded, total]
  unfold CursorAt
  rw [next, entries_apply place]
  split
  case isTrue more =>
      simp only [Bool.and_eq_true, Bool.not_eq_true', decide_eq_true_eq,
        List.isEmpty_eq_false_iff] at more
      obtain ⟨filled, below⟩ := more
      have positive := List.length_pos_of_ne_nil filled
      refine .inl ⟨?_, ?_, filled, ?_⟩
      · rw [Nat.mod_eq_of_lt (Nat.lt_of_lt_of_le below short)]
      · rw [List.length_append]
        omega
      · intro complete
        rw [complete] at below
        omega
  case isFalse ended =>
      refine .inr ⟨rfl, ?_⟩
      simp only [Bool.and_eq_true, Bool.not_eq_true', decide_eq_true_eq,
        List.isEmpty_eq_false_iff, not_and, not_lt] at ended
      by_cases filled : page.entries = []
      · exact .inl filled
      · exact .inr (holds.eq_of_length_le (ended filled))

namespace Taken

variable {library : Nat → ConsoleScope → List Item}
variable {exchange : Exchange Item Version}
variable {request : PageRequest}
variable {rest : List PageRequest}

/-- What an accepted page does to its log. -/
theorem answered_page
    (taken : Taken library exchange request rest)
    (short : ∀ source scope, (library source scope).length ≤ 2 ^ 32)
    (length : Nat)
    (versions : Table String (List Version))
    {log : ConsoleListing Item Version}
    (found : exchange.console.scopes.lookup request.scope = some log)
    (carried : request.generation = log.generation) :
    Answered library exchange request
      ((request.scope, pageFor library request length versions) ::
        exchange.accepted)
      log
      (log.apply request.generation
        (pageFor library request length versions)).1 := by
  have kept := taken.sound.logs request.scope log found
  obtain ⟨source, place⟩ := taken.soundRequest.expected log found carried
  have holds : log.entries ++
      (pageFor library request length versions).entries <+:
      library exchange.console.source request.scope := by
    have grown := append_take_drop_prefix kept.holds length
    rw [← place, ← source] at grown
    rw [← source]
    exact grown
  have total : (pageFor library request length versions).total =
      (library exchange.console.source request.scope).length := by
    rw [← source]
    rfl
  rw [carried]
  refine ⟨?_, ?_, ?_, ?_, ?_, ?_⟩
  · simp [ConsoleListing.apply]
  · simp [ConsoleListing.apply]
  · simp [ConsoleListing.apply]
  · rw [entries_apply place]
    exact holds
  · simp [ConsoleListing.apply]
  · intro _
    refine ⟨pageFor library request length versions, ?_, ?_⟩
    · simp [lastPage]
    · exact cursorAt_apply (short _ _) total place holds

theorem sound_page
    (taken : Taken library exchange request rest)
    (short : ∀ source scope, (library source scope).length ≤ 2 ^ 32)
    (length : Nat)
    (versions : Table String (List Version)) :
    Sound library
      (deliver library { exchange with outstanding := rest } request
        (.page length versions)) := by
  unfold deliver
  simp only
  refine taken.sound_adjust
    (fun log => (log.apply request.generation
      (pageFor library request length versions)).1) _ ?_ ?_ ?_
  · intro log _ stale
    rw [ConsoleListing.apply, if_pos stale]
  · intro log found carried
    have taken := taken.answered_page short length versions found carried
    have accepted : (exchange.console.apply request.scope request.generation
        (pageFor library request length versions)).2 = true := by
      simp [ConsoleScopes.apply, ConsoleListing.apply, found, carried]
    rw [if_pos accepted]
    exact taken
  · intro scope log found ignored
    unfold lastPage
    split
    case isFalse dropped => rfl
    case isTrue accepted =>
        have other : request.scope ≠ scope := by
          rintro rfl
          have stale : request.generation ≠ log.generation :=
            fun carried => ignored ⟨rfl, carried⟩
          simp [ConsoleScopes.apply, ConsoleListing.apply, found, stale]
            at accepted
        simp [other]

end Taken

/-- Every step keeps the invariant. -/
theorem sound_step
    {library : Nat → ConsoleScope → List Item}
    (short : ∀ source scope, (library source scope).length ≤ 2 ^ 32)
    {exchange : Exchange Item Version}
    (sound : Sound library exchange)
    (step : PagingStep Version) :
    Sound library (exchange.step library step) := by
  cases step with
  | ensure scope => exact sound_ensure sound scope
  | queuePrefetch platforms => exact sound_queuePrefetch sound platforms
  | nextPrefetch =>
      exact sound_nextPrefetchOf exchange.console.prefetch sound.queued sound
  | extend scope endOnScreen =>
      rw [step]
      cases asked : exchange.console.extendOffset scope endOnScreen with
      | none => exact sound
      | some offset =>
          exact sound_loadPage sound (due_of_extendOffset sound asked)
  | answer index reply =>
      rw [step]
      cases found : exchange.outstanding[index]? with
      | none => exact sound
      | some request =>
          have taken : Taken library exchange request
              (exchange.outstanding.eraseIdx index) :=
            ⟨sound, perm_of_getElem? found⟩
          cases reply with
          | failed => exact taken.sound_failed
          | page length versions =>
              exact taken.sound_page short length versions
  | invalidate =>
      refine ⟨?_, ?_, ?_⟩
      · intro scope log found
        cases found
      · intro request sent
        refine ⟨(sound.requests request sent).counted, ?_⟩
        intro log found
        cases found
      · intro scope member
        cases member

/-! ## What is never dropped -/

/-- An answer adds and drops no scope, and does not change when one was
used. -/
theorem lookup_deliver
    (library : Nat → ConsoleScope → List Item)
    (exchange : Exchange Item Version)
    (request : PageRequest)
    (reply : Reply Version) :
    ∃ change : ConsoleScope → ConsoleListing Item Version →
        ConsoleListing Item Version,
      (∀ scope log, (change scope log).used = log.used) ∧
        ∀ scope, (deliver library exchange request
            reply).console.scopes.lookup scope =
          (exchange.console.scopes.lookup scope).map (change scope) := by
  cases reply with
  | failed =>
      refine ⟨_, ?_, fun scope => ConsoleScopes.lookup_adjust
        exchange.console request.scope scope fun log =>
          (log.failed request.generation).1⟩
      intro scope log
      simp only [ConsoleListing.failed]
      split_ifs <;> rfl
  | page length versions =>
      refine ⟨_, ?_, fun scope => ConsoleScopes.lookup_adjust
        exchange.console request.scope scope fun log =>
          (log.apply request.generation
            (pageFor library request length versions)).1⟩
      intro scope log
      simp only [ConsoleListing.apply]
      split_ifs <;> rfl

/-- No step but a change of the connection drops a tab or a scope that waits
for a page. -/
theorem pinned_step
    {library : Nat → ConsoleScope → List Item}
    {exchange : Exchange Item Version}
    (sound : Sound library exchange)
    {scope : ConsoleScope}
    (pinned : exchange.console.Pinned scope)
    (step : PagingStep Version)
    (connected : step ≠ .invalidate) :
    ∃ log, (exchange.step library step).console.scopes.lookup scope =
      some log := by
  cases step with
  | invalidate => exact absurd rfl connected
  | ensure shown =>
      rcases exchange.console.ensure_cases shown with
        ⟨log, -, cached | loading⟩ | ⟨generation, after, requested, -, begun⟩
      · obtain ⟨log, found, -⟩ := pinned.touch shown
        refine ⟨log, ?_⟩
        simpa [Exchange.step, ensure, cached] using found
      · obtain ⟨log, found, -⟩ := pinned.touch shown
        refine ⟨log, ?_⟩
        simpa [Exchange.step, ensure, loading] using found
      · obtain ⟨log, found, -⟩ := (pinned.touch shown).begun begun
        refine ⟨log, ?_⟩
        simpa [Exchange.step, ensure, requested, send] using found
  | queuePrefetch platforms =>
      obtain ⟨log, found, -⟩ := pinned
      refine ⟨log, ?_⟩
      change (exchange.console.queuePrefetch platforms).scopes.lookup _ = _
      rw [ConsoleScopes.scopes_queuePrefetch]
      exact found
  | nextPrefetch =>
      obtain ⟨log, found, -⟩ :=
        pinned.nextPrefetchOf exchange.console.prefetch
      exact ⟨log, found⟩
  | extend paged endOnScreen =>
      rw [Exchange.step]
      cases asked : exchange.console.extendOffset paged endOnScreen with
      | none =>
          obtain ⟨log, found, -⟩ := pinned
          exact ⟨log, found⟩
      | some offset =>
          obtain ⟨generation, after, begun, loaded⟩ :=
            loadPage_of_due (due_of_extendOffset sound asked)
          obtain ⟨log, found, -⟩ := pinned.begun begun
          refine ⟨log, ?_⟩
          simpa [loaded, send] using found
  | answer index reply =>
      obtain ⟨log, found, -⟩ := pinned
      rw [Exchange.step]
      cases exchange.outstanding[index]? with
      | none => exact ⟨log, found⟩
      | some request =>
          obtain ⟨change, -, changed⟩ := lookup_deliver library
            { exchange with
              outstanding := exchange.outstanding.eraseIdx index }
            request reply
          refine ⟨change scope log, ?_⟩
          change (deliver _ _ _ _).console.scopes.lookup scope = _
          rw [changed, found]
          rfl

/-- The scope shown last is the most recently used query, until the page of
another scope is begun by scrolling. -/
def Recent (exchange : Exchange Item Version) : Prop :=
  exchange.overtaken = false → ∀ scope, exchange.ensured = some scope →
    ∃ log, exchange.console.scopes.lookup scope = some log ∧
      exchange.console.Newest scope log

theorem Sound.stamped
    {library : Nat → ConsoleScope → List Item}
    {exchange : Exchange Item Version}
    (sound : Sound library exchange) :
    exchange.console.Stamped :=
  fun scope log found => (sound.logs scope log found).usedBefore

theorem recent_ensure
    {library : Nat → ConsoleScope → List Item}
    {exchange : Exchange Item Version}
    (sound : Sound library exchange)
    (scope : ConsoleScope) :
    Recent (exchange.ensure scope) := by
  unfold ensure
  rcases exchange.console.ensure_cases scope with
    ⟨log, found, cached | loading⟩ | ⟨generation, after, requested, -, begun⟩
  · rw [cached]
    intro _ shown same
    cases same
    exact ConsoleScopes.newest_touch sound.stamped found
  · rw [loading]
    intro _ shown same
    cases same
    exact ConsoleScopes.newest_touch sound.stamped found
  · rw [requested]
    intro _ shown same
    cases same
    exact ConsoleScopes.newest_of_begun (sound.stamped.touch scope) begun

theorem newest_nextPrefetchOf
    (queue : List ConsoleScope)
    (plain : ∀ tab ∈ queue, tab.isPlain = true)
    {console : ConsoleScopes Item Version}
    (stamped : console.Stamped)
    (scope : ConsoleScope)
    (recent : ∃ log, console.scopes.lookup scope = some log ∧
      console.Newest scope log) :
    ∃ log,
      (ConsoleScopes.nextPrefetchOf queue console).1.scopes.lookup scope =
          some log ∧
        (ConsoleScopes.nextPrefetchOf queue console).1.Newest scope log := by
  induction queue generalizing console with
  | nil => exact recent
  | cons tab queue inductionHypothesis =>
      have rest := fun other member =>
        plain other (List.mem_cons_of_mem tab member)
      rcases ConsoleScopes.nextPrefetchOf_cons_cases tab queue console with
        stops | skips | ⟨generation, after, few, -, begun, begins⟩
      · rw [stops]
        exact recent
      · rw [skips]
        exact inductionHypothesis rest stamped recent
      · rw [begins]
        apply inductionHypothesis rest (stamped.begun begun)
        by_cases same : scope = tab
        · subst same
          exact ConsoleScopes.newest_of_begun stamped begun
        · obtain ⟨log, found, newest⟩ := recent
          exact ⟨log, ConsoleScopes.newest_prefetch begun
            (plain tab List.mem_cons_self) few same found newest⟩

theorem recent_step
    {library : Nat → ConsoleScope → List Item}
    {exchange : Exchange Item Version}
    (sound : Sound library exchange)
    (recent : Recent exchange)
    (step : PagingStep Version) :
    Recent (exchange.step library step) := by
  cases step with
  | ensure scope => exact recent_ensure sound scope
  | queuePrefetch platforms =>
      unfold Recent ConsoleScopes.Newest at recent ⊢
      simp only [Exchange.step, ConsoleScopes.scopes_queuePrefetch]
      exact recent
  | nextPrefetch =>
      intro current scope shown
      exact newest_nextPrefetchOf exchange.console.prefetch sound.queued
        sound.stamped scope (recent current scope shown)
  | extend scope endOnScreen =>
      rw [Exchange.step]
      cases asked : exchange.console.extendOffset scope endOnScreen with
      | none => exact recent
      | some offset =>
          obtain ⟨generation, after, begun, loaded⟩ :=
            loadPage_of_due (due_of_extendOffset sound asked)
          change Recent (exchange.loadPage scope offset)
          rw [loaded]
          intro current shown same
          simp only [Bool.or_eq_false_iff, decide_eq_false_iff_not,
            not_not] at current
          change exchange.ensured = some shown at same
          rw [current.2] at same
          cases same
          exact ConsoleScopes.newest_of_begun sound.stamped begun
  | answer index reply =>
      rw [Exchange.step]
      cases exchange.outstanding[index]? with
      | none => exact recent
      | some request =>
          obtain ⟨change, sameUse, changed⟩ := lookup_deliver library
            { exchange with
              outstanding := exchange.outstanding.eraseIdx index }
            request reply
          change Recent (deliver _ _ _ _)
          intro current scope shown
          have before : ∃ log, exchange.console.scopes.lookup scope =
              some log ∧ exchange.console.Newest scope log := by
            cases reply with
            | failed => exact recent current scope shown
            | page length versions => exact recent current scope shown
          obtain ⟨log, found, newest⟩ := before
          refine ⟨change scope log, by rw [changed, found]; rfl, ?_⟩
          intro other otherLog different query held
          rw [changed] at held
          obtain ⟨old, present, rfl⟩ := Option.map_eq_some_iff.mp held
          rw [sameUse, sameUse]
          exact newest other old different query present
  | invalidate =>
      intro _ scope shown
      cases shown

/-! ## Runs -/

/-- Whether a scope waits for a page. -/
def waiting
    (exchange : Exchange Item Version)
    (scope : ConsoleScope) : Bool :=
  (exchange.console.scopes.lookup scope).any fun log => log.pending.isSome

/-- What the protocol promises in a state. -/
structure Exact
    (library : Nat → ConsoleScope → List Item)
    (exchange : Exchange Item Version) : Prop where
  /-- A scope holds the beginning of its list on the current connection. -/
  entries : ∀ scope, exchange.console.entries scope <+:
    library exchange.console.source scope
  /-- Of the requests on their way, a scope that waits for a page would accept
  exactly one page, and any other scope none. -/
  pages : ∀ scope page,
    exchange.outstanding.countP (fun request =>
        decide (request.scope = scope) &&
          (exchange.console.apply scope request.generation page).2) =
      if exchange.waiting scope then 1 else 0
  /-- The same for the failure of a request. -/
  failures : ∀ scope,
    exchange.outstanding.countP (fun request =>
        decide (request.scope = scope) &&
          (exchange.console.failed scope request.generation).2) =
      if exchange.waiting scope then 1 else 0
  /-- A loaded scope that waits for nothing goes on at the end of what is
  loaded, unless its last page was empty or completed its list. -/
  cursor : ∀ scope log, exchange.console.scopes.lookup scope = some log →
    log.loaded = true → log.pending = none →
    ∃ page, exchange.lastPage scope = some page ∧
      CursorAt (library exchange.console.source scope) page log
  /-- Tabs and scopes that wait for a page are not dropped. -/
  pinned : ∀ step, step ≠ .invalidate →
    ∀ scope log, exchange.console.scopes.lookup scope = some log →
      (scope.isPlain = true ∨ log.pending.isSome = true) →
      ∃ after, (exchange.step library step).console.scopes.lookup scope =
        some after

/-- The scope shown last is still there. -/
def EnsuredKept (exchange : Exchange Item Version) : Prop :=
  ∀ scope, exchange.ensured = some scope →
    ∃ log, exchange.console.scopes.lookup scope = some log

/-- Requests of a scope that carry the generation of its log are the ones it
waits for. -/
theorem Sound.countP_accepted
    {library : Nat → ConsoleScope → List Item}
    {exchange : Exchange Item Version}
    (sound : Sound library exchange)
    (scope : ConsoleScope)
    (accepts : Nat → Bool)
    (matching : ∀ generation, accepts generation =
      (exchange.console.scopes.lookup scope).any fun log =>
        decide (generation = log.generation)) :
    exchange.outstanding.countP (fun request =>
        decide (request.scope = scope) && accepts request.generation) =
      if exchange.waiting scope then 1 else 0 := by
  unfold waiting
  cases found : exchange.console.scopes.lookup scope with
  | none =>
      simp [matching, found]
  | some log =>
      have awaited := (sound.logs scope log found).awaited
      simp only [matching, found, Option.any_some]
      exact awaited

theorem Sound.exact
    {library : Nat → ConsoleScope → List Item}
    {exchange : Exchange Item Version}
    (sound : Sound library exchange) :
    Exact library exchange where
  entries := by
    intro scope
    unfold ConsoleScopes.entries
    cases found : exchange.console.scopes.lookup scope with
    | none => exact List.nil_prefix
    | some log => exact (sound.logs scope log found).holds
  pages := by
    intro scope page
    apply sound.countP_accepted scope fun generation =>
      (exchange.console.apply scope generation page).2
    intro generation
    simp only [ConsoleScopes.apply]
    congr 1
    funext log
    simp only [ConsoleListing.apply]
    by_cases same : generation = log.generation
    · simp [same]
    · simp [same]
  failures := by
    intro scope
    apply sound.countP_accepted scope fun generation =>
      (exchange.console.failed scope generation).2
    intro generation
    simp only [ConsoleScopes.failed]
    congr 1
    funext log
    simp only [ConsoleListing.failed]
    by_cases same : generation = log.generation
    · simp [same]
    · simp [same]
  cursor := fun scope log found loaded _ =>
    (sound.logs scope log found).cursor loaded
  pinned := fun step connected _ log found reason =>
    pinned_step sound ⟨log, found, reason⟩ step connected

end Exchange

/-- In every run over lists a 32-bit offset can count, the cache of console
pages is exact, and the scope shown last is kept until the page of another
scope is begun by scrolling. -/
theorem console_paging_exact
    (library : Nat → ConsoleScope → List Item)
    (short : ∀ source scope, (library source scope).length ≤ 2 ^ 32)
    (steps : List (PagingStep Version)) :
    ((paging library).run steps).Exact library ∧
      (((paging library).run steps).overtaken = false →
        ((paging library).run steps).EnsuredKept) := by
  have kept := Machine.run_induction
    (paging library : Machine (Exchange Item Version) _ _)
    (fun exchange => exchange.Sound library ∧ exchange.Recent)
    ⟨Exchange.sound_new library, fun _ _ shown => by cases shown⟩
    (fun exchange step invariant =>
      ⟨Exchange.sound_step short invariant.1 step,
        Exchange.recent_step invariant.1 invariant.2 step⟩)
    steps
  refine ⟨kept.1.exact, ?_⟩
  intro current scope shown
  obtain ⟨log, found, -⟩ := kept.2 current scope shown
  exact ⟨log, found⟩

/-- A search on the landing tab. -/
def query (term : String) : ConsoleScope where
  platform := none
  search := term
  facets := ∅

/-- Two pages of a list of two records. -/
theorem console_paging_exact_two_pages :
    ((paging fun _ _ => [1, 2]).run
      ([.ensure (query "zelda"), .answer 0 (.page 1 ∅),
        .extend (query "zelda") fun _ => true,
        .answer 0 (.page 1 ∅)] : List (PagingStep Unit))).Exact
      fun _ _ => [1, 2] :=
  (console_paging_exact (fun _ _ => [1, 2]) (by intros; decide) _).1

/-- Nine searches are shown, the last one and the first one answered, and the
first one scrolled while the others still wait. -/
def crowdedSearches : List (PagingStep Unit) :=
  (["a", "b", "c", "d", "e", "f", "g", "h", "last"].map fun term =>
    .ensure (query term)) ++
  [.answer 8 (.page 1 ∅), .answer 0 (.page 1 ∅),
    .extend (query "a") fun _ => true]

/-- The cursor after the first page of a tab. -/
theorem cursor_first_page
    (records : List Nat)
    (length : Nat)
    (filled : 0 < length)
    (more : length < records.length) :
    ∃ log,
      ((paging fun _ _ => records).run
          ([.ensure (.plain none), .answer 0 (.page length ∅)] :
            List (PagingStep Unit))).console.scopes.lookup (.plain none) =
        some log ∧
      log.loaded = true ∧ log.pending = none ∧
      log.entries.length = length ∧
      log.nextOffset = some (length % 2 ^ 32) := by
  have page : (records.take length).length = length := by
    rw [List.length_take]
    omega
  have nonempty : (records.take length).isEmpty = false := by
    rw [List.isEmpty_eq_false_iff, ← List.length_pos_iff, page]
    exact filled
  refine ⟨_, rfl, rfl, rfl, page, ?_⟩
  change (if !(records.take length).isEmpty &&
      decide (0 + (records.take length).length < records.length) then
    some ((0 + (records.take length).length) % 2 ^ 32) else none) = _
  rw [page, nonempty, Nat.zero_add, if_pos (by simpa using more)]

/-- The search shown last can be dropped when another one is scrolled, and an
offset past 32 bits starts over. -/
theorem search_dropped_and_offset_wraps :
    ¬ (∀ steps : List (PagingStep Unit),
        ((paging fun _ _ => [1, 2]).run steps).EnsuredKept) ∧
      ¬ (∀ (library : Nat → ConsoleScope → List Nat)
          (steps : List (PagingStep Unit)),
        ((paging library).run steps).Exact library) := by
  constructor
  · intro kept
    obtain ⟨log, found⟩ := kept crowdedSearches (query "last")
      (by decide)
    have dropped : (((paging fun _ _ => [1, 2]).run
        crowdedSearches).console.scopes.lookup (query "last")).isNone =
        true := by
      decide
    rw [found] at dropped
    cases dropped
  · intro exact
    obtain ⟨log, found, loaded, idle, held, next⟩ :=
      cursor_first_page (List.range (2 ^ 32 + 6)) (2 ^ 32 + 5)
        (by omega) (by rw [List.length_range]; omega)
    obtain ⟨page, -, cursor⟩ := (exact _ _).cursor _ log found loaded idle
    rcases cursor with ⟨atEnd, -⟩ | ⟨ended, -⟩
    · rw [next, held] at atEnd
      have wrapped := Option.some.inj atEnd
      omega
    · rw [next] at ended
      cases ended

end Frontend
end Hearthdeck
