import Hearthdeck.Frontend.Console

/-!
# What the page cache does

How each operation of the cache changes the log of a scope: what an eviction
may drop, what beginning a page leaves, which scope is the most recently used.
The protocol with the daemon and the grid that draws a scope are both about
these.
-/

namespace Hearthdeck
namespace Frontend

open Foundation

variable {Item Version : Type}

/-! ## Eviction -/

namespace ConsoleScopes

@[simp] theorem lookup_adjust
    (console : ConsoleScopes Item Version)
    (scope other : ConsoleScope)
    (change : ConsoleListing Item Version → ConsoleListing Item Version) :
    (console.adjust scope change).scopes.lookup other =
      (console.scopes.lookup other).map fun log =>
        if other = scope then change log else log := by
  simp [adjust]

@[simp] theorem lookup_touch
    (console : ConsoleScopes Item Version)
    (scope other : ConsoleScope) :
    (console.touch scope).scopes.lookup other =
      (console.scopes.lookup other).map fun log =>
        if other = scope then { log with used := console.clock + 1 }
        else log := by
  simp [touch]

@[simp] theorem inflight_touch
    (console : ConsoleScopes Item Version)
    (scope : ConsoleScope) :
    (console.touch scope).inflight = console.inflight := by
  apply Table.count_mapValues
  intro other log
  split
  case isTrue same => rfl
  case isFalse different => rfl

/-- What an eviction does to a scope: nothing, or it is dropped, and then it
was a query that waited for no page. -/
def KeptOrDropped
    (before after : ConsoleScopes Item Version)
    (scope : ConsoleScope) : Prop :=
  after.scopes.lookup scope = before.scopes.lookup scope ∨
    (after.scopes.lookup scope = none ∧
      ∃ log, before.scopes.lookup scope = some log ∧
        log.pending = none ∧ scope.isPlain = false)

/-- Two caches that differ in their logs only. -/
structure SameClocks (before after : ConsoleScopes Item Version) : Prop where
  prefetch : after.prefetch = before.prefetch
  clock : after.clock = before.clock
  generation : after.generation = before.generation
  source : after.source = before.source

theorem oldest_spec
    {console : ConsoleScopes Item Version}
    {victim : ConsoleScope}
    (found : console.oldest = some victim) :
    ∃ log, console.scopes.lookup victim = some log ∧
      victim.isPlain = false ∧ log.pending = none ∧
      ∀ other otherLog, console.scopes.lookup other = some otherLog →
        other.isPlain = false → otherLog.pending = none →
        log.used ≤ otherLog.used := by
  unfold oldest at found
  obtain ⟨⟨scope, log⟩, least, rfl⟩ := Option.map_eq_some_iff.mp found
  have member := List.argmin_mem least
  simp only [List.mem_filter, Bool.and_eq_true, Bool.not_eq_true',
    Option.isNone_iff_eq_none] at member
  refine ⟨log, AList.mem_lookup_iff.mpr member.1, member.2.1, member.2.2, ?_⟩
  intro other otherLog present query idle
  have candidate : (⟨other, otherLog⟩ :
      Sigma fun _ : ConsoleScope => ConsoleListing Item Version) ∈
      console.scopes.entries.filter fun entry =>
        !entry.1.isPlain && entry.2.pending.isNone := by
    simp [query, idle, AList.mem_lookup_iff.mp present]
  have ordered := List.le_of_mem_argmin candidate least
  exact ordered

theorem evictRounds_keptOrDropped
    (rounds : Nat)
    (console : ConsoleScopes Item Version)
    (scope : ConsoleScope) :
    KeptOrDropped console (evictRounds rounds console) scope := by
  induction rounds generalizing console with
  | zero => exact .inl rfl
  | succ rounds inductionHypothesis =>
      rw [evictRounds]
      split
      case isFalse few => exact .inl rfl
      case isTrue many =>
          cases found : console.oldest with
          | none => exact .inl rfl
          | some victim =>
              obtain ⟨log, present, query, idle, -⟩ := oldest_spec found
              have later := inductionHypothesis
                { console with scopes := console.scopes.erase victim }
              unfold KeptOrDropped at later ⊢
              simp only [Table.lookup_erase_eq_ite] at later ⊢
              split at later
              case isTrue same =>
                  subst same
                  refine .inr ⟨?_, log, present, idle, query⟩
                  rcases later with gone | ⟨gone, -⟩
                  · exact gone
                  · exact gone
              case isFalse other => exact later

theorem evictRounds_sameClocks
    (rounds : Nat)
    (console : ConsoleScopes Item Version) :
    SameClocks console (evictRounds rounds console) := by
  induction rounds generalizing console with
  | zero => exact ⟨rfl, rfl, rfl, rfl⟩
  | succ rounds inductionHypothesis =>
      rw [evictRounds]
      split
      case isFalse few => exact ⟨rfl, rfl, rfl, rfl⟩
      case isTrue many =>
          cases console.oldest with
          | none => exact ⟨rfl, rfl, rfl, rfl⟩
          | some victim =>
              have later := inductionHypothesis
                { console with scopes := console.scopes.erase victim }
              exact ⟨later.prefetch, later.clock, later.generation,
                later.source⟩

/-- The rounds are enough: at the end few enough queries are left, or all of
them wait for a page. -/
theorem evict_done
    (console : ConsoleScopes Item Version) :
    console.evict.narrowed ≤ maxNarrowedScopes ∨
      console.evict.oldest = none := by
  have rounds : ∀ rounds (console : ConsoleScopes Item Version),
      console.narrowed ≤ rounds →
      (evictRounds rounds console).narrowed ≤ maxNarrowedScopes ∨
        (evictRounds rounds console).oldest = none := by
    intro rounds
    induction rounds with
    | zero =>
        intro console enough
        exact .inl (Nat.le_trans enough (Nat.zero_le _))
    | succ rounds inductionHypothesis =>
        intro console enough
        rw [evictRounds]
        split
        case isFalse few => exact .inl (Nat.le_of_not_lt few)
        case isTrue many =>
            cases found : console.oldest with
            | none => exact .inr found
            | some victim =>
                obtain ⟨log, present, query, -, -⟩ := oldest_spec found
                apply inductionHypothesis
                have fewer := Table.count_erase_of_lookup_eq_some
                  (fun scope _ => !scope.isPlain) console.scopes victim log
                  present
                simp only [query, Bool.not_false, if_true] at fewer
                unfold narrowed at enough ⊢
                change console.scopes.count _ ≤ _ at enough
                change Table.count _ (console.scopes.erase victim) ≤ _
                omega
  exact rounds console.narrowed console (Nat.le_refl _)

/-- Every query but the scope itself was used before it. -/
def Newest
    (console : ConsoleScopes Item Version)
    (scope : ConsoleScope)
    (log : ConsoleListing Item Version) : Prop :=
  ∀ other otherLog, other ≠ scope → other.isPlain = false →
    console.scopes.lookup other = some otherLog → otherLog.used < log.used

/-- A scope that no eviction can drop: the most recently used query while few
scopes wait for a page. -/
structure Freshest
    (console : ConsoleScopes Item Version)
    (scope : ConsoleScope)
    (log : ConsoleListing Item Version) : Prop where
  few : console.inflight ≤ maxPrefetchInflight
  newest : console.Newest scope log

theorem oldest_ne_of_freshest
    {console : ConsoleScopes Item Version}
    {scope victim : ConsoleScope}
    {log : ConsoleListing Item Version}
    (freshest : console.Freshest scope log)
    (present : console.scopes.lookup scope = some log)
    (many : maxNarrowedScopes < console.narrowed)
    (found : console.oldest = some victim) :
    scope ≠ victim := by
  have split : console.narrowed ≤
      console.inflight +
        console.scopes.count fun scope log =>
          !scope.isPlain && log.pending.isNone := by
    apply Table.count_le_add
    intro key value query
    cases value.pending with
    | none => exact .inr (by simpa using query)
    | some generation => exact .inl rfl
  have few := freshest.few
  unfold maxNarrowedScopes at many
  unfold maxPrefetchInflight at few
  obtain ⟨other, otherLog, different, held, droppable⟩ :=
    Table.exists_of_two_le_count _ console.scopes scope
      (show 2 ≤ console.scopes.count fun scope log =>
        !scope.isPlain && log.pending.isNone by omega)
  simp only [Bool.and_eq_true, Bool.not_eq_true',
    Option.isNone_iff_eq_none] at droppable
  obtain ⟨victimLog, victimPresent, -, -, least⟩ := oldest_spec found
  rintro rfl
  rw [present] at victimPresent
  cases victimPresent
  have older := freshest.newest other otherLog different droppable.1 held
  have oldest := least other otherLog held droppable.1 droppable.2
  omega

/-- The most recently used query outlives an eviction. -/
theorem lookup_evictRounds_of_freshest
    (rounds : Nat)
    (console : ConsoleScopes Item Version)
    (scope : ConsoleScope)
    (log : ConsoleListing Item Version)
    (freshest : console.Freshest scope log)
    (present : console.scopes.lookup scope = some log) :
    (evictRounds rounds console).scopes.lookup scope = some log := by
  induction rounds generalizing console with
  | zero => exact present
  | succ rounds inductionHypothesis =>
      rw [evictRounds]
      split
      case isFalse few => exact present
      case isTrue many =>
          cases found : console.oldest with
          | none => exact present
          | some victim =>
              have different := oldest_ne_of_freshest freshest present many
                found
              apply inductionHypothesis
              · refine ⟨Nat.le_trans (Table.count_erase_le _ _ _)
                  freshest.few, ?_⟩
                intro other otherLog distinct query held
                rw [Table.lookup_erase_eq_ite] at held
                split at held
                case isTrue same => cases held
                case isFalse kept =>
                    exact freshest.newest other otherLog distinct query held
              · rw [Table.lookup_erase_eq_ite, if_neg different]
                exact present

/-! ## Beginning a page -/

/-- The log of a scope, or an empty one. -/
def log
    (console : ConsoleScopes Item Version)
    (scope : ConsoleScope) : ConsoleListing Item Version :=
  (console.scopes.lookup scope).getD .new

/-- A load was begun: the scope waits for it, and nothing else happened but
an eviction. -/
structure Begun
    (before : ConsoleScopes Item Version)
    (scope : ConsoleScope)
    (offset generation : Nat)
    (after : ConsoleScopes Item Version) : Prop where
  own : after.scopes.lookup scope = some
    { before.log scope with
      generation := generation
      pending := some generation
      nextOffset :=
        if offset = 0 then none else (before.log scope).nextOffset
      used := before.clock + 1 }
  others : ∀ other, other ≠ scope → KeptOrDropped before after other
  counted : after.generation =
    if offset = 0 then before.generation + 1 else before.generation
  tagged : generation =
    if offset = 0 then before.generation + 1
    else (before.log scope).generation
  clock : after.clock = before.clock + 1
  source : after.source = before.source
  prefetch : after.prefetch = before.prefetch
  /-- With few scopes waiting, a tab's page drops no most recently used
  query. -/
  spared : scope.isPlain = true → before.inflight < maxPrefetchInflight →
    ∀ other log, other ≠ scope →
      before.scopes.lookup other = some log →
      before.Newest other log → after.scopes.lookup other = some log

/-- The log of a scope whose page was just begun. -/
theorem start_of_accepted
    (log : ConsoleListing Item Version)
    (offset generation : Nat)
    (accepted : offset = 0 ∨ log.pending = none) :
    log.start offset generation =
      ({ log with
          generation := if offset = 0 then generation else log.generation
          pending := some
            (if offset = 0 then generation else log.generation)
          nextOffset := if offset = 0 then none else log.nextOffset },
        some (if offset = 0 then generation else log.generation)) := by
  unfold ConsoleListing.start
  have taken : (0 < offset && log.pending.isSome) = false := by
    rcases accepted with first | idle
    · simp [first]
    · simp [idle]
  rw [taken]
  by_cases first : offset = 0
  · simp [first]
  · simp [first]

theorem begin_spec
    (console : ConsoleScopes Item Version)
    (scope : ConsoleScope)
    (offset : Nat)
    (accepted : offset = 0 ∨ (console.log scope).pending = none) :
    ∃ generation,
      (console.begin scope offset).2 = some generation ∧
        Begun console scope offset generation
          (console.begin scope offset).1 := by
  have started := start_of_accepted (console.log scope) offset
    (if offset = 0 then console.generation + 1 else console.generation)
    accepted
  rw [log] at started
  refine ⟨if offset = 0 then console.generation + 1
    else (console.log scope).generation, ?_, ?_⟩
  · simp only [begin, started, log]
    split
    case isTrue first => rfl
    case isFalse later => rfl
  · unfold begin
    simp only [started]
    generalize reached : (touch _ scope) = touched
    have clocks := evictRounds_sameClocks touched.narrowed touched
    have fate := evictRounds_keptOrDropped touched.narrowed touched
    rw [show evictRounds touched.narrowed touched = touched.evict from rfl]
      at clocks fate
    have held : ∀ other, touched.scopes.lookup other =
        if other = scope then some
          { console.log scope with
            generation := if offset = 0 then console.generation + 1
              else (console.log scope).generation
            pending := some (if offset = 0 then console.generation + 1
              else (console.log scope).generation)
            nextOffset := if offset = 0 then none
              else (console.log scope).nextOffset
            used := console.clock + 1 }
        else console.scopes.lookup other := by
      intro other
      rw [← reached, lookup_touch]
      simp only [Table.lookup_insert_eq_ite, log]
      split
      case isTrue same =>
          by_cases first : offset = 0
          · simp [first]
          · simp [first]
      case isFalse different => simp
    constructor
    · -- The scope itself waits for a page and is not dropped.
      rcases fate scope with kept | ⟨-, dropped, found, idle, -⟩
      · rw [kept, held, if_pos rfl]
      · rw [held, if_pos rfl] at found
        cases found
        cases idle
    · intro other different
      have same := held other
      rw [if_neg different] at same
      unfold KeptOrDropped at fate ⊢
      rw [← same]
      exact fate other
    · rw [clocks.generation, ← reached]
      rfl
    · rfl
    · rw [clocks.clock, ← reached]
      rfl
    · rw [clocks.source, ← reached]
      rfl
    · rw [clocks.prefetch, ← reached]
      rfl
    · intro tab few other log different present newest
      apply lookup_evictRounds_of_freshest
      · constructor
        · rw [← reached, inflight_touch]
          exact Nat.le_trans (Table.count_insert_le _ _ _ _) few
        · intro third thirdLog distinct query found
          have other : third ≠ scope := by
            rintro rfl
            rw [tab] at query
            cases query
          rw [held, if_neg other] at found
          exact newest third thirdLog distinct query found
      · rw [held, if_neg different]
        exact present

/-- The pages that may be begun: the first page of a scope that has none and
waits for none, and the page at the cursor of a scope that waits for none. -/
def Due
    (console : ConsoleScopes Item Version)
    (scope : ConsoleScope)
    (offset : Nat) : Prop :=
  (console.log scope).pending = none ∧
    (offset = 0 ∧ (console.log scope).loaded = false ∨
      (console.log scope).nextOffset = some offset ∧
        (console.log scope).loaded = true)

/-- A scope that is owed its first page is due one. -/
theorem due_of_owed
    {console : ConsoleScopes Item Version}
    {scope : ConsoleScope}
    (lacking : console.owed scope = true) :
    Due console scope 0 := by
  unfold Due log
  unfold owed at lacking
  cases found : console.scopes.lookup scope with
  | none => exact ⟨rfl, .inl ⟨rfl, rfl⟩⟩
  | some log =>
      rw [found] at lacking
      simp only [Bool.and_eq_true, Bool.not_eq_true',
        Option.isNone_iff_eq_none] at lacking
      exact ⟨lacking.2, .inl ⟨rfl, lacking.1⟩⟩

/-- What `ensure` does: nothing but a touch, or it begins the first page of a
scope that is owed one. -/
theorem ensure_cases
    (console : ConsoleScopes Item Version)
    (scope : ConsoleScope) :
    (∃ log, console.scopes.lookup scope = some log ∧
        ((console.ensure scope) = (console.touch scope, .cached) ∨
          (console.ensure scope) = (console.touch scope, .loading))) ∨
      ∃ generation after,
        console.ensure scope = (after, .requested generation) ∧
          Due (console.touch scope) scope 0 ∧
          (console.touch scope).Begun scope 0 generation after := by
  obtain ⟨generation, tagged, begun⟩ :=
    (console.touch scope).begin_spec scope 0 (.inl rfl)
  have requests : (console.touch scope).openFirst scope =
      (((console.touch scope).begin scope 0).1, .requested generation) := by
    unfold openFirst
    rw [← Prod.mk.eta (p := (console.touch scope).begin scope 0), tagged]
  unfold ensure
  cases found : (console.touch scope).scopes.lookup scope with
  | none =>
      refine .inr ⟨generation, _, requests, due_of_owed ?_, begun⟩
      unfold owed
      rw [found]
  | some log =>
      have present := found
      rw [lookup_touch] at present
      obtain ⟨before, present, -⟩ := Option.map_eq_some_iff.mp present
      by_cases loaded : log.loaded = true
      · exact .inl ⟨before, present, .inl (if_pos loaded)⟩
      by_cases waiting : log.pending.isSome = true
      · refine .inl ⟨before, present, .inr ?_⟩
        simp only [loaded, waiting]
        rfl
      refine .inr ⟨generation, ((console.touch scope).begin scope 0).1, ?_,
        due_of_owed ?_, begun⟩
      · simp only [loaded, waiting]
        exact requests
      · unfold owed
        rw [found]
        simp [Bool.eq_false_iff.mpr loaded,
          Option.not_isSome_iff_eq_none.mp waiting]

/-! ## The prefetch queue -/

theorem scopes_queuePrefetch
    (console : ConsoleScopes Item Version)
    (platforms : List (Option Int)) :
    (console.queuePrefetch platforms).scopes = console.scopes := by
  unfold queuePrefetch
  induction platforms generalizing console with
  | nil => rfl
  | cons platform platforms inductionHypothesis =>
      rw [List.foldl_cons, inductionHypothesis, queueTab]
      split
      case isTrue owed => rfl
      case isFalse known => rfl

/-- What a walk of the queue does: it stops, or skips a tab, or begins the
first page of a tab that is owed one. -/
theorem nextPrefetchOf_cons_cases
    (scope : ConsoleScope)
    (queue : List ConsoleScope)
    (console : ConsoleScopes Item Version) :
    nextPrefetchOf (scope :: queue) console =
        ({ console with prefetch := scope :: queue }, []) ∨
      nextPrefetchOf (scope :: queue) console =
        nextPrefetchOf queue console ∨
      ∃ generation after,
        console.inflight < maxPrefetchInflight ∧
          Due console scope 0 ∧
          console.Begun scope 0 generation after ∧
          nextPrefetchOf (scope :: queue) console =
            ((nextPrefetchOf queue after).1,
              (scope, generation) ::
                (nextPrefetchOf queue after).2) := by
  obtain ⟨generation, tagged, begun⟩ := console.begin_spec scope 0 (.inl rfl)
  rw [nextPrefetchOf]
  split
  case isFalse busy => exact .inl rfl
  case isTrue free =>
      split
      case isFalse known => exact .inr (.inl rfl)
      case isTrue owed =>
          refine .inr (.inr ⟨generation, _, free, due_of_owed owed, begun, ?_⟩)
          rw [← Prod.mk.eta (p := console.begin scope 0), tagged]

theorem source_nextPrefetchOf
    (queue : List ConsoleScope)
    (console : ConsoleScopes Item Version) :
    (nextPrefetchOf queue console).1.source =
      console.source := by
  induction queue generalizing console with
  | nil => rfl
  | cons scope queue inductionHypothesis =>
      rcases nextPrefetchOf_cons_cases scope queue console with
        stops | skips | ⟨generation, after, -, -, begun, begins⟩
      · rw [stops]
      · rw [skips, inductionHypothesis]
      · rw [begins, inductionHypothesis, begun.source]

/-! ## What is never dropped -/

/-- A scope no eviction may drop: a tab, or one that waits for a page. -/
def Pinned
    (console : ConsoleScopes Item Version)
    (scope : ConsoleScope) : Prop :=
  ∃ log, console.scopes.lookup scope = some log ∧
    (scope.isPlain = true ∨ log.pending.isSome = true)

theorem Pinned.touch
    {console : ConsoleScopes Item Version}
    {scope : ConsoleScope}
    (pinned : Pinned console scope)
    (touched : ConsoleScope) :
    Pinned (console.touch touched) scope := by
  obtain ⟨log, found, reason⟩ := pinned
  refine ⟨_, by rw [lookup_touch, found]; rfl, ?_⟩
  split
  case isTrue same => exact reason
  case isFalse different => exact reason

theorem Pinned.begun
    {before after : ConsoleScopes Item Version}
    {scope begun : ConsoleScope}
    {offset generation : Nat}
    (pinned : Pinned before scope)
    (begins : before.Begun begun offset generation after) :
    Pinned after scope := by
  by_cases same : scope = begun
  · subst same
    exact ⟨_, begins.own, .inr rfl⟩
  · obtain ⟨log, found, reason⟩ := pinned
    rcases begins.others scope same with
      kept | ⟨-, dropped, present, idle, query⟩
    · exact ⟨log, by rw [kept, found], reason⟩
    · rw [found] at present
      cases present
      rcases reason with plain | waiting
      · rw [plain] at query
        cases query
      · rw [idle] at waiting
        cases waiting

theorem Pinned.nextPrefetchOf
    {console : ConsoleScopes Item Version}
    {scope : ConsoleScope}
    (pinned : Pinned console scope)
    (queue : List ConsoleScope) :
    Pinned (nextPrefetchOf queue console).1 scope := by
  induction queue generalizing console with
  | nil => exact pinned
  | cons tab queue inductionHypothesis =>
      rcases nextPrefetchOf_cons_cases tab queue console with
        stops | skips | ⟨generation, after, -, -, begun, begins⟩
      · rw [stops]
        exact pinned
      · rw [skips]
        exact inductionHypothesis pinned
      · rw [begins]
        exact inductionHypothesis (pinned.begun begun)

/-! ## The most recently used scope -/

/-- No scope was used after now. -/
def Stamped (console : ConsoleScopes Item Version) : Prop :=
  ∀ scope log, console.scopes.lookup scope = some log →
    log.used ≤ console.clock

theorem Stamped.touch
    {console : ConsoleScopes Item Version}
    (stamped : console.Stamped)
    (scope : ConsoleScope) :
    (console.touch scope).Stamped := by
  intro other log found
  rw [lookup_touch] at found
  obtain ⟨before, present, rfl⟩ := Option.map_eq_some_iff.mp found
  split
  case isTrue same => exact Nat.le_refl _
  case isFalse different => exact Nat.le_succ_of_le (stamped _ _ present)

theorem Stamped.begun
    {before after : ConsoleScopes Item Version}
    (stamped : before.Stamped)
    {scope : ConsoleScope}
    {offset generation : Nat}
    (begun : before.Begun scope offset generation after) :
    after.Stamped := by
  intro other log found
  rw [begun.clock]
  by_cases same : other = scope
  · subst same
    rw [begun.own] at found
    cases found
    exact Nat.le_refl _
  · rcases begun.others other same with kept | ⟨dropped, -⟩
    · rw [kept] at found
      exact Nat.le_succ_of_le (stamped other log found)
    · rw [dropped] at found
      cases found

theorem newest_touch
    {console : ConsoleScopes Item Version}
    (stamped : console.Stamped)
    {scope : ConsoleScope}
    {log : ConsoleListing Item Version}
    (found : console.scopes.lookup scope = some log) :
    ∃ log, (console.touch scope).scopes.lookup scope = some log ∧
      (console.touch scope).Newest scope log := by
  refine ⟨{ log with used := console.clock + 1 }, ?_, ?_⟩
  · simp [found]
  · intro other otherLog different _ held
    rw [lookup_touch] at held
    obtain ⟨before, present, rfl⟩ := Option.map_eq_some_iff.mp held
    rw [if_neg different]
    exact Nat.lt_succ_of_le (stamped other before present)

/-- A scope whose page was just begun is the most recently used. -/
theorem newest_of_begun
    {before after : ConsoleScopes Item Version}
    (stamped : before.Stamped)
    {scope : ConsoleScope}
    {offset generation : Nat}
    (begun : before.Begun scope offset generation after) :
    ∃ log, after.scopes.lookup scope = some log ∧
      after.Newest scope log := by
  refine ⟨_, begun.own, ?_⟩
  intro other otherLog different _ found
  rcases begun.others other different with kept | ⟨dropped, -⟩
  · rw [kept] at found
    exact Nat.lt_succ_of_le (stamped other otherLog found)
  · rw [dropped] at found
    cases found

/-- The most recently used query outlives the prefetch of a tab. -/
theorem newest_prefetch
    {before after : ConsoleScopes Item Version}
    {tab scope : ConsoleScope}
    {generation : Nat}
    (begun : before.Begun tab 0 generation after)
    (plain : tab.isPlain = true)
    (few : before.inflight < maxPrefetchInflight)
    (different : scope ≠ tab)
    {log : ConsoleListing Item Version}
    (found : before.scopes.lookup scope = some log)
    (newest : before.Newest scope log) :
    after.scopes.lookup scope = some log ∧ after.Newest scope log := by
  refine ⟨begun.spared plain few scope log different found newest, ?_⟩
  intro other otherLog distinct query held
  have narrowed : other ≠ tab := by
    rintro rfl
    rw [plain] at query
    cases query
  rcases begun.others other narrowed with kept | ⟨dropped, -⟩
  · rw [kept] at held
    exact newest other otherLog distinct query held
  · rw [dropped] at held
    cases held

/-! ## A scope on screen -/

/-- A scope no prefetch will drop: a tab, a query that is not there, or the
most recently used one. -/
def Steady
    (console : ConsoleScopes Item Version)
    (scope : ConsoleScope) : Prop :=
  scope.isPlain = true ∨
    ∀ log, console.scopes.lookup scope = some log →
      console.Newest scope log

theorem entries_eq_of_lookup
    {before after : ConsoleScopes Item Version}
    {scope : ConsoleScope}
    (same : after.scopes.lookup scope = before.scopes.lookup scope) :
    after.entries scope = before.entries scope := by
  unfold entries
  rw [same]

/-- Beginning a page does not change what its scope holds. -/
theorem entries_begun
    {before after : ConsoleScopes Item Version}
    {scope : ConsoleScope}
    {offset generation : Nat}
    (begun : before.Begun scope offset generation after) :
    after.entries scope = before.entries scope := by
  unfold entries
  rw [begun.own]
  unfold log
  cases before.scopes.lookup scope with
  | none => rfl
  | some log => rfl

theorem steady_of_begun
    {before after : ConsoleScopes Item Version}
    (stamped : before.Stamped)
    {scope : ConsoleScope}
    {offset generation : Nat}
    (begun : before.Begun scope offset generation after) :
    after.Steady scope := by
  obtain ⟨log, found, newest⟩ := newest_of_begun stamped begun
  refine .inr ?_
  intro other held
  rw [found] at held
  cases held
  exact newest

/-- The prefetch of a tab leaves a scope on screen as it is. -/
theorem Steady.prefetch
    {before after : ConsoleScopes Item Version}
    {tab scope : ConsoleScope}
    {generation : Nat}
    (steady : before.Steady scope)
    (stamped : before.Stamped)
    (begun : before.Begun tab 0 generation after)
    (plain : tab.isPlain = true)
    (few : before.inflight < maxPrefetchInflight) :
    after.Steady scope ∧ after.entries scope = before.entries scope := by
  by_cases same : scope = tab
  · subst same
    exact ⟨steady_of_begun stamped begun, entries_begun begun⟩
  rcases steady with tabShown | newest
  · refine ⟨.inl tabShown, entries_eq_of_lookup ?_⟩
    rcases begun.others scope same with kept | ⟨-, log, -, -, query⟩
    · exact kept
    · rw [tabShown] at query
      cases query
  · cases found : before.scopes.lookup scope with
    | none =>
        have absent : after.scopes.lookup scope = none := by
          rcases begun.others scope same with kept | ⟨dropped, -⟩
          · rw [kept, found]
          · exact dropped
        refine ⟨.inr ?_, entries_eq_of_lookup (by rw [absent, found])⟩
        intro log held
        rw [absent] at held
        cases held
    | some log =>
        obtain ⟨kept, stillNewest⟩ := newest_prefetch begun plain few same
          found (newest log found)
        refine ⟨.inr ?_, entries_eq_of_lookup (by rw [kept, found])⟩
        intro other held
        rw [kept] at held
        cases held
        exact stillNewest

/-- Handing out prefetches leaves a scope on screen as it is. -/
theorem Steady.nextPrefetchOf
    {console : ConsoleScopes Item Version}
    {scope : ConsoleScope}
    (steady : console.Steady scope)
    (stamped : console.Stamped)
    (queue : List ConsoleScope)
    (plain : ∀ tab ∈ queue, tab.isPlain = true) :
    (nextPrefetchOf queue console).1.Steady scope ∧
      (nextPrefetchOf queue console).1.entries scope =
        console.entries scope := by
  induction queue generalizing console with
  | nil => exact ⟨steady, rfl⟩
  | cons tab queue inductionHypothesis =>
      have rest := fun other member =>
        plain other (List.mem_cons_of_mem tab member)
      rcases nextPrefetchOf_cons_cases tab queue console with
        stops | skips | ⟨generation, after, few, -, begun, begins⟩
      · rw [stops]
        exact ⟨steady, rfl⟩
      · rw [skips]
        exact inductionHypothesis steady stamped rest
      · rw [begins]
        obtain ⟨still, same⟩ := steady.prefetch stamped begun
          (plain tab List.mem_cons_self) few
        obtain ⟨kept, entries⟩ :=
          inductionHypothesis still (stamped.begun begun) rest
        exact ⟨kept, entries.trans same⟩

/-! ## An orderly cache -/

/-- What the cache keeps true of itself: no scope was used after now, and the
prefetch queue holds tabs only. -/
structure Orderly (console : ConsoleScopes Item Version) : Prop where
  stamped : console.Stamped
  tabs : ∀ scope ∈ console.prefetch, scope.isPlain = true

theorem orderly_new :
    (new : ConsoleScopes Item Version).Orderly := by
  constructor
  · intro scope log found
    cases found
  · intro scope member
    cases member

theorem Orderly.invalidate
    {console : ConsoleScopes Item Version} :
    console.invalidate.Orderly := by
  constructor
  · intro scope log found
    cases found
  · intro scope member
    cases member

theorem Orderly.touch
    {console : ConsoleScopes Item Version}
    (orderly : console.Orderly)
    (scope : ConsoleScope) :
    (console.touch scope).Orderly :=
  ⟨orderly.stamped.touch scope, orderly.tabs⟩

theorem Orderly.begun
    {before after : ConsoleScopes Item Version}
    (orderly : before.Orderly)
    {scope : ConsoleScope}
    {offset generation : Nat}
    (begun : before.Begun scope offset generation after) :
    after.Orderly := by
  constructor
  · exact orderly.stamped.begun begun
  · rw [begun.prefetch]
    exact orderly.tabs

/-- A change of a scope's log that does not mark it as used. -/
theorem Orderly.adjust
    {console : ConsoleScopes Item Version}
    (orderly : console.Orderly)
    (scope : ConsoleScope)
    (change : ConsoleListing Item Version → ConsoleListing Item Version)
    (unused : ∀ log, (change log).used = log.used) :
    (console.adjust scope change).Orderly := by
  refine ⟨?_, orderly.tabs⟩
  intro other log found
  rw [lookup_adjust] at found
  obtain ⟨before, present, rfl⟩ := Option.map_eq_some_iff.mp found
  split
  case isTrue same =>
      rw [unused]
      exact orderly.stamped other before present
  case isFalse different => exact orderly.stamped other before present

theorem Orderly.queuePrefetch
    {console : ConsoleScopes Item Version}
    (orderly : console.Orderly)
    (platforms : List (Option Int)) :
    (console.queuePrefetch platforms).Orderly := by
  unfold ConsoleScopes.queuePrefetch
  induction platforms generalizing console with
  | nil => exact orderly
  | cons platform platforms inductionHypothesis =>
      rw [List.foldl_cons]
      apply inductionHypothesis
      rw [queueTab]
      split
      case isFalse known => exact orderly
      case isTrue owed =>
          refine ⟨orderly.stamped, ?_⟩
          intro scope member
          rcases List.mem_append.mp member with queued | added
          · exact orderly.tabs scope queued
          · rw [List.mem_singleton.mp added]
            exact ConsoleScope.isPlain_plain platform

theorem tabs_nextPrefetchOf
    (queue : List ConsoleScope)
    (plain : ∀ tab ∈ queue, tab.isPlain = true)
    (console : ConsoleScopes Item Version) :
    ∀ scope ∈ (nextPrefetchOf queue console).1.prefetch,
      scope.isPlain = true := by
  induction queue generalizing console with
  | nil =>
      intro scope member
      cases member
  | cons tab queue inductionHypothesis =>
      have rest := fun other member =>
        plain other (List.mem_cons_of_mem tab member)
      rcases nextPrefetchOf_cons_cases tab queue console with
        stops | skips | ⟨generation, after, -, -, -, begins⟩
      · rw [stops]
        exact plain
      · rw [skips]
        exact inductionHypothesis rest console
      · rw [begins]
        exact inductionHypothesis rest after

theorem stamped_nextPrefetchOf
    {console : ConsoleScopes Item Version}
    (stamped : console.Stamped)
    (queue : List ConsoleScope) :
    (nextPrefetchOf queue console).1.Stamped := by
  induction queue generalizing console with
  | nil => exact stamped
  | cons tab queue inductionHypothesis =>
      rcases nextPrefetchOf_cons_cases tab queue console with
        stops | skips | ⟨generation, after, -, -, begun, begins⟩
      · rw [stops]
        exact stamped
      · rw [skips]
        exact inductionHypothesis stamped
      · rw [begins]
        exact inductionHypothesis (stamped.begun begun)

theorem Orderly.nextPrefetch
    {console : ConsoleScopes Item Version}
    (orderly : console.Orderly) :
    console.nextPrefetch.1.Orderly :=
  ⟨stamped_nextPrefetchOf orderly.stamped console.prefetch,
    tabs_nextPrefetchOf console.prefetch orderly.tabs console⟩

/-- Showing a scope keeps the cache orderly, makes the scope one that no
prefetch drops and leaves its records as they are. -/
theorem Orderly.ensure
    {console : ConsoleScopes Item Version}
    (orderly : console.Orderly)
    (scope : ConsoleScope) :
    (console.ensure scope).1.Orderly ∧
      (console.ensure scope).1.Steady scope ∧
      (console.ensure scope).1.entries scope = console.entries scope := by
  have touched : (console.touch scope).entries scope =
      console.entries scope := by
    unfold entries
    rw [lookup_touch]
    cases console.scopes.lookup scope with
    | none => rfl
    | some log => simp
  rcases console.ensure_cases scope with
    ⟨log, found, cached⟩ | ⟨generation, after, requested, -, begun⟩
  · have same : (console.ensure scope).1 = console.touch scope := by
      rcases cached with cached | loading
      · rw [cached]
      · rw [loading]
    rw [same]
    refine ⟨orderly.touch scope, .inr ?_, touched⟩
    obtain ⟨newestLog, present, newest⟩ := newest_touch orderly.stamped found
    intro other held
    rw [present] at held
    cases held
    exact newest
  · rw [requested]
    have stamped := orderly.touch scope
    exact ⟨stamped.begun begun, steady_of_begun stamped.stamped begun,
      (entries_begun begun).trans touched⟩

/-- A change of a scope's log that does not mark it as used drops nothing. -/
theorem Steady.adjust
    {console : ConsoleScopes Item Version}
    {scope : ConsoleScope}
    (steady : console.Steady scope)
    (changed : ConsoleScope)
    (change : ConsoleListing Item Version → ConsoleListing Item Version)
    (unused : ∀ log, (change log).used = log.used) :
    (console.adjust changed change).Steady scope := by
  have used : ∀ other log,
      (console.adjust changed change).scopes.lookup other = some log →
      ∃ before, console.scopes.lookup other = some before ∧
        log.used = before.used := by
    intro other log found
    rw [lookup_adjust] at found
    obtain ⟨before, present, rfl⟩ := Option.map_eq_some_iff.mp found
    refine ⟨before, present, ?_⟩
    split
    case isTrue same => exact unused before
    case isFalse different => rfl
  rcases steady with tab | newest
  · exact .inl tab
  · refine .inr ?_
    intro log found other otherLog different query held
    obtain ⟨before, present, sameUse⟩ := used scope log found
    obtain ⟨otherBefore, otherPresent, otherUse⟩ := used other otherLog held
    rw [sameUse, otherUse]
    exact newest before present other otherBefore different query otherPresent

end ConsoleScopes
end Frontend
end Hearthdeck
