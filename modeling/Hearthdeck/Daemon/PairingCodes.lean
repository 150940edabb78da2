import Hearthdeck.Daemon.Pairing

/-!
# A pairing code mints one client

Every creation of a code has a number, which its row carries, and so does a
client that was minted from it.  No two rows have one number, and no row has
the number of a client unless it is consumed.  A redemption that read a row
and comes to mark it finds the row it read: whatever was committed meanwhile
makes its statement fail.  From then on it holds the lock until it ends.

The rows that a creation deletes are chosen by their texts.  For codes that
expire in a year of four digits the texts are in the order of the times, and
no row goes that could be redeemed at that moment or later.
-/

namespace Hearthdeck
namespace Daemon

open Foundation

/-- The call holds the lock of the database. -/
def AuthTask.holdsLock : AuthTask → Bool
  | insertClient _ _ => true
  | commit _ _ => true
  | _ => false

/-! ## Tables -/

namespace AuthTables

/-- What holds of the tables when some codes were created and some of them
pruned. -/
structure Sound
    (tables : AuthTables)
    (issued : Nat)
    (pruned : List Nat) : Prop where
  past : ∀ issue ∈ pruned, issue < issued
  written : ∀ codeHash session,
    tables.sessions.lookup codeHash = some session →
      session.expires.year ≤ 9999 ∧
        session.expiresAt = session.expires.toRfc3339
  live : ∀ codeHash session,
    tables.sessions.lookup codeHash = some session →
      session.issue < issued ∧ session.issue ∉ pruned
  distinct : ∀ codeHash session other second,
    tables.sessions.lookup codeHash = some session →
    tables.sessions.lookup other = some second →
    session.issue = second.issue → codeHash = other
  minted : ∀ id client,
    tables.clients.lookup id = some client →
      client.issue < issued ∧ client.judged ≤ client.expires
  single : ∀ id client other second,
    tables.clients.lookup id = some client →
    tables.clients.lookup other = some second →
    client.issue = second.issue → id = other
  spent : ∀ id client codeHash session,
    tables.clients.lookup id = some client →
    tables.sessions.lookup codeHash = some session →
    session.issue = client.issue → session.consumedAt.isSome = true

/-- A client can be added: its code was created, not pruned, valid when it was
judged, and is marked; and no client has it. -/
structure Mints
    (tables : AuthTables)
    (issued : Nat)
    (pruned : List Nat)
    (client : PairedClient) : Prop where
  known : client.issue < issued
  live : client.issue ∉ pruned
  judged : client.judged ≤ client.expires
  unminted : ∀ id other,
    tables.clients.lookup id = some other → other.issue ≠ client.issue
  marked : ∀ codeHash session,
    tables.sessions.lookup codeHash = some session →
    session.issue = client.issue → session.consumedAt.isSome = true

variable
  {tables : AuthTables}
  {issued : Nat}
  {pruned : List Nat}

theorem sound_empty : Sound ⟨∅, ∅⟩ 0 [] where
  past := nofun
  written := nofun
  live := nofun
  distinct := nofun
  minted := nofun
  single := nofun
  spent := nofun

/-- Rows by a condition are deleted and counted as pruned. -/
theorem Sound.prune
    (sound : tables.Sound issued pruned)
    (prunes : PairingSession → Bool) :
    Sound
      { tables with
        sessions := tables.sessions.filter fun _ session =>
          !prunes session }
      issued
      (pruned ++ (tables.sessions.entries.filter fun entry =>
        prunes entry.2).map fun entry => entry.2.issue) := by
  have stood : ∀ codeHash session,
      (tables.sessions.filter fun _ session => !prunes session).lookup
        codeHash = some session →
      tables.sessions.lookup codeHash = some session ∧
        prunes session = false := by
    intro codeHash session found
    rw [Table.lookup_filter, Option.filter_eq_some_iff] at found
    exact ⟨found.1, by simpa using found.2⟩
  have listed : ∀ issue ∈ (tables.sessions.entries.filter fun entry =>
      prunes entry.2).map (fun entry => entry.2.issue),
      ∃ codeHash session,
        tables.sessions.lookup codeHash = some session ∧
          prunes session = true ∧ session.issue = issue := by
    intro issue member
    obtain ⟨⟨codeHash, session⟩, kept, same⟩ := List.mem_map.mp member
    obtain ⟨present, goes⟩ := List.mem_filter.mp kept
    exact ⟨codeHash, session, AList.mem_lookup_iff.mpr present, goes, same⟩
  refine ⟨?_, ?_, ?_, ?_, sound.minted, sound.single, ?_⟩
  · intro issue member
    rcases List.mem_append.mp member with old | new
    · exact sound.past issue old
    · obtain ⟨codeHash, session, found, _, rfl⟩ := listed issue new
      exact (sound.live codeHash session found).1
  · intro codeHash session found
    exact sound.written codeHash session (stood _ _ found).1
  · intro codeHash session found
    obtain ⟨before, stays⟩ := stood _ _ found
    obtain ⟨known, live⟩ := sound.live codeHash session before
    refine ⟨known, ?_⟩
    intro member
    rcases List.mem_append.mp member with old | new
    · exact live old
    · obtain ⟨other, second, present, goes, same⟩ := listed _ new
      have equal := sound.distinct _ _ _ _ present before same
      subst equal
      rw [present] at before
      cases before
      rw [stays] at goes
      cases goes
  · intro codeHash session other second found present
    exact sound.distinct _ _ _ _ (stood _ _ found).1 (stood _ _ present).1
  · intro id client codeHash session minted found
    exact sound.spent _ _ _ _ minted (stood _ _ found).1

/-- A row with the next number is inserted. -/
theorem Sound.insertSession
    (sound : tables.Sound issued pruned)
    {expires : UtcInstant}
    (four : expires.year ≤ 9999)
    (codeHash : String) :
    Sound
      { tables with
        sessions := tables.sessions.insert codeHash
          { expiresAt := expires.toRfc3339
            consumedAt := none
            issue := issued
            expires := expires } }
      (issued + 1)
      pruned := by
  have below : ∀ {issue : Nat}, issue < issued → issue < issued + 1 :=
    fun lower => Nat.lt_succ_of_lt lower
  refine ⟨?_, ?_, ?_, ?_, ?_, sound.single, ?_⟩
  · intro issue member
    exact below (sound.past issue member)
  · intro other session found
    rw [Table.lookup_insert_eq_ite] at found
    split at found
    case isTrue same =>
        cases found
        exact ⟨four, rfl⟩
    case isFalse different => exact sound.written other session found
  · intro other session found
    rw [Table.lookup_insert_eq_ite] at found
    split at found
    case isTrue same =>
        cases found
        refine ⟨Nat.lt_succ_self issued, ?_⟩
        intro member
        exact Nat.lt_irrefl _ (sound.past issued member)
    case isFalse different =>
        obtain ⟨known, live⟩ := sound.live other session found
        exact ⟨below known, live⟩
  · intro left first right second foundLeft foundRight same
    rw [Table.lookup_insert_eq_ite] at foundLeft foundRight
    split at foundLeft
    case isTrue isLeft =>
        split at foundRight
        case isTrue isRight => rw [isLeft, isRight]
        case isFalse other =>
            cases foundLeft
            have known := (sound.live _ _ foundRight).1
            rw [← same] at known
            exact absurd known (Nat.lt_irrefl _)
    case isFalse other =>
        split at foundRight
        case isTrue isRight =>
            cases foundRight
            have known := (sound.live _ _ foundLeft).1
            rw [same] at known
            exact absurd known (Nat.lt_irrefl _)
        case isFalse another =>
            exact sound.distinct _ _ _ _ foundLeft foundRight same
  · intro id client found
    obtain ⟨known, judged⟩ := sound.minted id client found
    exact ⟨below known, judged⟩
  · intro id client other session minted found same
    rw [Table.lookup_insert_eq_ite] at found
    split at found
    case isTrue isOther =>
        cases found
        have known := (sound.minted _ _ minted).1
        rw [← same] at known
        exact absurd known (Nat.lt_irrefl _)
    case isFalse different =>
        exact sound.spent _ _ _ _ minted found same

variable {codeHash : String} {session : PairingSession}

/-- Every row after one was marked was a row of that code before, with the
same number and times, and marked if it was. -/
theorem lookup_marked
    (stood : tables.sessions.lookup codeHash = some session)
    {moment : String}
    {other : String}
    {found : PairingSession}
    (lookup : (tables.sessions.insert codeHash
      { session with consumedAt := some moment }).lookup other = some found) :
    ∃ before, tables.sessions.lookup other = some before ∧
      found.issue = before.issue ∧ found.expires = before.expires ∧
      found.expiresAt = before.expiresAt ∧
      (other = codeHash ∨ before.consumedAt.isSome = true →
        found.consumedAt.isSome = true) := by
  rw [Table.lookup_insert_eq_ite] at lookup
  split at lookup
  case isTrue same =>
      cases lookup
      rw [same]
      exact ⟨session, stood, rfl, rfl, rfl, fun _ => rfl⟩
  case isFalse different =>
      refine ⟨found, lookup, rfl, rfl, rfl, ?_⟩
      rintro (same | marked)
      · exact absurd same different
      · exact marked

/-- A row is marked as consumed. -/
theorem Sound.mark
    (sound : tables.Sound issued pruned)
    (stood : tables.sessions.lookup codeHash = some session)
    (moment : String) :
    Sound
      { tables with
        sessions := tables.sessions.insert codeHash
          { session with consumedAt := some moment } }
      issued
      pruned := by
  refine ⟨sound.past, ?_, ?_, ?_, sound.minted, sound.single, ?_⟩
  · intro other found lookup
    obtain ⟨before, was, _, expires, text, _⟩ := lookup_marked stood lookup
    rw [expires, text]
    exact sound.written other before was
  · intro other found lookup
    obtain ⟨before, was, issue, _⟩ := lookup_marked stood lookup
    rw [issue]
    exact sound.live other before was
  · intro left first right second foundLeft foundRight same
    obtain ⟨one, wasLeft, issueLeft, _⟩ := lookup_marked stood foundLeft
    obtain ⟨two, wasRight, issueRight, _⟩ := lookup_marked stood foundRight
    rw [issueLeft, issueRight] at same
    exact sound.distinct _ _ _ _ wasLeft wasRight same
  · intro id client other found minted lookup same
    obtain ⟨before, was, issue, _, _, marked⟩ := lookup_marked stood lookup
    rw [issue] at same
    exact marked (Or.inr (sound.spent _ _ _ _ minted was same))

/-- After an unmarked row was marked, a client of it can be added. -/
theorem Sound.mints
    (sound : tables.Sound issued pruned)
    (stood : tables.sessions.lookup codeHash = some session)
    (unmarked : session.consumedAt.isSome = false)
    (moment : String)
    {client : PairedClient}
    (same : session.issue = client.issue)
    (judged : client.judged ≤ client.expires) :
    Mints
      { tables with
        sessions := tables.sessions.insert codeHash
          { session with consumedAt := some moment } }
      issued
      pruned
      client := by
  obtain ⟨known, live⟩ := sound.live _ _ stood
  rw [same] at known live
  refine ⟨known, live, judged, ?_, ?_⟩
  · intro id other minted equal
    have marked := sound.spent _ _ _ _ minted stood (same.trans equal.symm)
    rw [unmarked] at marked
    cases marked
  · intro other found lookup equal
    obtain ⟨before, was, issue, _, _, marked⟩ := lookup_marked stood lookup
    rw [issue, ← same] at equal
    exact marked (Or.inl (sound.distinct _ _ _ _ was stood equal))

/-- A client is added. -/
theorem Sound.insertClient
    (sound : tables.Sound issued pruned)
    {client : PairedClient}
    (mints : tables.Mints issued pruned client)
    (id : String) :
    Sound
      { tables with clients := tables.clients.insert id client }
      issued
      pruned := by
  refine ⟨sound.past, sound.written, sound.live, sound.distinct, ?_, ?_, ?_⟩
  · intro other second found
    rw [Table.lookup_insert_eq_ite] at found
    split at found
    case isTrue same =>
        cases found
        exact ⟨mints.known, mints.judged⟩
    case isFalse different => exact sound.minted other second found
  · intro left first right second foundLeft foundRight same
    rw [Table.lookup_insert_eq_ite] at foundLeft foundRight
    split at foundLeft
    case isTrue isLeft =>
        split at foundRight
        case isTrue isRight => rw [isLeft, isRight]
        case isFalse other =>
            cases foundLeft
            exact absurd same.symm (mints.unminted _ _ foundRight)
    case isFalse other =>
        split at foundRight
        case isTrue isRight =>
            cases foundRight
            exact absurd same (mints.unminted _ _ foundLeft)
        case isFalse another =>
            exact sound.single _ _ _ _ foundLeft foundRight same
  · intro other second codeHash session found stood same
    rw [Table.lookup_insert_eq_ite] at found
    split at found
    case isTrue isOther =>
        cases found
        exact mints.marked _ _ stood same
    case isFalse different =>
        exact sound.spent _ _ _ _ found stood same

end AuthTables

/-! ## The lock -/

namespace Auth

variable {parse : String → Option UtcInstant}

/-- The lock of the database is taken. -/
def locked (auth : Auth) : Bool :=
  auth.writing.isSome

theorem lockMoves_perform
    (auth : Auth)
    (task : AuthTask)
    (answer : AuthAnswer) :
    Pool.LockMoves locked AuthTask.holdsLock auth task
      (auth.perform parse task answer) := by
  cases task with
  | prune codeHash now =>
      change Pool.LockMoves _ _ _ _ (auth.prune codeHash now answer)
      unfold prune
      split
      case isTrue fault => exact .same rfl rfl rfl
      case isFalse well =>
          split
          case isTrue busy => exact .same rfl rfl rfl
          case isFalse free => exact .same rfl rfl rfl
  | insertSession codeHash now =>
      change Pool.LockMoves _ _ _ _ (auth.insertSession codeHash now answer)
      unfold insertSession
      split
      case isTrue fault => exact .same rfl rfl rfl
      case isFalse well =>
          split
          case isTrue busy => exact .same rfl rfl rfl
          case isFalse free =>
              split
              case isTrue present => exact .same rfl rfl rfl
              case isFalse absent => exact .same rfl rfl rfl
  | begin redemption =>
      refine .same ?_ rfl ?_
      · change locked (ite _ _ _ : Auth × List AuthTask).1 = _
        split
        case isTrue fault => rfl
        case isFalse well => rfl
      · change List.countP _ (ite _ _ _ : Auth × List AuthTask).2 = _
        split
        case isTrue fault => rfl
        case isFalse well => rfl
  | select redemption =>
      change Pool.LockMoves _ _ _ _ (auth.select parse redemption answer)
      unfold select
      split
      case isTrue fault => exact .same rfl rfl rfl
      case isFalse well =>
          dsimp only
          split
          case h_1 absent => exact .same rfl rfl rfl
          case h_2 session found =>
              split
              case isTrue valid => exact .same rfl rfl rfl
              case isFalse invalid => exact .same rfl rfl rfl
  | consume codeHash snapshot id client =>
      change Pool.LockMoves _ _ _ _
        (auth.consume codeHash snapshot id client answer)
      unfold consume
      split
      case isTrue fault => exact .same rfl rfl rfl
      case isFalse well =>
          split
          case isTrue busy => exact .same rfl rfl rfl
          case isFalse free =>
              split
              case isTrue stale => exact .same rfl rfl rfl
              case isFalse current =>
                  split
                  case h_1 absent => exact .same rfl rfl rfl
                  case h_2 session found =>
                      split
                      case isTrue marked => exact .same rfl rfl rfl
                      case isFalse unmarked =>
                          exact .takes (Bool.eq_false_iff.mpr free) rfl rfl
                            rfl
  | insertClient id client =>
      change Pool.LockMoves _ _ _ _ (auth.insertClient id client answer)
      unfold insertClient
      split
      case h_1 none => exact .frees rfl rfl rfl
      case h_2 tables writing =>
          split
          case isTrue refused => exact .frees rfl rfl rfl
          case isFalse accepted => exact .keeps rfl rfl rfl
  | commit id client =>
      change Pool.LockMoves _ _ _ _ (auth.commit id answer)
      unfold commit
      split
      case h_1 none => exact .frees rfl rfl rfl
      case h_2 tables writing =>
          split
          case isTrue fault => exact .frees rfl rfl rfl
          case isFalse well => exact .frees rfl rfl rfl

/-- The lock of the database is taken exactly while one redemption holds
it. -/
def LockKept (pool : Pool Auth AuthTask) : Prop :=
  pool.Locked locked AuthTask.holdsLock

theorem LockKept.step
    {pool : Pool Auth AuthTask}
    (kept : LockKept pool)
    (move : Move AuthCall AuthAnswer) :
    LockKept ((program parse).step pool move) := by
  cases move with
  | call request =>
      cases request with
      | createPairingCode codeHash now => exact Pool.Locked.call kept rfl rfl
      | consumePairingCode redemption => exact Pool.Locked.call kept rfl rfl
  | advance index answer =>
      cases stands : pool.tasks[index]? with
      | none =>
          rw [(program parse).step_idle stands]
          exact kept
      | some task =>
          apply Pool.Locked.advance kept stands
          exact lockMoves_perform _ _ answer

/-! ## The invariant -/

/-- What holds of the shared state. -/
def Whole (auth : Auth) : Prop :=
  auth.stored.Sound auth.issued auth.pruned

/-- What holds of a call under way.  A redemption that is about to mark a row
finds the one it read, or finds that something was committed since. -/
def Part (auth : Auth) : AuthTask → Prop
  | .prune _ now => (validity now).year ≤ 9999
  | .insertSession _ now => (validity now).year ≤ 9999
  | .begin _ => True
  | .select _ => True
  | .consume codeHash snapshot _ client =>
      snapshot ≤ auth.version ∧ client.judged ≤ client.expires ∧
        (snapshot = auth.version → ∃ session,
          auth.stored.sessions.lookup codeHash = some session ∧
            session.issue = client.issue)
  | .insertClient _ client =>
      ∃ tables, auth.writing = some tables ∧
        tables.clients = auth.stored.clients ∧
        tables.Sound auth.issued auth.pruned ∧
        tables.Mints auth.issued auth.pruned client
  | .commit id client =>
      ∃ tables, auth.writing = some tables ∧
        tables.clients = auth.stored.clients.insert id client ∧
        auth.stored.clients.lookup id = none ∧
        tables.Sound auth.issued auth.pruned ∧
        client.issue ∉ auth.pruned

/-- The database holds the rows it held, or something was committed. -/
def Later (auth next : Auth) : Prop :=
  auth.version < next.version ∨
    next.version = auth.version ∧
      ∀ codeHash, next.stored.sessions.lookup codeHash =
        auth.stored.sessions.lookup codeHash

/-- What is done to the database disturbs no call that does not hold the
lock. -/
theorem Part.later
    {auth next : Auth}
    {task : AuthTask}
    (part : Part auth task)
    (free : task.holdsLock = false)
    (later : Later auth next) :
    Part next task := by
  cases task with
  | prune codeHash now => exact part
  | insertSession codeHash now => exact part
  | begin redemption => trivial
  | select redemption => trivial
  | consume codeHash snapshot id client =>
      obtain ⟨bound, judged, stood⟩ := part
      rcases later with newer | ⟨same, rows⟩
      · refine ⟨Nat.le_trans bound (Nat.le_of_lt newer), judged, ?_⟩
        intro equal
        rw [equal] at bound
        exact absurd newer (Nat.not_lt.mpr bound)
      · refine ⟨by rw [same]; exact bound, judged, ?_⟩
        intro equal
        rw [rows]
        exact stood (equal.trans same)
  | insertClient id client => cases free
  | commit id client => cases free

/-- The invariant of the calls under way. -/
def Sound (pool : Pool Auth AuthTask) : Prop :=
  pool.Holds Whole Part

/-- The codes that are created expire in years of four digits. -/
def InTime
    (pool : Pool Auth AuthTask) :
    Move AuthCall AuthAnswer → Prop
  | .call (.createPairingCode _ now) =>
      (validity (max pool.shared.clock now)).year ≤ 9999
  | _ => True

theorem Sound.call
    {pool : Pool Auth AuthTask}
    (sound : Sound pool)
    (request : AuthCall)
    (inTime : InTime pool (.call request)) :
    Sound ((program parse).step pool (.call request)) := by
  cases request with
  | createPairingCode codeHash now =>
      apply Pool.Holds.call sound sound.shared
      · intro task member part
        cases task <;> exact part
      · intro task member
        rw [List.mem_singleton.mp member]
        exact inTime
  | consumePairingCode redemption =>
      apply Pool.Holds.call sound sound.shared
      · intro task member part
        cases task <;> exact part
      · intro task member
        rw [List.mem_singleton.mp member]
        trivial

variable
  {pool : Pool Auth AuthTask}
  {index : Nat}
  {task : AuthTask}
  {answer : AuthAnswer}

/-- A statement that changes no table. -/
theorem Sound.notes
    (sound : Sound pool)
    (stands : pool.tasks[index]? = some task)
    {clock : UtcInstant}
    {returned : Option Returned}
    {left : List AuthTask}
    (performs : pool.shared.perform parse task answer =
      ({ pool.shared with clock := clock, returned := returned }, left))
    (parts : ∀ other ∈ left, Part pool.shared other) :
    Sound ((program parse).step pool (.advance index answer)) := by
  apply Pool.Holds.advance sound stands
  · change Whole (pool.shared.perform parse task answer).1
    rw [performs]
    exact sound.shared
  · intro other member part
    change Part (pool.shared.perform parse task answer).1 other
    rw [performs]
    cases other <;> exact part
  · intro other member
    change other ∈ (pool.shared.perform parse task answer).2 at member
    change Part (pool.shared.perform parse task answer).1 other
    rw [performs] at member ⊢
    have part := parts other member
    cases other <;> exact part

/-- A statement that changes the tables, beside calls that do not hold the
lock. -/
theorem Sound.writes
    (sound : Sound pool)
    (stands : pool.tasks[index]? = some task)
    {next : Auth}
    {left : List AuthTask}
    (performs : pool.shared.perform parse task answer = (next, left))
    (whole : Whole next)
    (free : ∀ other ∈ pool.tasks.eraseIdx index, other.holdsLock = false)
    (later : Later pool.shared next)
    (parts : ∀ other ∈ left, Part next other) :
    Sound ((program parse).step pool (.advance index answer)) := by
  apply Pool.Holds.advance sound stands
  · change Whole (pool.shared.perform parse task answer).1
    rw [performs]
    exact whole
  · intro other member part
    change Part (pool.shared.perform parse task answer).1 other
    rw [performs]
    exact part.later (free other member) later
  · intro other member
    change other ∈ (pool.shared.perform parse task answer).2 at member
    change Part (pool.shared.perform parse task answer).1 other
    rw [performs] at member ⊢
    exact parts other member

/-! ## One statement -/

/-- Beside a free lock, no call holds it. -/
theorem LockKept.free
    (kept : LockKept pool)
    (free : ¬ pool.shared.writing.isSome = true)
    (other : AuthTask)
    (member : other ∈ pool.tasks.eraseIdx index) :
    other.holdsLock = false :=
  Pool.Locked.free kept (Bool.eq_false_iff.mpr free)
    (List.mem_of_mem_eraseIdx member)

theorem Sound.prune
    (sound : Sound pool)
    (lock : LockKept pool)
    {codeHash : String}
    {now : UtcInstant}
    (stands : pool.tasks[index]? = some (.prune codeHash now)) :
    Sound ((program parse).step pool (.advance index answer)) := by
  have own := sound.each _ (List.mem_of_getElem? stands)
  by_cases fault : answer.fault = true
  · exact sound.notes stands (if_pos fault) nofun
  by_cases busy : pool.shared.writing.isSome = true
  · apply sound.notes stands ((if_neg fault).trans (if_pos busy))
    intro other member
    rw [List.mem_singleton.mp member]
    exact own
  · apply sound.writes stands ((if_neg fault).trans (if_neg busy))
    · exact AuthTables.Sound.prune sound.shared (prunes now)
    · exact lock.free busy
    · by_cases none : (pool.shared.stored.sessions.entries.filter
          fun entry => prunes now entry.2).isEmpty = true
      · right
        refine ⟨if_pos none, ?_⟩
        intro other
        change (Table.filter _ pool.shared.stored.sessions).lookup other = _
        rw [Table.lookup_filter]
        rw [List.isEmpty_iff, List.filter_eq_nil_iff] at none
        cases found : pool.shared.stored.sessions.lookup other with
        | none => rfl
        | some session =>
            have stays := none _ (AList.mem_lookup_iff.mp found)
            exact Option.filter_some_pos (by simpa using stays)
      · left
        change pool.shared.version < if _ then _ else _
        rw [if_neg none]
        exact Nat.lt_succ_self _
    · intro other member
      rw [List.mem_singleton.mp member]
      exact own

theorem Sound.insertSession
    (sound : Sound pool)
    (lock : LockKept pool)
    {codeHash : String}
    {now : UtcInstant}
    (stands : pool.tasks[index]? = some (.insertSession codeHash now)) :
    Sound ((program parse).step pool (.advance index answer)) := by
  have own := sound.each _ (List.mem_of_getElem? stands)
  by_cases fault : answer.fault = true
  · exact sound.notes stands (if_pos fault) nofun
  by_cases busy : pool.shared.writing.isSome = true
  · apply sound.notes stands ((if_neg fault).trans (if_pos busy))
    intro other member
    rw [List.mem_singleton.mp member]
    exact own
  by_cases present :
      (pool.shared.stored.sessions.lookup codeHash).isSome = true
  · exact sound.notes stands
      ((if_neg fault).trans ((if_neg busy).trans (if_pos present))) nofun
  · apply sound.writes stands
      ((if_neg fault).trans ((if_neg busy).trans (if_neg present)))
    · exact AuthTables.Sound.insertSession sound.shared own codeHash
    · exact lock.free busy
    · exact Or.inl (Nat.lt_succ_self _)
    · nofun

/-- A redemption finds valid what is not marked and has not expired. -/
theorem accepts_iff
    (reads : ∀ instant : UtcInstant, instant.year ≤ 9999 →
      parse instant.toRfc3339 = some instant)
    {session : PairingSession}
    (four : session.expires.year ≤ 9999)
    (written : session.expiresAt = session.expires.toRfc3339)
    (moment : UtcInstant) :
    accepts parse session moment = true ↔
      session.consumedAt.isSome = false ∧ moment ≤ session.expires := by
  unfold accepts
  rw [written, reads _ four]
  simp

theorem Sound.select
    (reads : ∀ instant : UtcInstant, instant.year ≤ 9999 →
      parse instant.toRfc3339 = some instant)
    (sound : Sound pool)
    {redemption : Redemption}
    (stands : pool.tasks[index]? = some (.select redemption)) :
    Sound ((program parse).step pool (.advance index answer)) := by
  by_cases fault : answer.fault = true
  · exact sound.notes stands (if_pos fault) nofun
  have performs : pool.shared.perform parse (.select redemption) answer =
      pool.shared.select parse redemption answer := rfl
  unfold Auth.select at performs
  rw [if_neg fault] at performs
  cases found : pool.shared.stored.sessions.lookup redemption.codeHash with
  | none =>
      simp only [found] at performs
      exact sound.notes stands performs nofun
  | some session =>
      obtain ⟨four, written⟩ := sound.shared.written _ _ found
      simp only [found] at performs
      by_cases valid : accepts parse session
          (max pool.shared.clock answer.now) = true
      · rw [if_pos valid] at performs
        apply sound.notes stands performs
        intro other member
        rw [List.mem_singleton.mp member]
        refine ⟨Nat.le_refl _, ?_, fun _ => ⟨session, found, rfl⟩⟩
        exact ((accepts_iff reads four written _).mp valid).2
      · rw [if_neg valid] at performs
        exact sound.notes stands performs nofun

theorem Sound.consume
    (sound : Sound pool)
    (lock : LockKept pool)
    {codeHash id : String}
    {snapshot : Nat}
    {client : PairedClient}
    (stands : pool.tasks[index]? =
      some (.consume codeHash snapshot id client)) :
    Sound ((program parse).step pool (.advance index answer)) := by
  have own := sound.each _ (List.mem_of_getElem? stands)
  by_cases fault : answer.fault = true
  · exact sound.notes stands (if_pos fault) nofun
  by_cases busy : pool.shared.writing.isSome = true
  · apply sound.notes stands ((if_neg fault).trans (if_pos busy))
    intro other member
    rw [List.mem_singleton.mp member]
    exact own
  by_cases stale : snapshot ≠ pool.shared.version
  · exact sound.notes stands
      ((if_neg fault).trans ((if_neg busy).trans (if_pos stale))) nofun
  · obtain ⟨_, judged, stood⟩ := own
    obtain ⟨session, found, same⟩ := stood (not_not.mp stale)
    have performs : pool.shared.perform parse
        (.consume codeHash snapshot id client) answer = _ :=
      (if_neg fault).trans ((if_neg busy).trans (if_neg stale))
    simp only [found] at performs
    by_cases marked : session.consumedAt.isSome = true
    · exact sound.notes stands (performs.trans (if_pos marked)) nofun
    · apply sound.writes stands (performs.trans (if_neg marked))
      · exact sound.shared
      · exact lock.free busy
      · exact Or.inr ⟨rfl, fun _ => rfl⟩
      · intro other member
        rw [List.mem_singleton.mp member]
        refine ⟨_, rfl, rfl, ?_, ?_⟩
        · exact AuthTables.Sound.mark sound.shared found _
        · exact AuthTables.Sound.mints sound.shared found
            (Bool.eq_false_iff.mpr marked) _ same judged

/-- A redemption that holds the lock takes its writes back. -/
theorem Sound.rollBack
    (sound : Sound pool)
    (lock : LockKept pool)
    (stands : pool.tasks[index]? = some task)
    (held : task.holdsLock = true)
    (performs : pool.shared.perform parse task answer =
      pool.shared.rollBack) :
    Sound ((program parse).step pool (.advance index answer)) := by
  apply sound.writes stands performs
  · exact sound.shared
  · intro other member
    exact Pool.Locked.others lock stands held member
  · exact Or.inr ⟨rfl, fun _ => rfl⟩
  · nofun

theorem Sound.insertClient
    (sound : Sound pool)
    (lock : LockKept pool)
    {id : String}
    {client : PairedClient}
    (stands : pool.tasks[index]? = some (.insertClient id client)) :
    Sound ((program parse).step pool (.advance index answer)) := by
  obtain ⟨tables, writing, clients, whole, mints⟩ :=
    sound.each _ (List.mem_of_getElem? stands)
  have performs : pool.shared.perform parse (.insertClient id client)
      answer = pool.shared.insertClient id client answer := rfl
  unfold Auth.insertClient at performs
  simp only [writing] at performs
  by_cases refused : (answer.fault || taken tables id client) = true
  · rw [if_pos refused] at performs
    exact sound.rollBack lock stands rfl performs
  · rw [if_neg refused] at performs
    apply sound.writes stands performs
    · exact sound.shared
    · intro other member
      exact Pool.Locked.others lock stands rfl member
    · exact Or.inr ⟨rfl, fun _ => rfl⟩
    · intro other member
      rw [List.mem_singleton.mp member]
      refine ⟨_, rfl, by rw [clients], ?_, ?_, mints.live⟩
      · simp only [taken, Bool.or_eq_true, not_or, Bool.not_eq_true,
          Option.isSome_eq_false_iff, Option.isNone_iff_eq_none] at refused
        rw [← clients]
        exact refused.2.1
      · exact whole.insertClient mints id

theorem Sound.commit
    (sound : Sound pool)
    (lock : LockKept pool)
    {id : String}
    {client : PairedClient}
    (stands : pool.tasks[index]? = some (.commit id client)) :
    Sound ((program parse).step pool (.advance index answer)) := by
  obtain ⟨tables, writing, _, _, whole, _⟩ :=
    sound.each _ (List.mem_of_getElem? stands)
  have performs : pool.shared.perform parse (.commit id client) answer =
      pool.shared.commit id answer := rfl
  unfold Auth.commit at performs
  simp only [writing] at performs
  by_cases fault : answer.fault = true
  · rw [if_pos fault] at performs
    exact sound.rollBack lock stands rfl performs
  · rw [if_neg fault] at performs
    apply sound.writes stands performs whole
    · intro other member
      exact Pool.Locked.others lock stands rfl member
    · exact Or.inl (Nat.lt_succ_self _)
    · nofun

theorem Sound.step
    (reads : ∀ instant : UtcInstant, instant.year ≤ 9999 →
      parse instant.toRfc3339 = some instant)
    (sound : Sound pool)
    (lock : LockKept pool)
    (move : Move AuthCall AuthAnswer)
    (inTime : InTime pool move) :
    Sound ((program parse).step pool move) := by
  cases move with
  | call request => exact sound.call request inTime
  | advance index answer =>
      cases stands : pool.tasks[index]? with
      | none =>
          rw [(program parse).step_idle stands]
          exact sound
      | some task =>
          cases task with
          | prune codeHash now => exact sound.prune lock stands
          | insertSession codeHash now =>
              exact sound.insertSession lock stands
          | begin redemption =>
              by_cases fault : answer.fault = true
              · exact sound.notes stands (if_pos fault) nofun
              · apply sound.notes stands (if_neg fault)
                intro other member
                rw [List.mem_singleton.mp member]
                trivial
          | select redemption => exact sound.select reads stands
          | consume codeHash snapshot id client =>
              exact sound.consume lock stands
          | insertClient id client => exact sound.insertClient lock stands
          | commit id client => exact sound.commit lock stands

/-! ## Runs -/

/-- After a step the clients are those before it, or there is one more, whose
code was not pruned and valid when it was judged, and which is what a
redemption has just returned. -/
def MintsOne (before after : Auth) : Prop :=
  after.stored.clients = before.stored.clients ∨
    ∃ id client,
      before.stored.clients.lookup id = none ∧
        after.stored.clients = before.stored.clients.insert id client ∧
        after.returned = some (.consumed (.ok (some id))) ∧
        client.issue ∉ before.pruned ∧
        client.judged ≤ client.expires

/-- Only a commit changes the clients. -/
theorem clients_perform
    (auth : Auth)
    (task : AuthTask)
    (other : ∀ id client, task ≠ .commit id client)
    (answer : AuthAnswer) :
    (auth.perform parse task answer).1.stored.clients =
      auth.stored.clients := by
  cases task with
  | prune codeHash now =>
      change (auth.prune codeHash now answer).1.stored.clients = _
      unfold Auth.prune
      split_ifs <;> rfl
  | insertSession codeHash now =>
      change (auth.insertSession codeHash now answer).1.stored.clients = _
      unfold Auth.insertSession
      split_ifs <;> rfl
  | begin redemption =>
      change (ite _ _ _ : Auth × List AuthTask).1.stored.clients = _
      split_ifs <;> rfl
  | select redemption =>
      change (auth.select parse redemption answer).1.stored.clients = _
      unfold Auth.select
      dsimp only
      split
      case isTrue fault => rfl
      case isFalse well =>
          split
          case h_1 absent => rfl
          case h_2 session found => split_ifs <;> rfl
  | consume codeHash snapshot id client =>
      change (auth.consume codeHash snapshot id client
        answer).1.stored.clients = _
      unfold Auth.consume
      split_ifs
      case pos fault => rfl
      case pos busy => rfl
      case pos stale => rfl
      case neg current =>
          split
          case h_1 absent => rfl
          case h_2 session found => split_ifs <;> rfl
  | insertClient id client =>
      change (auth.insertClient id client answer).1.stored.clients = _
      unfold Auth.insertClient
      split
      case h_1 nothing => rfl
      case h_2 tables writing => split_ifs <;> rfl
  | commit id client => exact absurd rfl (other id client)

theorem Sound.commits
    (sound : Sound pool)
    {id : String}
    {client : PairedClient}
    (stands : pool.tasks[index]? = some (.commit id client)) :
    MintsOne pool.shared (pool.shared.commit id answer).1 := by
  obtain ⟨tables, writing, clients, absent, whole, live⟩ :=
    sound.each _ (List.mem_of_getElem? stands)
  unfold Auth.commit
  simp only [writing]
  split
  case isTrue fault => exact Or.inl rfl
  case isFalse well =>
      right
      refine ⟨id, client, absent, clients, rfl, live, ?_⟩
      apply (whole.minted id client _).2
      rw [clients]
      exact AList.lookup_insert _

theorem Sound.mintsOne
    (sound : Sound pool)
    (move : Move AuthCall AuthAnswer) :
    MintsOne pool.shared ((program parse).step pool move).shared := by
  cases move with
  | call request =>
      cases request with
      | createPairingCode codeHash now => exact Or.inl rfl
      | consumePairingCode redemption => exact Or.inl rfl
  | advance index answer =>
      cases stands : pool.tasks[index]? with
      | none =>
          rw [(program parse).step_idle stands]
          exact Or.inl rfl
      | some task =>
          rw [(program parse).step_advance stands]
          by_cases commits : ∃ id client, task = .commit id client
          · obtain ⟨id, client, rfl⟩ := commits
            exact sound.commits stands
          · left
            apply clients_perform
            intro id client same
            exact commits ⟨id, client, same⟩

/-- A deletion by a creation that read the clock keeps every row that a
redemption at that moment or later would find valid, and tells the texts apart
as the times. -/
def Spares
    (parse : String → Option UtcInstant)
    (now : UtcInstant)
    (before after : Auth) : Prop :=
  ∀ codeHash session,
    before.stored.sessions.lookup codeHash = some session →
      (∀ moment, now ≤ moment → accepts parse session moment = true →
        after.stored.sessions.lookup codeHash = some session) ∧
      (session.expiresAt < now.toRfc3339 ↔
        ∃ expires, parse session.expiresAt = some expires ∧ expires < now)

theorem Sound.spares
    (reads : ∀ instant : UtcInstant, instant.year ≤ 9999 →
      parse instant.toRfc3339 = some instant)
    (sound : Sound pool)
    {codeHash : String}
    {now : UtcInstant}
    (stands : pool.tasks[index]? = some (.prune codeHash now)) :
    Spares parse now pool.shared (pool.shared.prune codeHash now answer).1 := by
  have soon : now.year ≤ 9999 :=
    Nat.le_trans (now.year_le_plusSeconds 300 (by decide))
      (sound.each _ (List.mem_of_getElem? stands))
  intro other session found
  obtain ⟨four, written⟩ := sound.shared.written _ _ found
  have compared : session.expiresAt < now.toRfc3339 ↔
      session.expires < now := by
    rw [written, UtcInstant.toRfc3339_lt_iff four soon]
  constructor
  · intro moment late valid
    obtain ⟨unmarked, unexpired⟩ :=
      (accepts_iff reads four written moment).mp valid
    unfold Auth.prune
    split_ifs
    case pos fault => exact found
    case pos busy => exact found
    case neg free =>
        change (Table.filter _ pool.shared.stored.sessions).lookup other = _
        rw [Table.lookup_filter, found]
        apply Option.filter_some_pos
        have stays : ¬ session.expiresAt < now.toRfc3339 := by
          rw [compared]
          exact not_lt.mpr (le_trans late unexpired)
        simp [prunes, unmarked, stays]
  · rw [compared, written, reads _ four]
    simp

theorem sound_run
    (reads : ∀ instant : UtcInstant, instant.year ≤ 9999 →
      parse instant.toRfc3339 = some instant)
    (clock : UtcInstant)
    (moves : List (Move AuthCall AuthAnswer))
    (inTime : (machine parse clock).Along InTime moves) :
    Sound ((machine parse clock).run moves) := by
  have both := (machine parse clock).run_induction_along InTime
    (fun pool => Sound pool ∧ LockKept pool) ?_ ?_ moves inTime
  · exact both.1
  · exact ⟨⟨AuthTables.sound_empty, nofun⟩, rfl⟩
  · rintro pool move ⟨sound, lock⟩ timely
    exact ⟨sound.step reads lock move timely, lock.step move⟩

/-- If every code expires in a year of four digits: no code has minted two
clients; each client's code was valid at the reading of the clock by which it
was judged; a step adds a client only as what a redemption returns, and of a
code that is not pruned; and a creation deletes no row that a redemption at
that moment or later would find valid. -/
theorem pairing_codes_are_single_use
    (parse : String → Option UtcInstant)
    (reads : ∀ instant : UtcInstant, instant.year ≤ 9999 →
      parse instant.toRfc3339 = some instant)
    (clock : UtcInstant)
    (moves : List (Move AuthCall AuthAnswer))
    (inTime : (machine parse clock).Along InTime moves) :
    let pool := (machine parse clock).run moves
    (∀ id client other second,
      pool.shared.stored.clients.lookup id = some client →
      pool.shared.stored.clients.lookup other = some second →
      client.issue = second.issue → id = other) ∧
    (∀ id client, pool.shared.stored.clients.lookup id = some client →
      client.judged ≤ client.expires) ∧
    (∀ move,
      MintsOne pool.shared ((program parse).step pool move).shared) ∧
    ∀ index codeHash now answer,
      pool.tasks[index]? = some (.prune codeHash now) →
        Spares parse now pool.shared
          ((program parse).step pool (.advance index answer)).shared := by
  intro pool
  have sound := sound_run reads clock moves inTime
  refine ⟨sound.shared.single, ?_, sound.mintsOne, ?_⟩
  · intro id client found
    exact (sound.shared.minted id client found).2
  · intro index codeHash now answer stands
    rw [(program parse).step_advance stands]
    exact sound.spares reads stands

/-- A second of the last day of a year. -/
def newYearsEve
    (year second : Nat)
    (seconds : second < 86400) : UtcInstant where
  year := year
  month := 12
  day := 31
  second := second
  nanos := 0
  months := by decide
  days := ⟨by decide, Nat.le_refl 31⟩
  seconds := seconds
  fractions := by decide

/-- Noon of that day. -/
def noon : UtcInstant :=
  newYearsEve 2026 43200 (by decide)

/-- A redemption by a laptop. -/
def laptop : Redemption where
  codeHash := "code"
  clientName := "Laptop"
  tokenHash := "token"

/-- The next statement of the call at the front, while the clock reads first
one instant, then another. -/
def runs (now later : UtcInstant) : Move AuthCall AuthAnswer :=
  .advance 0 { now := now, later := later, uuid := "laptop" }

/-- A code is created and redeemed, with given readings of the clock at the
check and at the mint. -/
def redeemed (now later : UtcInstant) : List (Move AuthCall AuthAnswer) :=
  [.call (.createPairingCode "code" noon), runs noon noon, runs noon noon,
    .call (.consumePairingCode laptop), runs noon noon, runs now later,
    runs later later, runs later later, runs later later]

theorem pairing_codes_are_single_use_redeemed :
    let pool := (machine UtcInstant.ofRfc3339 noon).run (redeemed noon noon)
    (∀ id client, pool.shared.stored.clients.lookup id = some client →
      client.judged ≤ client.expires) ∧
      (pool.shared.stored.clients.lookup "laptop").isSome = true := by
  have inTime : (machine UtcInstant.ofRfc3339 noon).Along InTime
      (redeemed noon noon) := by
    apply Machine.along_of_alongFrom
    have early : (validity (max noon noon)).year ≤ 9999 := by decide
    exact ⟨early, trivial, trivial, trivial, trivial, trivial, trivial,
      trivial, trivial, trivial⟩
  obtain ⟨_, judged, _⟩ := pairing_codes_are_single_use UtcInstant.ofRfc3339
    (fun instant => UtcInstant.ofRfc3339_toRfc3339) noon
    (redeemed noon noon) inTime
  exact ⟨judged, by decide⟩

/-- The clock passes the end of a code between the check and the mint. -/
def afterNoon : UtcInstant :=
  newYearsEve 2026 43501 (by decide)

/-- Two minutes before the year 10000. -/
def lastMinutes : UtcInstant :=
  newYearsEve 9999 86280 (by decide)

/-- Reads also the end of the codes that are created then. -/
def readsOn (text : String) : Option UtcInstant :=
  if text = (validity lastMinutes).toRfc3339 then
    some (validity lastMinutes)
  else
    UtcInstant.ofRfc3339 text

/-- Two codes are created then; the second creation is about to prune. -/
def lastCodes : List (Move AuthCall AuthAnswer) :=
  [.call (.createPairingCode "code" lastMinutes),
    runs lastMinutes lastMinutes, runs lastMinutes lastMinutes,
    .call (.createPairingCode "other" lastMinutes)]

/-- A client is minted, and dated, after its code has expired; and a code that
expires in the year 10000 is pruned at a moment at which it could be
redeemed. -/
theorem late_mint_and_early_prune :
    (let pool := (machine UtcInstant.ofRfc3339 noon).run
        (redeemed noon afterNoon)
      ∃ client, pool.shared.stored.clients.lookup "laptop" = some client ∧
        client.createdAt = pool.shared.clock.toRfc3339 ∧
        client.expires < pool.shared.clock) ∧
      let pool := (machine readsOn lastMinutes).run lastCodes
      let next := (machine readsOn lastMinutes).run
        (lastCodes ++ [runs lastMinutes lastMinutes])
      (pool.shared.stored.sessions.lookup "code").any
          (accepts readsOn · lastMinutes) = true ∧
        (next.shared.stored.sessions.lookup "code").isNone = true := by
  refine ⟨⟨_, rfl, ?_, ?_⟩, ?_, ?_⟩
  · decide
  · decide
  · decide
  · decide

end Auth
end Daemon
end Hearthdeck
