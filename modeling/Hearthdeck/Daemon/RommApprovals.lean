import Hearthdeck.Daemon.RommLink

/-!
# Approvals of the link to RomM

The link to RomM, seen as an account with one pending approval, keeps what
such an account keeps.  Beyond that a poll spaces its requests: it asks only
when the last one that noted its time did so at least the interval ago.  The
time is noted before the request is sent, and on whatever is pending; the
requests are the interval apart if no other poll is about to send one for that
device code, and none was sent later than it was noted by so much that it is
too recent.
-/

namespace Hearthdeck
namespace Daemon

open Foundation

/-! ## The account that is seen -/

/-- What a call under way has before it, as a call on an account. -/
def RommTask.seen : RommTask → LinkTask
  | save _ _ began => .save began
  | cancel => .clear
  | clearRomm => .cleared
  | requestSession _ began => .login began
  | requestToken _ began => .login began
  | cancelFor _ _ began => .login began
  | saveFor _ _ began => .save began
  | requestDevice _ began => .start began
  | put _ _ _ _ began => .start began
  | read => .poll
  | expire pending => .expire pending.approval
  | note pending _ => .note pending.approval
  | request pending _ => .ask pending.approval
  | settle pending answer => .finish pending.approval answer.isApproved
  | saveLinked pending _ => .store pending.approval

/-- A call that is refused if an address is not accepted. -/
def LinkCall.at
    (call : LinkCall)
    (normalized : Except String String) : LinkCall :=
  match normalized with
  | .error _ => .refused
  | .ok _ => call

/-- A call, as a call on an account. -/
def RommCall.seen
    (normalize : String → Except String String) : RommCall → LinkCall
  | save _ _ => .save
  | clear => .clear
  | login baseUrl => LinkCall.login.at (normalize baseUrl)
  | startLink baseUrl => LinkCall.start.at (normalize baseUrl)
  | pollLink => .poll

namespace RommAccount

/-- The account. -/
def seen (account : RommAccount) : Account where
  pending := account.pending.map PendingDevice.approval
  standing := account.standing
  stored := account.stored.map RommRow.began
  puts := account.puts
  clears := account.clears

variable {service : RommService}

/-- Credentials are stored, or the call fails. -/
def stores
    (service : RommService)
    (account : RommAccount)
    (baseUrl token : String)
    (began : Nat)
    (reply : RommReply) : Outcome :=
  match account.saveRomm service baseUrl token began reply with
  | .ok _ => .acts
  | .error _ => .ends

/-- How a section comes out. -/
def outcome
    (service : RommService)
    (account : RommAccount)
    (task : RommTask)
    (reply : RommReply) : Outcome :=
  match task with
  | .save baseUrl token began =>
      account.stores service baseUrl token began reply
  | .cancel => .acts
  | .clearRomm => if reply.fault.isSome then .ends else .acts
  | .requestSession baseUrl _ =>
      match requested baseUrl reply.minted with
      | .ok _ => .goes
      | .error _ => .ends
  | .requestToken baseUrl _ =>
      match requested baseUrl reply.minted with
      | .ok _ => .goes
      | .error _ => .ends
  | .cancelFor _ _ _ => .acts
  | .saveFor baseUrl token began =>
      account.stores service baseUrl token began reply
  | .requestDevice baseUrl _ =>
      match requested baseUrl reply.device with
      | .ok _ => .goes
      | .error _ => .ends
  | .put _ _ _ _ _ => .acts
  | .read =>
      match account.pending with
      | none => .ends
      | some pending =>
          let now := max account.clock reply.now
          if isOver pending now then
            .acts
          else if isRecent pending (max now reply.later) then
            .ends
          else
            .goes
  | .expire _ => .acts
  | .note _ _ => .acts
  | .request _ _ =>
      match reply.token.map interpretDeviceToken with
      | some (.ok .pending) => .ends
      | some (.ok answer) => .answered answer.isApproved
      | _ => .ends
  | .settle _ _ => .acts
  | .saveLinked pending token =>
      account.stores service pending.baseUrl token pending.approval.began
        reply

/-- A section that stores credentials is seen as one, whichever call it
belongs to. -/
theorem saving_seen
    (account : RommAccount)
    (baseUrl token : String)
    (began : Nat)
    (reply : RommReply)
    (saved : RommSettings → RommReturned)
    (failed : String → RommReturned)
    {task : LinkTask}
    (acts : account.seen.perform task .acts =
      ({ account.seen with stored := some began }, []))
    (ends : account.seen.perform task .ends = (account.seen, [])) :
    account.seen.perform task
        (account.stores service baseUrl token began reply) =
      ((account.saving service baseUrl token began reply saved failed).1.seen,
        (account.saving service baseUrl token began reply saved
          failed).2.map RommTask.seen) := by
  unfold stores saving saveRomm
  cases normalizeRommUrl service baseUrl with
  | error error => exact ends
  | ok baseUrl =>
      dsimp only
      split_ifs
      case pos refused => exact ends
      case neg accepted =>
          cases reply.fault with
          | some error => exact ends
          | none => exact acts

/-- Every section is seen as the section it stands for. -/
theorem perform_seen
    (account : RommAccount)
    (task : RommTask)
    (reply : RommReply) :
    account.seen.perform task.seen (account.outcome service task reply) =
      ((account.perform service task reply).1.seen,
        (account.perform service task reply).2.map RommTask.seen) := by
  cases task with
  | save baseUrl token began =>
      simp only [outcome, perform]
      apply saving_seen
      · rfl
      · rfl
  | cancel => rfl
  | clearRomm =>
      simp only [outcome, perform, clearRomm]
      cases reply.fault with
      | some error => rfl
      | none => rfl
  | requestSession baseUrl began =>
      simp only [outcome, perform, requestSession]
      cases requested baseUrl reply.minted with
      | error error => rfl
      | ok token => rfl
  | requestToken baseUrl began =>
      simp only [outcome, perform, requestToken]
      cases requested baseUrl reply.minted with
      | error error => rfl
      | ok token => rfl
  | cancelFor baseUrl token began => rfl
  | saveFor baseUrl token began =>
      simp only [outcome, perform]
      apply saving_seen
      · rfl
      · rfl
  | requestDevice baseUrl began =>
      simp only [outcome, perform, requestDevice]
      cases requested baseUrl reply.device with
      | error error => rfl
      | ok init => rfl
  | put baseUrl init offer started began => rfl
  | read =>
      change account.seen.read _ = ((account.read reply).1.seen, _)
      obtain ⟨current, stored, clock, standing, puts, clears, sent,
        returned⟩ := account
      cases current with
      | none => rfl
      | some pending =>
          simp only [outcome, perform, read]
          split_ifs
          case pos late => rfl
          case pos recent => rfl
          case neg due => rfl
  | expire pending => rfl
  | note pending secondsLeft =>
      change (account.seen, _) = ((account.note _ _ _).1.seen, _)
      obtain ⟨current, stored, clock, standing, puts, clears, sent,
        returned⟩ := account
      cases current with
      | none => rfl
      | some current => rfl
  | request pending secondsLeft =>
      simp only [outcome, perform, request]
      cases reply.token with
      | none => rfl
      | some response =>
          dsimp only [Option.map_some]
          cases interpretDeviceToken response with
          | error error => rfl
          | ok answer =>
              cases answer with
              | pending => rfl
              | denied => rfl
              | expired => rfl
              | approved token => rfl
  | settle pending answer =>
      cases answer with
      | approved token => rfl
      | denied => rfl
      | expired => rfl
      | pending => rfl
  | saveLinked pending token =>
      simp only [outcome, perform]
      apply saving_seen
      · rfl
      · rfl

/-- Every call begins as the call it stands for. -/
theorem enter_seen
    (normalize : String → Except String String)
    (account : RommAccount)
    (call : RommCall) :
    account.seen.enter (call.seen normalize) =
      ((account.enter normalize call).1.seen,
        (account.enter normalize call).2.map RommTask.seen) := by
  cases call with
  | save baseUrl token => rfl
  | clear => rfl
  | login baseUrl =>
      simp only [RommCall.seen, enter]
      cases normalize baseUrl with
      | error error => rfl
      | ok baseUrl => rfl
  | startLink baseUrl =>
      simp only [RommCall.seen, enter]
      cases normalize baseUrl with
      | error error => rfl
      | ok baseUrl => rfl
  | pollLink => rfl

/-- The link to RomM, seen as an account with one pending approval. -/
def view (service : RommService) :
    View (program service) Account.program where
  shared := seen
  task := RommTask.seen
  call := RommCall.seen (normalizeRommUrl service)
  answer := outcome service
  idle := .ends
  enter := enter_seen (normalizeRommUrl service)
  perform := perform_seen

end RommAccount

/-! ## Requests -/

namespace RommTask

/-- The approval that a poll has yet to ask about. -/
def asks : RommTask → Option PendingDevice
  | note pending _ => some pending
  | request pending _ => some pending
  | _ => none

/-- The call has yet to send a request for a device code. -/
def sends (deviceCode : String) (task : RommTask) : Bool :=
  task.asks.any fun pending => pending.deviceCode == deviceCode

/-- The approval that a poll read. -/
def copy : RommTask → Option PendingDevice
  | expire pending => some pending
  | note pending _ => some pending
  | request pending _ => some pending
  | settle pending _ => some pending
  | saveLinked pending _ => some pending
  | _ => none

end RommTask

namespace RommAccount

/-- A poll is about to ask about what is pending while another poll has yet to
send a request for that device code, or while the last one was sent less than
the interval ago. -/
def AsksEarly
    (pool : Pool RommAccount RommTask)
    (reply : RommReply) : Prop :=
  ∃ pending, pool.shared.pending = some pending ∧
    let now := max pool.shared.clock reply.now
    let later := max now reply.later
    isOver pending now = false ∧ isRecent pending later = false ∧
      ((∃ task ∈ pool.tasks, task.sends pending.deviceCode = true) ∨
        ∃ time, (pending.deviceCode, time) ∈ pool.shared.sent ∧
          later < time + pending.interval)

/-- A step after which a poll meets an approval that is not its own,
credentials come back, or a request comes too early. -/
def Slips
    (service : RommService)
    (pool : Pool RommAccount RommTask)
    (move : Move RommCall RommReply) : Prop :=
  Account.Slips ((view service).pool pool) ((view service).move pool move) ∨
    match move with
    | .call _ => False
    | .advance index reply =>
        match pool.tasks[index]? with
        | some .read => AsksEarly pool reply
        | _ => False

/-- What a section does to the requests: it sends none and leaves no poll that
is to send one; it is the decision of a poll to ask, or its note of the time;
or it sends the request. -/
inductive Asking
    (account : RommAccount)
    (reply : RommReply) :
    RommTask → RommAccount × List RommTask → Prop
  | quiet
      (task : RommTask)
      (next : RommAccount)
      (left : List RommTask)
      (sent : next.sent = account.sent)
      (clock : account.clock ≤ next.clock)
      (others : ∀ other ∈ left, other.asks = none)
      (silent : task.asks = none) :
      Asking account reply task (next, left)
  | decides
      (pending : PendingDevice)
      (next : RommAccount)
      (secondsLeft : Nat)
      (found : account.pending = some pending)
      (running : isOver pending (max account.clock reply.now) = false)
      (due : isRecent pending
        (max (max account.clock reply.now) reply.later) = false)
      (sent : next.sent = account.sent)
      (clock : next.clock = max (max account.clock reply.now) reply.later) :
      Asking account reply .read (next, [.note pending secondsLeft])
  | notes
      (pending : PendingDevice)
      (next : RommAccount)
      (secondsLeft : Nat)
      (sent : next.sent = account.sent)
      (clock : account.clock ≤ next.clock) :
      Asking account reply (.note pending secondsLeft)
        (next, [.request pending secondsLeft])
  | sends
      (pending : PendingDevice)
      (next : RommAccount)
      (secondsLeft : Nat)
      (left : List RommTask)
      (sent : next.sent = account.sent ++
        [(pending.deviceCode, max account.clock reply.now)])
      (clock : next.clock = max account.clock reply.now)
      (others : ∀ other ∈ left, other.asks = none) :
      Asking account reply (.request pending secondsLeft) (next, left)

variable {service : RommService}

/-- A section that ends the call, or goes on without a request to send. -/
theorem Asking.ends
    {account next : RommAccount}
    {reply : RommReply}
    {task : RommTask}
    {returned : RommReturned}
    (silent : task.asks = none := by rfl)
    (sent : next.sent = account.sent := by rfl)
    (clock : account.clock ≤ next.clock := by exact Nat.le_refl _) :
    Asking account reply task (next.ends returned) :=
  .quiet task _ [] sent clock nofun silent

theorem Asking.goes
    {account next : RommAccount}
    {reply : RommReply}
    {task left : RommTask}
    (silent : task.asks = none := by rfl)
    (quiet : left.asks = none := by rfl)
    (sent : next.sent = account.sent := by rfl)
    (clock : account.clock ≤ next.clock := by exact Nat.le_refl _) :
    Asking account reply task (next.goes left) := by
  refine .quiet task _ [left] sent clock ?_ silent
  intro other member
  rw [List.mem_singleton.mp member]
  exact quiet

/-- A call that stores credentials ends, and changes at most what is
stored. -/
theorem saving_cases
    (account : RommAccount)
    (baseUrl token : String)
    (began : Nat)
    (reply : RommReply)
    (saved : RommSettings → RommReturned)
    (failed : String → RommReturned) :
    ∃ stored returned,
      account.saving service baseUrl token began reply saved failed =
        { account with stored := stored }.ends returned := by
  have cases : (∃ error, account.saveRomm service baseUrl token began reply =
      .error error) ∨ ∃ settings row,
        account.saveRomm service baseUrl token began reply =
          .ok (settings, { account with stored := some row }) := by
    unfold saveRomm
    split
    case h_1 error _ => exact Or.inl ⟨error, rfl⟩
    case h_2 baseUrl _ =>
        dsimp only
        split_ifs
        case pos refused => exact Or.inl ⟨_, rfl⟩
        case neg accepted =>
            cases reply.fault with
            | some error => exact Or.inl ⟨error, rfl⟩
            | none => exact Or.inr ⟨_, _, rfl⟩
  unfold saving
  rcases cases with ⟨error, fails⟩ | ⟨settings, row, stores⟩
  · rw [fails]
    exact ⟨account.stored, failed error, rfl⟩
  · rw [stores]
    exact ⟨some row, saved settings, rfl⟩

theorem asking_saving
    (account : RommAccount)
    (baseUrl token : String)
    (began : Nat)
    (reply : RommReply)
    (saved : RommSettings → RommReturned)
    (failed : String → RommReturned)
    {task : RommTask}
    (silent : task.asks = none) :
    Asking account reply task
      (account.saving service baseUrl token began reply saved failed) := by
  obtain ⟨stored, returned, saves⟩ :=
    account.saving_cases baseUrl token began reply saved
      failed
  rw [saves]
  exact .ends silent

theorem asking_perform
    (service : RommService)
    (account : RommAccount)
    (task : RommTask)
    (reply : RommReply) :
    Asking account reply task (account.perform service task reply) := by
  cases task with
  | save baseUrl token began =>
      simp only [perform]
      apply asking_saving
      rfl
  | cancel => exact .goes
  | clearRomm =>
      simp only [perform, clearRomm]
      cases reply.fault with
      | some error => exact .ends
      | none => exact .ends
  | requestSession baseUrl began =>
      simp only [perform, requestSession]
      cases requested baseUrl reply.minted with
      | error error => exact .ends
      | ok token => exact .goes
  | requestToken baseUrl began =>
      simp only [perform, requestToken]
      cases requested baseUrl reply.minted with
      | error error => exact .ends
      | ok token => exact .goes
  | cancelFor baseUrl token began => exact .goes
  | saveFor baseUrl token began =>
      simp only [perform]
      apply asking_saving
      rfl
  | requestDevice baseUrl began =>
      simp only [perform, requestDevice]
      cases requested baseUrl reply.device with
      | error error => exact .ends
      | ok init => exact .goes (by rfl) (by rfl) (by rfl) (Nat.le_max_left _ _)
  | put baseUrl init offer started began =>
      exact .ends
  | read =>
      simp only [perform, read]
      cases found : account.pending with
      | none => exact .ends
      | some pending =>
          dsimp only
          have first := Nat.le_max_left account.clock reply.now
          have second := Nat.le_max_left (max account.clock reply.now)
            reply.later
          split_ifs
          case pos late => exact .goes (by rfl) (by rfl) (by rfl) first
          case pos recent =>
              exact .ends (by rfl) (by rfl) (Nat.le_trans first second)
          case neg running due =>
              exact .decides pending _ _ found
                (Bool.eq_false_iff.mpr running) (Bool.eq_false_iff.mpr due)
                rfl rfl
  | expire pending => exact .ends
  | note pending secondsLeft =>
      exact .notes pending _ secondsLeft rfl (Nat.le_max_left _ _)
  | request pending secondsLeft =>
      simp only [perform, request]
      cases reply.token with
      | none => exact .sends pending _ secondsLeft _ rfl rfl nofun
      | some response =>
          dsimp only
          split
          case h_1 error =>
              exact .sends pending _ secondsLeft _ rfl rfl nofun
          case h_2 waits =>
              exact .sends pending _ secondsLeft _ rfl rfl nofun
          case h_3 answer _ _ =>
              refine .sends pending _ secondsLeft _ rfl rfl ?_
              intro other member
              rw [List.mem_singleton.mp member]
              rfl
  | settle pending answer =>
      cases answer with
      | approved token => exact .goes
      | denied => exact .ends
      | expired => exact .ends
      | pending => exact .ends
  | saveLinked pending token =>
      simp only [perform]
      apply asking_saving
      rfl

/-! ## Intervals -/

/-- At most one poll has yet to send a request for a device code. -/
def Alone (pool : Pool RommAccount RommTask) : Prop :=
  pool.Exclusive RommTask.sends

/-- What a poll has yet to ask about was last asked about the interval ago. -/
def Spaced (account : RommAccount) (task : RommTask) : Prop :=
  ∀ pending, task.asks = some pending →
    ∀ time, (pending.deviceCode, time) ∈ account.sent →
      time + pending.interval ≤ account.clock

theorem Spaced.of_asks_eq_none
    {account : RommAccount}
    {task : RommTask}
    (silent : task.asks = none) :
    Spaced account task := by
  intro pending asks
  exact absurd (silent.symm.trans asks) nofun

theorem Spaced.mono
    {account next : RommAccount}
    {task : RommTask}
    (spaced : Spaced account task)
    (sent : next.sent = account.sent)
    (clock : account.clock ≤ next.clock) :
    Spaced next task := by
  intro pending asks time member
  rw [sent] at member
  exact Nat.le_trans (spaced pending asks time member) clock

theorem sends_eq_false
    {task : RommTask}
    (silent : task.asks = none)
    (deviceCode : String) :
    task.sends deviceCode = false := by
  unfold RommTask.sends
  rw [silent]
  rfl

theorem countP_eq_zero
    {tasks : List RommTask}
    (silent : ∀ other ∈ tasks, other.asks = none)
    (deviceCode : String) :
    tasks.countP (RommTask.sends deviceCode) = 0 := by
  rw [List.countP_eq_zero]
  intro other member
  exact Bool.eq_false_iff.mp (sends_eq_false (silent other member) deviceCode)

/-- The intervals are kept so far. -/
structure Paced (pool : Pool RommAccount RommTask) : Prop where
  alone : Alone pool
  spaced : ∀ task ∈ pool.tasks, Spaced pool.shared task

/-- An enabled slip of a poll that decides to ask. -/
def Early
    (pool : Pool RommAccount RommTask)
    (index : Nat)
    (reply : RommReply) : Prop :=
  pool.tasks[index]? = some .read ∧ AsksEarly pool reply

theorem Alone.advance
    {pool : Pool RommAccount RommTask}
    (alone : Alone pool)
    {index : Nat}
    {task : RommTask}
    (stands : pool.tasks[index]? = some task)
    {reply : RommReply}
    (calm : ¬ Early pool index reply) :
    Alone ((program service).step pool (.advance index reply)) := by
  apply Pool.Exclusive.advance alone stands
  intro deviceCode
  have asking := asking_perform service pool.shared task reply
  change Asking _ _ _ ((program service).perform pool.shared task reply)
    at asking
  generalize (program service).perform pool.shared task reply = performed
    at asking
  cases asking with
  | quiet task next left sent clock others silent =>
      left
      rw [countP_eq_zero others deviceCode]
      exact Nat.zero_le _
  | decides pending next secondsLeft found running due sent clock =>
      by_cases same : pending.deviceCode = deviceCode
      · right
        refine ⟨List.countP_le_length, ?_⟩
        intro other member
        apply Bool.eq_false_iff.mpr
        intro sends
        rw [← same] at sends
        exact calm ⟨stands, pending, found, running, due,
          Or.inl ⟨other, member, sends⟩⟩
      · left
        simp [RommTask.sends, RommTask.asks, same]
  | notes pending next secondsLeft sent clock =>
      left
      dsimp only
      rw [List.countP_singleton]
      exact Nat.le_refl _
  | sends pending next secondsLeft left sent clock others =>
      left
      rw [countP_eq_zero others deviceCode]
      exact Nat.zero_le _

theorem Paced.advance
    {pool : Pool RommAccount RommTask}
    (paced : Paced pool)
    {index : Nat}
    {task : RommTask}
    (stands : pool.tasks[index]? = some task)
    {reply : RommReply}
    (calm : ¬ Early pool index reply) :
    Paced ((program service).step pool (.advance index reply)) := by
  refine ⟨paced.alone.advance stands calm, ?_⟩
  have held := paced.spaced task (List.mem_of_getElem? stands)
  have asking := asking_perform service pool.shared task reply
  rw [(program service).step_advance stands]
  change Asking _ _ _ ((program service).perform pool.shared task reply)
    at asking
  generalize (program service).perform pool.shared task reply = performed
    at asking
  intro other member
  rcases List.mem_append.mp member with stood | new
  · have spaced := paced.spaced other (List.mem_of_mem_eraseIdx stood)
    cases asking with
    | quiet task next left sent clock others silent =>
        exact spaced.mono sent clock
    | decides pending next secondsLeft found running due sent clock =>
        apply spaced.mono sent
        rw [clock]
        exact Nat.le_trans (Nat.le_max_left _ _) (Nat.le_max_left _ _)
    | notes pending next secondsLeft sent clock =>
        exact spaced.mono sent clock
    | sends pending next secondsLeft left sent clock others =>
        intro second asks time listed
        dsimp only at listed ⊢
        rw [sent] at listed
        rw [clock]
        rcases List.mem_append.mp listed with old | last
        · exact Nat.le_trans (spaced second asks time old)
            (Nat.le_max_left _ _)
        · -- Another poll is about to ask for the same device code.
          have nobody := Pool.Exclusive.others paced.alone stands
            (by simp [RommTask.sends, RommTask.asks] :
              RommTask.sends pending.deviceCode _ = true) stood
          have same : second.deviceCode = pending.deviceCode :=
            (Prod.mk.inj (List.mem_singleton.mp last)).1
          simp [RommTask.sends, asks, same] at nobody
  · cases asking with
    | quiet task next left sent clock others silent =>
        exact .of_asks_eq_none (others other new)
    | decides pending next secondsLeft found running due sent clock =>
        rw [List.mem_singleton.mp new]
        intro second asks time listed
        obtain rfl : pending = second := Option.some.inj asks
        dsimp only at listed ⊢
        rw [sent] at listed
        rw [clock]
        by_contra early
        exact calm ⟨stands, pending, found, running, due,
          Or.inr ⟨time, listed, Nat.not_le.mp early⟩⟩
    | notes pending next secondsLeft sent clock =>
        rw [List.mem_singleton.mp new]
        exact Spaced.mono (fun second asks => held second asks) sent clock
    | sends pending next secondsLeft left sent clock others =>
        exact .of_asks_eq_none (others other new)

/-- A call has sent no request, and is not about to. -/
def Quiet
    (account : RommAccount)
    (entered : RommAccount × List RommTask) : Prop :=
  (∀ other ∈ entered.2, other.asks = none) ∧
    entered.1.sent = account.sent ∧ entered.1.clock = account.clock

theorem Quiet.goes
    {account : RommAccount}
    {task : RommTask}
    (silent : task.asks = none) :
    Quiet account (account.goes task) := by
  refine ⟨?_, rfl, rfl⟩
  intro other member
  rw [List.mem_singleton.mp member]
  exact silent

theorem Quiet.ends
    (account : RommAccount)
    (returned : RommReturned) :
    Quiet account (account.ends returned) :=
  ⟨nofun, rfl, rfl⟩

theorem enter_quiet
    (normalize : String → Except String String)
    (account : RommAccount)
    (call : RommCall) :
    Quiet account (account.enter normalize call) := by
  cases call with
  | save baseUrl token => exact .goes rfl
  | clear => exact .goes rfl
  | login baseUrl =>
      simp only [enter]
      cases normalize baseUrl with
      | error error => exact .ends _ _
      | ok baseUrl => exact .goes rfl
  | startLink baseUrl =>
      simp only [enter]
      cases normalize baseUrl with
      | error error => exact .ends _ _
      | ok baseUrl => exact .goes rfl
  | pollLink => exact .goes rfl

theorem Paced.step
    {pool : Pool RommAccount RommTask}
    (paced : Paced pool)
    (move : Move RommCall RommReply)
    (calm : ¬ Slips service pool move) :
    Paced ((program service).step pool move) := by
  cases move with
  | advance index reply =>
      cases stands : pool.tasks[index]? with
      | none =>
          rw [(program service).step_idle stands]
          exact paced
      | some task =>
          apply paced.advance stands
          rintro ⟨reads, early⟩
          apply calm
          right
          simpa only [reads] using early
  | call request =>
      obtain ⟨silent, sent, clock⟩ :=
        enter_quiet (normalizeRommUrl service) pool.shared request
      constructor
      · apply Pool.Exclusive.call paced.alone
        intro deviceCode other member
        exact sends_eq_false (silent other member) deviceCode
      · intro other member
        rcases List.mem_append.mp member with stood | new
        · exact (paced.spaced other stood).mono sent (Nat.le_of_eq clock.symm)
        · exact .of_asks_eq_none (silent other new)

/-! ## Runs -/

/-- What holds of the link to RomM in every state of a run without slips.
What is stored comes from a call that began after the last removal. -/
structure Settled
    (service : RommService)
    (pool : Pool RommAccount RommTask) : Prop where
  final : ∀ row, pool.shared.stored = some row →
    row.began = pool.shared.clears
  /-- A poll that read one approval leaves another one as it is. -/
  others : ∀ index task copy reply pending,
    pool.tasks[index]? = some task → task.copy = some copy →
    pool.shared.pending = some pending → pending.approval ≠ copy.approval →
      ((program service).step pool
        (.advance index reply)).shared.pending = some pending
  /-- A poll that is about to store credentials has them for the approval that
  was put last and not removed since. -/
  standing : ∀ pending token,
    RommTask.saveLinked pending token ∈ pool.tasks →
      pool.shared.standing = some pending.approval
  /-- A request is sent the interval after every other one for its device
  code. -/
  interval : ∀ (index : Nat) pending secondsLeft (reply : RommReply) time,
    pool.tasks[index]? = some (RommTask.request pending secondsLeft) →
    (pending.deviceCode, time) ∈ pool.shared.sent →
      time + pending.interval ≤ max pool.shared.clock reply.now

theorem Settled.of_sound
    {pool : Pool RommAccount RommTask}
    (sound : Account.Sound ((view service).pool pool))
    (paced : Paced pool) :
    Settled service pool := by
  have part : ∀ {task : RommTask}, task ∈ pool.tasks →
      Account.Part pool.shared.seen task.seen := by
    intro task member
    exact sound.each _ (List.mem_map_of_mem member)
  refine ⟨?_, ?_, ?_, ?_⟩
  · intro row stored
    apply sound.shared.stored
    change pool.shared.stored.map RommRow.began = _
    rw [stored]
    rfl
  · intro index task copy reply pending stands copied found different
    have own := part (List.mem_of_getElem? stands)
    have seen : pool.shared.seen.pending = some pending.approval := by
      change pool.shared.pending.map PendingDevice.approval = _
      rw [found]
      rfl
    rw [(program service).step_advance stands]
    change (pool.shared.perform service task reply).1.pending = _
    cases task with
    | expire read =>
        cases copied
        exact absurd (own _ seen) different
    | note read secondsLeft =>
        cases copied
        exact absurd (own _ seen) different
    | settle read answer =>
        cases copied
        exact absurd (own.1 _ seen) different
    | request read secondsLeft =>
        simp only [perform, request]
        cases reply.token with
        | none => exact found
        | some response =>
            dsimp only
            split
            case h_1 error => exact found
            case h_2 waits => exact found
            case h_3 answer _ _ => exact found
    | saveLinked read token =>
        simp only [perform]
        obtain ⟨stored, returned, saves⟩ := saving_cases pool.shared
          read.baseUrl token read.approval.began reply
          (fun settings => .polled (.ok (.linked settings)))
          fun error => .polled (.error (.storage error))
        rw [saves]
        exact found
    | _ => cases copied
  · intro pending token member
    exact part member
  · intro index pending secondsLeft reply time stands listed
    have spaced := paced.spaced _ (List.mem_of_getElem? stands)
    exact Nat.le_trans (spaced pending rfl time listed) (Nat.le_max_left _ _)

theorem settled_run
    (service : RommService)
    (row : Option (String × String × String))
    (moves : List (Move RommCall RommReply))
    (calm : (machine service row).Along
      (fun pool move => ¬ Slips service pool move) moves) :
    Settled service ((machine service row).run moves) := by
  have both := (machine service row).run_induction_along _
    (fun pool => Account.Sound ((view service).pool pool) ∧ Paced pool)
    ?_ ?_ moves calm
  · exact .of_sound both.1 both.2
  · refine ⟨⟨⟨nofun, nofun, ?_⟩, nofun⟩, ⟨fun _ => Nat.zero_le 1, nofun⟩⟩
    intro began stored
    cases row with
    | none => cases stored
    | some row =>
        cases stored
        rfl
  · rintro pool move ⟨sound, paced⟩ calm
    refine ⟨?_, paced.step move calm⟩
    change Account.Sound ((view service).pool
      ((program service).step pool move))
    rw [(view service).step_pool]
    exact sound.step _ fun slips => calm (Or.inl slips)

end RommAccount
end Daemon
end Hearthdeck
