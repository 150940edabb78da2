import Hearthdeck.Daemon.ProviderWorker

/-!
# Refresh coalescing

The invariant that relates the flags under the mutex, the token in the channel
and the program points of the worker and of every call, and what follows from
it for all interleavings: one pending token for a set `queued`, no send that
waits under the lock, one run for every `Queued`, and a worker that always
gets back to an idle state.
-/

namespace Hearthdeck
namespace Daemon
namespace ProviderWorker

/-! ## What the parties hold -/

/-- Tokens received and not yet acknowledged under the lock. -/
def WorkerPhase.unacknowledged : WorkerPhase → Nat
  | .acknowledging => 1
  | _ => 0

/-- A run was begun and has not ended. -/
def WorkerPhase.inProgress : WorkerPhase → Bool
  | .starting => true
  | .running => true
  | _ => false

/-- The worker is between its two visits to the flags. -/
def WorkerPhase.busy : WorkerPhase → Bool
  | .starting => true
  | .running => true
  | .recording _ => true
  | .settling => true
  | _ => false

/-- The call was made and has neither returned nor been dropped. -/
def CallPhase.active : CallPhase → Bool
  | .waiting => true
  | .sending => true
  | .answering _ => true
  | _ => false

/-- The call holds the lock. -/
def CallPhase.locks : CallPhase → Bool
  | .sending => true
  | .answering _ => true
  | _ => false

/-- The answer of a call, from the moment it is fixed. -/
def CallPhase.answer? : CallPhase → Option RefreshRequest
  | .answering answer => some answer
  | .returned answer => some answer
  | _ => none

namespace System

/-- Tokens in the channel or received but not yet acknowledged. -/
def pending (system : System) : Nat :=
  system.tokens + system.phase.unacknowledged

/-- Number of calls with a given answer. -/
def answered
    (system : System)
    (answer : RefreshRequest) : Nat :=
  system.answers.countP fun entry => decide (entry.2 = answer)

/-- The calls, the lock and the answers agree with each other. -/
structure Registered (system : System) : Prop where
  flight : ∀ id, id ∈ system.inFlight ↔ (system.calls id).active = true
  lock : ∀ id, system.holder = some id ↔ (system.calls id).locks = true
  sends : ∀ id, system.calls id ≠ .sending
  logged : ∀ id answer, (id, answer) ∈ system.answers ↔
    (system.calls id).answer? = some answer
  distinct : (system.answers.map Prod.fst).Nodup
  known : ∀ id, (id, .unknownProvider) ∉ system.answers
  unborrowed : system.abandoned = true → system.inFlight = ∅

/-- The flags, the tokens and the runs agree with each other. -/
structure Accounted (system : System) : Prop where
  flag : system.pending = if system.state.queued then 1 else 0
  busy : system.state.running = system.phase.busy
  single : system.state.running = true → system.state.queued = false
  runs : system.started =
    system.finished + if system.phase.inProgress then 1 else 0
  total : system.started + system.pending = system.answered .queued
  ended : system.phase = .ended →
    system.abandoned = true ∧ system.tokens = 0

/-- The invariant of the protocol. -/
structure Coherent (system : System) : Prop
    extends Registered system, Accounted system

theorem spawn_coherent
    (id : String)
    (kind : ProviderKind) :
    Coherent (spawn id kind) := by
  refine ⟨⟨?_, ?_, ?_, ?_, ?_, ?_, ?_⟩, ⟨?_, ?_, ?_, ?_, ?_, ?_⟩⟩ <;>
    simp [spawn, pending, answered, CallPhase.active, CallPhase.locks,
      CallPhase.answer?, WorkerPhase.unacknowledged, WorkerPhase.busy,
      WorkerPhase.inProgress]

/-! ## Steps of the calls -/

@[simp] theorem calls_moveCall
    (system : System)
    (id other : Nat)
    (phase : CallPhase) :
    (system.moveCall id phase).calls other =
      if other = id then phase else system.calls other :=
  Function.update_apply _ _ _ _

/-- A call that neither holds the lock nor has an answer may move to any such
phase, in step with the calls in flight. -/
theorem registered_moveCall
    {system : System}
    (registered : Registered system)
    {id : Nat}
    {phase : CallPhase}
    (unlocked : (system.calls id).locks = false)
    (unanswered : (system.calls id).answer? = none)
    (stillUnlocked : phase.locks = false)
    (stillUnanswered : phase.answer? = none)
    {inFlight : Finset Nat}
    (flight : ∀ other, other ∈ inFlight ↔
      if other = id then phase.active = true else other ∈ system.inFlight)
    (abandoned : system.abandoned = true → inFlight = ∅) :
    Registered { system.moveCall id phase with inFlight := inFlight } where
  flight := fun other => by
    rw [flight, registered.flight]
    simp only [calls_moveCall]
    split <;> rfl
  lock := fun other => by
    have before := registered.lock other
    simp only [calls_moveCall]
    split
    · rename_i same
      subst same
      rw [stillUnlocked]
      rw [unlocked] at before
      exact before
    · exact before
  sends := fun other => by
    simp only [calls_moveCall]
    split
    · rintro rfl
      simp [CallPhase.locks] at stillUnlocked
    · exact registered.sends other
  logged := fun other answer => by
    have before := registered.logged other answer
    simp only [calls_moveCall]
    split
    · rename_i same
      subst same
      rw [stillUnanswered]
      rw [unanswered] at before
      exact before
    · exact before
  distinct := registered.distinct
  known := registered.known
  unborrowed := abandoned

theorem call_coherent
    {system : System}
    (coherent : Coherent system)
    (id : Nat) :
    Coherent (system.call id) := by
  unfold call
  split
  · rename_i enabled
    obtain ⟨shared, absent⟩ := enabled
    refine ⟨registered_moveCall coherent.toRegistered ?_ ?_ rfl rfl ?_ ?_,
      ⟨coherent.flag, coherent.busy, coherent.single, coherent.runs,
        coherent.total, coherent.ended⟩⟩
    · rw [absent]; rfl
    · rw [absent]; rfl
    · intro other
      simp only [Finset.mem_insert, CallPhase.active]
      split <;> simp_all
    · intro gone
      rw [shared] at gone
      cases gone
  · exact coherent

/-- What being granted the lock leads to: the refresh is already scheduled, or
the flags are clear, the channel has room and the token goes through. -/
theorem acquire_cases
    {system : System}
    (coherent : Coherent system)
    (id : Nat) :
    system.acquire id = system ∨
      system.holder = none ∧ system.calls id = .waiting ∧
        (system.acquire id =
            { system with holder := some id }.answer id .alreadyScheduled ∨
          system.phase ≠ .ended ∧
            system.state = { running := false, queued := false } ∧
            system.acquire id =
              { system with
                holder := some id
                state := { running := false, queued := true }
                tokens := 1 }.answer id .queued) := by
  unfold acquire
  split
  · rename_i enabled
    refine Or.inr ⟨enabled.1, enabled.2, ?_⟩
    unfold enqueue
    split
    · exact Or.inl rfl
    · rename_i clear
      simp only [Bool.or_eq_true, not_or, Bool.not_eq_true] at clear
      have flag := coherent.flag
      simp only [clear.2, pending, Bool.false_eq_true, if_false] at flag
      have empty : system.tokens = 0 := by omega
      have inFlight : id ∈ system.inFlight := by
        rw [coherent.flight, enabled.2]
        rfl
      have alive : system.phase ≠ .ended := by
        intro ended
        rw [coherent.unborrowed (coherent.ended ended).1] at inFlight
        simp at inFlight
      have cleared : system.state = { running := false, queued := false } :=
        RefreshState.ext clear.1 clear.2
      refine Or.inr ⟨alive, cleared, ?_⟩
      simp [send, alive, empty, capacity, cleared]
  · exact Or.inl rfl

/-- A waiting call that gets the free lock and an answer. -/
theorem registered_answer
    {system : System}
    (registered : Registered system)
    {id : Nat}
    {result : RefreshRequest}
    (free : system.holder = none)
    (waiting : system.calls id = .waiting)
    (served : result ≠ .unknownProvider)
    (state : RefreshState)
    (tokens : Nat) :
    Registered ({ system with
      holder := some id
      state := state
      tokens := tokens }.answer id result) where
  flight := fun other => by
    have before := registered.flight other
    simp only [answer, calls_moveCall]
    split
    · rename_i same
      subst same
      rw [waiting] at before
      exact before
    · exact before
  lock := fun other => by
    have before := registered.lock other
    simp only [answer, moveCall, Function.update_apply,
      Option.some.injEq]
    rw [free] at before
    split
    · simp_all [CallPhase.locks]
    · rename_i different
      rw [← before]
      simp [Ne.symm different]
  sends := fun other => by
    simp only [answer, calls_moveCall]
    split
    · simp
    · exact registered.sends other
  logged := fun other given => by
    have before := registered.logged other given
    simp only [answer, calls_moveCall, List.mem_append,
      List.mem_singleton, Prod.mk.injEq]
    split
    · rename_i same
      subst same
      rw [waiting] at before
      simp only [before, CallPhase.answer?]
      constructor
      · rintro (absurdity | ⟨_, rfl⟩)
        · cases absurdity
        · rfl
      · intro same
        exact Or.inr ⟨trivial, (Option.some.inj same).symm⟩
    · rename_i different
      rw [← before]
      simp [different]
  distinct := by
    have fresh : ∀ given, (id, given) ∉ system.answers := by
      intro given
      rw [registered.logged, waiting]
      simp [CallPhase.answer?]
    simp only [answer, List.map_append, List.map_cons, List.map_nil]
    rw [List.nodup_append]
    refine ⟨registered.distinct, by simp, ?_⟩
    simp only [List.mem_map, List.mem_singleton]
    rintro _ ⟨⟨other, given⟩, member, rfl⟩ _ rfl rfl
    exact fresh given member
  known := fun other => by
    simp only [answer, List.mem_append, List.mem_singleton,
      Prod.mk.injEq, not_or]
    exact ⟨registered.known other, fun same => served same.2.symm⟩
  unborrowed := registered.unborrowed

theorem acquire_coherent
    {system : System}
    (coherent : Coherent system)
    (id : Nat) :
    Coherent (system.acquire id) := by
  rcases acquire_cases coherent id with
    same | ⟨free, waiting, scheduled | ⟨alive, clear, sent⟩⟩
  · rw [same]
    exact coherent
  · rw [scheduled]
    refine ⟨registered_answer coherent.toRegistered free waiting (by simp)
      system.state system.tokens, ⟨coherent.flag, coherent.busy,
        coherent.single, coherent.runs, ?_, coherent.ended⟩⟩
    have total := coherent.total
    simp only [answered, pending, answer, moveCall, List.countP_append]
      at total ⊢
    simpa using total
  · have flag := coherent.flag
    have total := coherent.total
    have busy := coherent.busy
    simp only [clear, pending, Bool.false_eq_true, if_false] at flag busy
    rw [sent]
    refine ⟨registered_answer coherent.toRegistered free waiting (by simp)
      { running := false, queued := true } 1,
      ⟨?_, busy, fun impossible => ?_, coherent.runs, ?_,
        fun ended => absurd ended alive⟩⟩
    · simp only [pending, answer, moveCall, if_true]
      omega
    · cases impossible
    · simp only [pending, answered, answer, moveCall, List.countP_append,
        List.countP_singleton, decide_true, if_true] at total ⊢
      omega

/-- No send ever waits, so there is none to resume. -/
theorem resume_eq
    {system : System}
    (coherent : Coherent system)
    (id : Nat) :
    system.resume id = system :=
  if_neg (coherent.sends id)

theorem release_coherent
    {system : System}
    (coherent : Coherent system)
    (id : Nat) :
    Coherent (system.release id) := by
  unfold release
  split
  · rename_i answer answering
    have holds : system.holder = some id := by
      rw [coherent.lock, answering]
      rfl
    refine ⟨⟨?_, ?_, ?_, ?_, coherent.distinct, coherent.known, ?_⟩,
      ⟨coherent.flag, coherent.busy, coherent.single, coherent.runs,
        coherent.total, coherent.ended⟩⟩
    · intro other
      simp only [Finset.mem_erase, coherent.flight, calls_moveCall]
      split <;> simp_all [CallPhase.active]
    · intro other
      have before := coherent.lock other
      simp only [moveCall, Function.update_apply]
      split
      · simp [CallPhase.locks]
      · rename_i different
        rw [← before, holds]
        simp [Ne.symm different]
    · intro other
      simp only [calls_moveCall]
      split
      · simp
      · exact coherent.sends other
    · intro other given
      have before := coherent.logged other given
      simp only [calls_moveCall]
      split
      · rename_i same
        subst same
        rw [answering] at before
        exact before
      · exact before
    · intro gone
      simp only [coherent.unborrowed gone, Finset.erase_empty]
  · exact coherent

theorem cancel_coherent
    {system : System}
    (coherent : Coherent system)
    (id : Nat) :
    Coherent (system.cancel id) := by
  unfold cancel
  split
  · rename_i waiting
    refine ⟨registered_moveCall coherent.toRegistered ?_ ?_ rfl rfl ?_ ?_,
      ⟨coherent.flag, coherent.busy, coherent.single, coherent.runs,
        coherent.total, coherent.ended⟩⟩
    · rw [waiting]; rfl
    · rw [waiting]; rfl
    · intro other
      simp only [Finset.mem_erase, CallPhase.active]
      split <;> simp_all
    · intro gone
      rw [coherent.unborrowed gone, Finset.erase_empty]
  · rename_i sending
    exact absurd sending (coherent.sends id)
  · exact coherent

theorem abandon_coherent
    {system : System}
    (coherent : Coherent system) :
    Coherent system.abandon := by
  unfold abandon
  split
  · rename_i none
    exact ⟨⟨coherent.flight, coherent.lock, coherent.sends, coherent.logged,
      coherent.distinct, coherent.known, fun _ => none⟩,
      ⟨coherent.flag, coherent.busy, coherent.single, coherent.runs,
        coherent.total, fun ended => ⟨rfl, (coherent.ended ended).2⟩⟩⟩
  · exact coherent

/-! ## Steps of the worker -/

/-- Steps that leave the calls, the lock and the answers alone keep them in
agreement. -/
theorem registered_of_eq
    {before after : System}
    (registered : Registered before)
    (abandoned : after.abandoned = before.abandoned)
    (holder : after.holder = before.holder)
    (calls : after.calls = before.calls)
    (inFlight : after.inFlight = before.inFlight)
    (answers : after.answers = before.answers) :
    Registered after := by
  obtain ⟨flight, lock, sends, logged, distinct, known, unborrowed⟩ :=
    registered
  constructor <;> simp only [abandoned, holder, calls, inFlight, answers] <;>
    assumption

theorem receive_coherent
    {system : System}
    (coherent : Coherent system) :
    Coherent system.receive := by
  unfold receive
  split
  · rename_i receiving
    have flag := coherent.flag
    have busy := coherent.busy
    have runs := coherent.runs
    have total := coherent.total
    simp only [pending, answered, receiving, WorkerPhase.unacknowledged,
      WorkerPhase.busy, WorkerPhase.inProgress] at flag busy runs total
    split
    · rename_i waiting
      refine ⟨registered_of_eq coherent.toRegistered rfl rfl rfl rfl rfl,
        ⟨?_, busy, coherent.single, runs, ?_, fun ended => ?_⟩⟩
      · simp only [pending, WorkerPhase.unacknowledged]
        omega
      · simp only [pending, answered, WorkerPhase.unacknowledged]
        omega
      · cases ended
    · split
      · rename_i empty gone
        exact ⟨registered_of_eq coherent.toRegistered rfl rfl rfl rfl rfl,
          ⟨flag, busy, coherent.single, runs, total,
            fun _ => ⟨gone, Nat.eq_zero_of_not_pos empty⟩⟩⟩
      · exact coherent
  · exact coherent

theorem acknowledge_coherent
    {system : System}
    (coherent : Coherent system) :
    Coherent system.acknowledge := by
  unfold acknowledge
  split
  · rename_i enabled
    have flag := coherent.flag
    have runs := coherent.runs
    have total := coherent.total
    simp only [pending, answered, enabled.1, WorkerPhase.unacknowledged,
      WorkerPhase.inProgress, Bool.false_eq_true, if_false]
      at flag runs total
    have received : system.tokens = 0 := by
      split at flag <;> omega
    refine ⟨registered_of_eq coherent.toRegistered rfl rfl rfl rfl rfl,
      ⟨?_, rfl, fun _ => rfl, ?_, ?_, fun ended => ?_⟩⟩
    · simp [pending, WorkerPhase.unacknowledged, received]
    · simp only [WorkerPhase.inProgress, if_true]
      omega
    · simp only [pending, answered, WorkerPhase.unacknowledged]
      omega
    · cases ended
  · exact coherent

/-- A busy worker that stays busy keeps the flags and the tokens in
agreement. -/
theorem coherent_of_busy
    {system : System}
    (coherent : Coherent system)
    (busy : system.phase.busy = true)
    {phase : WorkerPhase}
    (stillBusy : phase.busy = true)
    (health : ProviderHealth)
    {finished : Nat}
    (runs : system.finished + (if system.phase.inProgress then 1 else 0) =
      finished + if phase.inProgress then 1 else 0) :
    Coherent { system with
      phase := phase
      health := health
      finished := finished } := by
  have quiet : ∀ phase : WorkerPhase, phase.busy = true →
      phase.unacknowledged = 0 := by
    intro phase busy
    cases phase <;> simp_all [WorkerPhase.busy, WorkerPhase.unacknowledged]
  have flag := coherent.flag
  have total := coherent.total
  simp only [pending, quiet _ busy] at flag total
  refine ⟨registered_of_eq coherent.toRegistered rfl rfl rfl rfl rfl,
    ⟨?_, ?_, coherent.single, ?_, ?_, ?_⟩⟩
  · simp only [pending, quiet _ stillBusy]
    exact flag
  · rw [stillBusy, coherent.busy, busy]
  · rw [← runs]
    exact coherent.runs
  · simp only [pending, quiet _ stillBusy]
    exact total
  · rintro rfl
    cases stillBusy

theorem start_coherent
    {system : System}
    (coherent : Coherent system)
    (now : String) :
    Coherent (system.start now) := by
  unfold start
  split
  · rename_i starting
    apply coherent_of_busy coherent
    · rw [starting]; rfl
    · rfl
    · rw [starting]; rfl
  · exact coherent

theorem complete_coherent
    {system : System}
    (coherent : Coherent system)
    (outcome : RunOutcome) :
    Coherent (system.complete outcome) := by
  unfold complete
  split
  · rename_i running
    apply coherent_of_busy coherent
    · rw [running]; rfl
    · rfl
    · rw [running]; rfl
  · exact coherent

theorem record_coherent
    {system : System}
    (coherent : Coherent system)
    (now : String) :
    Coherent (system.record now) := by
  unfold record
  split
  · rename_i outcome recording
    apply coherent_of_busy coherent
    · rw [recording]; rfl
    · rfl
    · rw [recording]; rfl
  · exact coherent

theorem settle_coherent
    {system : System}
    (coherent : Coherent system) :
    Coherent system.settle := by
  unfold settle
  split
  · rename_i enabled
    have flag := coherent.flag
    have runs := coherent.runs
    have total := coherent.total
    simp only [pending, answered, enabled.1, WorkerPhase.unacknowledged,
      WorkerPhase.inProgress] at flag runs total
    refine ⟨registered_of_eq coherent.toRegistered rfl rfl rfl rfl rfl,
      ⟨flag, rfl, fun impossible => ?_, runs, total, fun ended => ?_⟩⟩
    · cases impossible
    · cases ended
  · exact coherent

/-- Every step of every party keeps the invariant. -/
theorem step_coherent
    {system : System}
    (coherent : Coherent system)
    (step : Step) :
    Coherent (system.step step) := by
  cases step with
  | call id => exact call_coherent coherent id
  | acquire id => exact acquire_coherent coherent id
  | resume id =>
      rw [System.step, resume_eq coherent id]
      exact coherent
  | release id => exact release_coherent coherent id
  | cancel id => exact cancel_coherent coherent id
  | abandon => exact abandon_coherent coherent
  | receive => exact receive_coherent coherent
  | acknowledge => exact acknowledge_coherent coherent
  | start now => exact start_coherent coherent now
  | complete outcome => exact complete_coherent coherent outcome
  | record now => exact record_coherent coherent now
  | settle => exact settle_coherent coherent

/-- The invariant holds after every interleaving of the parties. -/
theorem run_coherent
    (id : String)
    (kind : ProviderKind)
    (steps : List Step) :
    Coherent ((machine id kind).run steps) :=
  Foundation.Machine.run_induction (machine id kind) Coherent
    (spawn_coherent id kind)
    (fun _ step coherent => step_coherent coherent step) steps

/-! ## The worker always gets back to an idle state -/

end System

/-- A step that waits for nobody but the provider: the holder of the lock
returns, or the worker goes on, its run ending in a given way. -/
def Step.Forward (outcome : RunOutcome) : Step → Prop
  | .release _ => True
  | .receive => True
  | .acknowledge => True
  | .start _ => True
  | .complete ending => ending = outcome
  | .record _ => True
  | .settle => True
  | _ => False

namespace System

/-- Both flags are clear and no token is pending. -/
def Idle (system : System) : Prop :=
  system.state = { running := false, queued := false } ∧ system.pending = 0

/-- A few steps forward leave the worker idle, however its run ends. -/
def Drains (system : System) : Prop :=
  ∀ outcome, ∃ steps : List Step,
    steps.length ≤ 7 ∧
      (∀ step ∈ steps, step.Forward outcome) ∧
      (steps.foldl System.step system).Idle

/-- Number of steps the worker is away from an empty channel. -/
def distance (system : System) : Nat :=
  match system.phase with
  | .receiving => if system.tokens = 0 then 0 else 6
  | .acknowledging => 5
  | .starting => 4
  | .running => 3
  | .recording _ => 2
  | .settling => 1
  | .ended => 0

theorem distance_le (system : System) : system.distance ≤ 6 := by
  unfold distance
  split
  · split <;> omega
  all_goals omega

theorem idle_of_distance_eq_zero
    {system : System}
    (coherent : Coherent system)
    (arrived : system.distance = 0) :
    system.Idle := by
  have flag := coherent.flag
  have busy := coherent.busy
  have empty : system.pending = 0 ∧ system.phase.busy = false := by
    unfold distance at arrived
    split at arrived <;> rename_i phase
    · split at arrived
      · rename_i empty
        simp [pending, phase, empty, WorkerPhase.unacknowledged,
          WorkerPhase.busy]
      · omega
    · omega
    · omega
    · omega
    · omega
    · omega
    · simp [pending, phase, (coherent.ended phase).2,
        WorkerPhase.unacknowledged, WorkerPhase.busy]
  rw [empty.1] at flag
  rw [empty.2] at busy
  refine ⟨RefreshState.ext busy ?_, empty.1⟩
  cases queued : system.state.queued with
  | false => rfl
  | true => simp [queued] at flag

/-- While the lock is free, the worker's next step brings it closer. -/
theorem forward_step
    {system : System}
    (coherent : Coherent system)
    (free : system.holder = none)
    (away : system.distance ≠ 0)
    (outcome : RunOutcome) :
    ∃ step : Step, step.Forward outcome ∧
      (system.step step).holder = none ∧
      (system.step step).distance < system.distance := by
  cases phase : system.phase with
  | receiving =>
      have waiting : 0 < system.tokens := by
        simp only [distance, phase] at away
        split at away <;> omega
      refine ⟨.receive, trivial, ?_, ?_⟩
      · simpa [step, receive, phase, waiting] using free
      · have apart : system.tokens ≠ 0 := by omega
        simp [step, receive, distance, phase, waiting, apart]
  | acknowledging =>
      refine ⟨.acknowledge, trivial, ?_, ?_⟩ <;>
        simp [step, acknowledge, distance, phase, free]
  | starting =>
      refine ⟨.start "", trivial, ?_, ?_⟩ <;>
        simp [step, start, distance, phase, free]
  | running =>
      refine ⟨.complete outcome, rfl, ?_, ?_⟩ <;>
        simp [step, complete, distance, phase, free]
  | recording ending =>
      refine ⟨.record "", trivial, ?_, ?_⟩ <;>
        simp [step, record, distance, phase, free]
  | settling =>
      have running : system.state.running = true := by
        rw [coherent.busy, phase]
        rfl
      have flag := coherent.flag
      simp only [coherent.single running, pending, Bool.false_eq_true,
        if_false] at flag
      have empty : system.tokens = 0 := by omega
      refine ⟨.settle, trivial, ?_, ?_⟩ <;>
        simp [step, settle, distance, phase, free, empty]
  | ended =>
      simp [distance, phase] at away

theorem drains_of_free
    (bound : Nat)
    {system : System}
    (coherent : Coherent system)
    (free : system.holder = none)
    (near : system.distance ≤ bound)
    (outcome : RunOutcome) :
    ∃ steps : List Step, steps.length ≤ bound ∧
      (∀ step ∈ steps, step.Forward outcome) ∧
      (steps.foldl System.step system).Idle := by
  induction bound generalizing system with
  | zero =>
      refine ⟨[], Nat.le_refl 0, by simp, ?_⟩
      exact idle_of_distance_eq_zero coherent (Nat.le_zero.mp near)
  | succ bound inductionHypothesis =>
      by_cases arrived : system.distance = 0
      · refine ⟨[], by simp, by simp, ?_⟩
        exact idle_of_distance_eq_zero coherent arrived
      · obtain ⟨step, forward, stillFree, closer⟩ :=
          forward_step coherent free arrived outcome
        obtain ⟨steps, short, forwards, idle⟩ :=
          inductionHypothesis (step_coherent coherent step) stillFree
            (by omega)
        refine ⟨step :: steps, ?_, ?_, idle⟩
        · rw [List.length_cons]
          omega
        · simpa using ⟨forward, forwards⟩

/-- The call that holds the lock can return at once. -/
theorem exists_release
    {system : System}
    (coherent : Coherent system)
    {id : Nat}
    (held : system.holder = some id) :
    (system.release id).holder = none := by
  have locks := (coherent.lock id).mp held
  unfold release
  cases phase : system.calls id with
  | answering answer => rfl
  | sending => exact absurd phase (coherent.sends id)
  | absent => simp [phase, CallPhase.locks] at locks
  | waiting => simp [phase, CallPhase.locks] at locks
  | returned answer => simp [phase, CallPhase.locks] at locks
  | dropped => simp [phase, CallPhase.locks] at locks

theorem drains_of_coherent
    {system : System}
    (coherent : Coherent system) :
    system.Drains := by
  intro outcome
  cases held : system.holder with
  | none =>
      obtain ⟨steps, short, forwards, idle⟩ :=
        drains_of_free 6 coherent held system.distance_le outcome
      exact ⟨steps, by omega, forwards, idle⟩
  | some id =>
      have released := step_coherent coherent (.release id)
      obtain ⟨steps, short, forwards, idle⟩ :=
        drains_of_free 6 released (exists_release coherent held)
          (distance_le _) outcome
      refine ⟨.release id :: steps, ?_, ?_, idle⟩
      · rw [List.length_cons]
        omega
      · simpa using ⟨trivial, forwards⟩

end System

/-- Refresh coalescing, after every interleaving of any number of calls with
the worker.  A token is pending exactly while `queued` is set; no call ever
waits for room in the channel while it holds the lock; at most one run is in
progress; every answer `Queued` stands for one run begun or one token
pending, and every answered call has returned once the lock is free; a set
flag has a token or a busy worker behind it, and the worker can always clear
both flags, however its runs end. -/
theorem refresh_coalesces
    (id : String)
    (kind : ProviderKind)
    (steps : List Step) :
    let system := (machine id kind).run steps
    (system.tokens + system.phase.unacknowledged =
        if system.state.queued then 1 else 0) ∧
      (∀ call, system.calls call ≠ .sending) ∧
      (system.finished ≤ system.started ∧
        system.started ≤ system.finished + 1) ∧
      (system.started + (system.tokens + system.phase.unacknowledged) =
        system.answered .queued) ∧
      ((system.answers.map Prod.fst).Nodup ∧
        (∀ call answer, (call, answer) ∈ system.answers ↔
          (system.calls call).answer? = some answer) ∧
        (system.holder = none → ∀ call answer,
          (call, answer) ∈ system.answers ↔
            system.calls call = .returned answer)) ∧
      ((system.state.queued = true → system.pending = 1) ∧
        (system.state.running = true → system.phase.busy = true) ∧
        system.Drains) := by
  intro system
  have coherent : System.Coherent system := System.run_coherent id kind steps
  refine ⟨coherent.flag, coherent.sends, ?_, coherent.total,
    ⟨coherent.distinct, coherent.logged, ?_⟩, ?_, ?_,
    System.drains_of_coherent coherent⟩
  · rw [coherent.runs]
    split <;> omega
  · intro free call answer
    rw [coherent.logged]
    have unlocked := coherent.lock call
    rw [free] at unlocked
    cases phase : system.calls call <;>
      simp_all [CallPhase.locks, CallPhase.answer?]
  · intro queued
    rw [coherent.flag, queued]
    rfl
  · intro running
    rw [← coherent.busy]
    exact running

/-! ## The health record over a run -/

/-- The step is one of a caller and not one of the worker. -/
def Step.ofCallers : Step → Bool
  | .call _ => true
  | .acquire _ => true
  | .resume _ => true
  | .release _ => true
  | .cancel _ => true
  | .abandon => true
  | _ => false

/-- The health record says `Refreshing` exactly while a begun run is not yet
recorded, and carries an error exactly when it says `Degraded`. -/
def System.Healthy (system : System) : Prop :=
  (system.health.status = .refreshing ↔
    system.phase = .running ∨ ∃ outcome, system.phase = .recording outcome) ∧
  (system.health.lastError.isSome = true ↔ system.health.status = .degraded)

namespace System

@[simp] theorem health_send (system : System) (id : Nat) :
    (system.send id).health = system.health := by
  unfold send
  split
  · rfl
  · split <;> rfl

@[simp] theorem phase_send (system : System) (id : Nat) :
    (system.send id).phase = system.phase := by
  unfold send
  split
  · rfl
  · split <;> rfl

/-- What the callers do concerns neither the worker's phase nor the health
record. -/
theorem step_of_callers
    (system : System)
    (step : Step)
    (outer : step.ofCallers = true) :
    (system.step step).phase = system.phase ∧
      (system.step step).health = system.health := by
  cases step with
  | call id =>
      simp only [System.step, call]
      split <;> exact ⟨rfl, rfl⟩
  | acquire id =>
      simp only [System.step, acquire, enqueue]
      split
      · split
        · exact ⟨rfl, rfl⟩
        · simp
      · exact ⟨rfl, rfl⟩
  | resume id =>
      simp only [System.step, resume]
      split <;> simp
  | release id =>
      simp only [System.step, release]
      split <;> exact ⟨rfl, rfl⟩
  | cancel id =>
      simp only [System.step, cancel]
      split <;> exact ⟨rfl, rfl⟩
  | abandon =>
      simp only [System.step, abandon]
      split <;> exact ⟨rfl, rfl⟩
  | receive | acknowledge | start | complete | record | settle => cases outer

theorem step_healthy
    {system : System}
    (healthy : system.Healthy)
    (step : Step) :
    (system.step step).Healthy := by
  by_cases outer : step.ofCallers = true
  · obtain ⟨phase, health⟩ := step_of_callers system step outer
    unfold Healthy
    rw [phase, health]
    exact healthy
  unfold Healthy at healthy
  cases step with
  | call | acquire | resume | release | cancel | abandon =>
      exact absurd rfl outer
  | receive =>
      simp only [System.step, receive]
      split
      · rename_i receiving
        simp only [receiving] at healthy
        split
        · simpa [Healthy] using healthy
        · split
          · simpa [Healthy] using healthy
          · simpa [Healthy, receiving] using healthy
      · exact healthy
  | acknowledge =>
      simp only [System.step, acknowledge]
      split
      · rename_i enabled
        simpa [Healthy, enabled.1] using healthy
      · exact healthy
  | start now =>
      simp only [System.step, start]
      split
      · simp [Healthy, recordProviderStarted]
      · exact healthy
  | complete outcome =>
      simp only [System.step, complete]
      split
      · rename_i running
        simpa [Healthy, running] using healthy
      · exact healthy
  | record now =>
      simp only [System.step, record]
      split
      · rename_i outcome _
        cases outcome <;>
          simp [Healthy, recordOutcome, recordProviderSuccess,
            recordProviderFailure]
      · exact healthy
  | settle =>
      simp only [System.step, settle]
      split
      · rename_i enabled
        simpa [Healthy, enabled.1] using healthy
      · exact healthy

/-- The health record tells the worker's phase after every interleaving. -/
theorem run_healthy
    (id : String)
    (kind : ProviderKind)
    (steps : List Step) :
    ((machine id kind).run steps).Healthy := by
  apply Foundation.Machine.run_induction (machine id kind) Healthy
  · simp [Healthy, machine, spawn, startingProviderHealth]
  · intro system step healthy
    exact step_healthy healthy step

end System

end ProviderWorker
end Daemon
end Hearthdeck
