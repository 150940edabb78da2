import Hearthdeck.Daemon.Categorizer

/-!
# Turning categorization off

A call that turns the feature off clears the setting, tells the running job
that its result is to be thrown away, and removes the rails and the verdicts.
A job is told only while it holds the slot, and writes only after it gave the
slot back; and whether the feature is on is asked before a job takes the slot.
The rails stay away if no job that can still write them is left when they are
removed, and the verdicts likewise.

In every run at most one job holds the slot, and the slot is taken exactly
while one does.
-/

namespace Hearthdeck
namespace Daemon

open Foundation

namespace Job

/-- The job holds the slot. -/
def holdsSlot : Job → Bool
  | downloading => true
  | scanning _ => true
  | classifying _ => true
  | _ => false

/-- A call that turns the feature off wrote the setting and has not ended. -/
def turnsOff : Job → Bool
  | disabled => true
  | discardRunning turningOff => turningOff
  | removeOwned turningOff => turningOff
  | clearTraits => true
  | _ => false

/-- The claim of a scan that can still write its rails, told whether the
running job is discarded. -/
def writes (discard : Bool) : Job → Option Nat
  | scanning claim => if discard then none else some claim
  | writingRails claim _ => some claim
  | _ => none

/-- The rails can come from here: a scan that can still write them, or a call
about to start one. -/
def publishes (discard : Bool) : Job → Bool
  | requestScan => true
  | job => (job.writes discard).isSome

/-- The verdicts can come from here: a detection that can still write them, or
a call about to start one. -/
def detects (discard : Bool) : Job → Bool
  | checkStatus => true
  | listing => true
  | comparing _ => true
  | requestDetection _ => true
  | classifying _ => !discard
  | recording _ _ => true
  | _ => false

end Job

/-- What the daemon finds when it starts. -/
structure Stored where
  engine : ScanEngine
  enabled : Bool
  collections : CollectionStore
  intact : collections.Intact
  traits : Traits

/-- The shared state a daemon starts with. -/
def Stored.open (stored : Stored) : Categorizer where
  engine := stored.engine
  enabled := stored.enabled
  collections := stored.collections
  traits := stored.traits

namespace Categorizer

/-- The daemon's categorization over its runs. -/
def machine (stored : Stored) :
    Machine (Pool Categorizer Job) (Move Control Outside) Unit :=
  program.machine stored.open

/-- No collection is owned by the feature. -/
def NoRails (collections : CollectionStore) : Prop :=
  ∀ slug row, collections.collections.lookup slug = some row →
    row.owner ≠ ownerLaya

/-- The rails are removed while a scan can still write them; or they are
removed to turn the feature off while a call is about to start a scan, or
without success. -/
def RemovesEarly
    (pool : Pool Categorizer Job)
    (turningOff : Bool)
    (outside : Outside) : Prop :=
  (∃ job ∈ pool.tasks,
    (job.writes pool.shared.scan.discard).isSome = true) ∨
    turningOff = true ∧
      (Job.requestScan ∈ pool.tasks ∨ outside.fault = true)

/-- The verdicts are cleared while a detection can still write them, or
without success. -/
def ClearsEarly
    (pool : Pool Categorizer Job)
    (outside : Outside) : Prop :=
  (∃ job ∈ pool.tasks,
    job.detects pool.shared.scan.discard = true) ∨
    outside.fault = true

/-- The setting is turned on while a call is turning it off, or by a call that
one which turned it off has outrun. -/
def EnablesLate
    (pool : Pool Categorizer Job)
    (outside : Outside) : Prop :=
  outside.fault = false ∧
    (pool.shared.off = true ∨ ∃ job ∈ pool.tasks, job.turnsOff = true)

/-- A step after which rails or verdicts can come back. -/
def Slips
    (pool : Pool Categorizer Job) :
    Move Control Outside → Prop
  | .call _ => False
  | .advance index outside =>
      match pool.tasks[index]? with
      | some (.removeOwned turningOff) =>
          RemovesEarly pool turningOff outside
      | some .clearTraits => ClearsEarly pool outside
      | some .enabling => EnablesLate pool outside
      | _ => False

/-! ## The slot -/

/-- The slot is taken exactly while one job holds it. -/
def SlotKept (pool : Pool Categorizer Job) : Prop :=
  pool.tasks.countP Job.holdsSlot =
    if pool.shared.scan.running then 1 else 0

/-- What a section does to the slot: it leaves it alone, takes it for the one
job it leaves, or gives it back. -/
inductive SlotMoves
    (shared : Categorizer)
    (job : Job) :
    Categorizer × List Job → Prop
  | same
      (next : Categorizer)
      (left : List Job)
      (running : next.scan.running = shared.scan.running)
      (free : job.holdsSlot = false)
      (others : left.countP Job.holdsSlot = 0) :
      SlotMoves shared job (next, left)
  | claimed
      (downloading : Bool)
      (holder : Job)
      (free : shared.scan.running = false)
      (before : job.holdsSlot = false)
      (holds : holder.holdsSlot = true) :
      SlotMoves shared job (shared.claim downloading, [holder])
  | released
      (error : Option String)
      (completes : Bool)
      (now : Instant)
      (left : List Job)
      (holds : job.holdsSlot = true)
      (others : left.countP Job.holdsSlot = 0) :
      SlotMoves shared job (shared.release error completes now, left)

theorem slotMoves_perform
    (shared : Categorizer)
    (job : Job)
    (outside : Outside) :
    SlotMoves shared job (shared.perform job outside) := by
  cases job with
  | enabling =>
      change SlotMoves shared _ (shared.enable outside)
      unfold enable
      split
      case isTrue fault => exact .same _ _ rfl rfl rfl
      case isFalse well => exact .same _ _ rfl rfl rfl
  | enabled =>
      refine .same _ _ rfl rfl ?_
      split
      case isTrue fault => rfl
      case isFalse well => rfl
  | requestDownload =>
      change SlotMoves shared _ (shared.requestDownload outside)
      unfold Categorizer.requestDownload
      split
      case isTrue unneeded => exact .same _ _ rfl rfl rfl
      case isFalse needed =>
          refine .claimed true .downloading ?_ rfl rfl
          simp only [Bool.or_eq_true, not_or, Bool.not_eq_true] at needed
          exact needed.2
  | disabling =>
      change SlotMoves shared _ (shared.disable outside)
      unfold disable
      split
      case isTrue fault => exact .same _ _ rfl rfl rfl
      case isFalse well => exact .same _ _ rfl rfl rfl
  | disabled =>
      refine .same _ _ rfl rfl ?_
      split
      case isTrue fault => rfl
      case isFalse well => rfl
  | discardRunning turningOff =>
      refine .same _ _ ?_ rfl rfl
      unfold discardRunning
      split
      case isTrue running => rfl
      case isFalse idle => rfl
  | removeOwned turningOff =>
      refine .same _ _ rfl rfl ?_
      cases turningOff with
      | true => rfl
      | false => rfl
  | clearTraits => exact .same _ _ rfl rfl rfl
  | publishing =>
      refine .same _ _ rfl rfl ?_
      split
      case isTrue refused => rfl
      case isFalse accepted => rfl
  | requestScan =>
      change SlotMoves shared _ shared.requestScan
      unfold Categorizer.requestScan
      split
      case isTrue running => exact .same _ _ rfl rfl rfl
      case isFalse idle =>
          exact .claimed false _ (Bool.eq_false_iff.mpr idle) rfl rfl
  | detecting =>
      refine .same _ _ rfl rfl ?_
      split
      case isTrue refused => rfl
      case isFalse accepted => rfl
  | checkStatus =>
      change SlotMoves shared _ (shared.checkStatus outside)
      unfold checkStatus
      split
      case isTrue refused => exact .same _ _ rfl rfl rfl
      case isFalse accepted => exact .same _ _ rfl rfl rfl
  | listing =>
      change SlotMoves shared _ (shared.listing outside)
      unfold listing
      split
      case isTrue ended => exact .same _ _ rfl rfl rfl
      case isFalse listed => exact .same _ _ rfl rfl rfl
  | comparing hashes =>
      change SlotMoves shared _ (shared.comparing hashes outside)
      unfold comparing
      split
      case isTrue ended => exact .same _ _ rfl rfl rfl
      case isFalse compared => exact .same _ _ rfl rfl rfl
  | requestDetection hashes =>
      change SlotMoves shared _ (shared.requestDetection hashes)
      unfold Categorizer.requestDetection
      split
      case isTrue running => exact .same _ _ rfl rfl rfl
      case isFalse idle =>
          exact .claimed false _ (Bool.eq_false_iff.mpr idle) rfl rfl
  | downloading => exact .released _ _ _ _ rfl rfl
  | scanning claim =>
      refine .released _ _ _ _ rfl ?_
      split
      case h_1 report =>
          split
          case isTrue discarded => rfl
          case isFalse kept => rfl
      case h_2 error => rfl
  | classifying hashes =>
      refine .released _ _ _ _ rfl ?_
      split
      case h_1 report =>
          split
          case isTrue discarded => rfl
          case isFalse kept => rfl
      case h_2 error => rfl
  | writingRails claim report => exact .same _ _ rfl rfl rfl
  | recording hashes report =>
      refine .same _ _ rfl rfl ?_
      split
      case isTrue written => rfl
      case isFalse failed => rfl
  | pruning => exact .same _ _ rfl rfl rfl

theorem SlotKept.step
    {pool : Pool Categorizer Job}
    (kept : SlotKept pool)
    (move : Move Control Outside) :
    SlotKept (program.step pool move) := by
  cases move with
  | call request =>
      unfold SlotKept at kept ⊢
      cases request with
      | enable =>
          change (pool.tasks ++ [Job.enabling]).countP _ = _
          rw [List.countP_append, kept]
          rfl
      | disable | removeCollections | publishCollections
          | detectFormFactors =>
          change (pool.tasks ++ [_]).countP _ = _
          rw [List.countP_append, kept]
          rfl
  | advance index outside =>
      cases stands : pool.tasks[index]? with
      | none =>
          rw [program.step_idle stands]
          exact kept
      | some job =>
          have counted := Pool.countP_advance program stands
            outside Job.holdsSlot
          have moves := slotMoves_perform pool.shared job outside
          unfold SlotKept at kept ⊢
          rw [kept] at counted
          rw [program.step_advance stands] at counted ⊢
          change SlotMoves _ _ (program.perform _ _ _) at moves
          generalize program.perform pool.shared job outside = performed
            at moves counted ⊢
          cases moves with
          | same next left running free others =>
              rw [free, others] at counted
              rw [running]
              simpa using counted
          | claimed downloading holder free before holds =>
              rw [free, before] at counted
              simpa [claim, holds] using counted
          | released error completes now left holds others =>
              rw [holds, others] at counted
              have one : (if pool.shared.scan.running = true then 1 else 0) ≤
                  1 := by
                split
                case isTrue running => exact Nat.le_refl 1
                case isFalse idle => exact Nat.zero_le 1
              simp only [if_true, Nat.add_zero] at counted
              change _ = 0
              dsimp only at counted ⊢
              omega

theorem slotKept_run
    (stored : Stored)
    (moves : List (Move Control Outside)) :
    SlotKept ((machine stored).run moves) := by
  apply (machine stored).run_induction SlotKept
  · rfl
  · intro pool move kept
    exact kept.step move

/-- While the slot is free, no job holds it. -/
theorem SlotKept.free
    {pool : Pool Categorizer Job}
    (kept : SlotKept pool)
    (idle : pool.shared.scan.running = false)
    {job : Job}
    (member : job ∈ pool.tasks) :
    job.holdsSlot = false := by
  unfold SlotKept at kept
  rw [idle, if_neg Bool.false_ne_true, List.countP_eq_zero] at kept
  exact Bool.eq_false_iff.mpr (kept job member)

/-! ## The invariant -/

/-- What holds of the shared state.  Rails that were swept are gone while the
setting is off, and with the feature off the verdicts are gone too. -/
structure Whole (shared : Categorizer) : Prop where
  intact : shared.collections.Intact
  counted : shared.removed ≤ shared.claims
  swept : shared.swept = true →
    shared.enabled = false ∧ NoRails shared.collections
  off : shared.off = true → shared.swept = true ∧ shared.traits = ∅

/-- What holds of a task.  A task that can still write rails or verdicts is
not left over from before they were removed. -/
structure Part (shared : Categorizer) (job : Job) : Prop where
  setting : job.turnsOff = true → shared.enabled = false
  clearing : job = .clearTraits → shared.swept = true
  publishes : job.publishes shared.scan.discard = true →
    shared.swept = false
  detects : job.detects shared.scan.discard = true → shared.off = false
  fresh : ∀ claim ∈ job.writes shared.scan.discard, shared.removed < claim

/-- A task that neither turns the feature off nor leads to a write. -/
theorem Part.of_plain
    {shared : Categorizer}
    {job : Job}
    (setting : job.turnsOff = false)
    (clearing : job ≠ .clearTraits)
    (publishes : ∀ discard, job.publishes discard = false)
    (detects : ∀ discard, job.detects discard = false)
    (writes : ∀ discard, job.writes discard = none) :
    Part shared job where
  setting := fun turns => by
    rw [setting] at turns
    cases turns
  clearing := fun same => absurd same clearing
  publishes := fun leads => by
    rw [publishes] at leads
    cases leads
  detects := fun leads => by
    rw [detects] at leads
    cases leads
  fresh := fun claim member => by
    rw [writes] at member
    cases member

/-- The slot changes hands under the tasks that do not hold it. -/
theorem Part.claim
    {shared : Categorizer}
    {job : Job}
    (part : Part shared job)
    (other : job.holdsSlot = false)
    (downloading : Bool) :
    Part (shared.claim downloading) job where
  setting := part.setting
  clearing := part.clearing
  publishes := fun leads => by
    apply part.publishes
    cases job <;> first | exact leads | cases other
  detects := fun leads => by
    apply part.detects
    cases job <;> first | exact leads | cases other
  fresh := fun claim member => by
    apply part.fresh claim
    cases job <;> first | exact member | cases other

/-- Giving the slot back disturbs no task. -/
theorem Part.release
    {shared : Categorizer}
    {job : Job}
    (part : Part shared job)
    (error : Option String)
    (completes : Bool)
    (now : Instant) :
    Part (shared.release error completes now) job :=
  ⟨part.setting, part.clearing, part.publishes, part.detects, part.fresh⟩

/-- A running job that is discarded can write no longer. -/
theorem Part.discardRunning
    {shared : Categorizer}
    {job : Job}
    (part : Part shared job) :
    Part shared.discardRunning job := by
  unfold Categorizer.discardRunning
  split
  case isFalse idle => exact part
  case isTrue running =>
      refine ⟨part.setting, part.clearing, ?_, ?_, ?_⟩
      · intro leads
        apply part.publishes
        cases job <;> first | exact leads | cases leads
      · intro leads
        apply part.detects
        cases job <;> first | exact leads | cases leads
      · intro claim member
        apply part.fresh claim
        cases job <;> first | exact member | cases member

/-- Rails that are gone stay gone over a removal, and a removal whose
statement succeeds makes them go. -/
theorem noRails_removeOwned
    {collections : CollectionStore}
    (intact : collections.Intact)
    {outside : Outside}
    (gone : NoRails collections ∨ outside.fault = false) :
    NoRails ((CollectionStore.removeOwned ownerLaya).storeAfter
      ⟨collections, outside.faults⟩) := by
  have feature : CollectionStore.isFeatureOwner ownerLaya = true := by decide
  by_cases faulty : Query.Faulty 1
      (⟨collections, outside.faults⟩ : Connection CollectionStore)
  · rw [(CollectionStore.removeOwned_of_refused ownerLaya _
      (Or.inr faulty)).2]
    rcases gone with gone | well
    · exact gone
    · unfold Query.Faulty at faulty
      unfold Outside.fault at well
      dsimp only at faulty
      generalize outside.faults = faults at faulty well
      cases faults with
      | nil => cases faulty
      | cons fault later =>
          change fault = false at well
          rw [well] at faulty
          simp at faulty
  · rw [(CollectionStore.removeOwned_of_feature ownerLaya _ intact feature
      faulty).2]
    intro slug row found
    rw [CollectionStore.lookup_withoutOwner,
      Option.filter_eq_some_iff] at found
    simpa using found.2

theorem Whole.removeOwned
    {shared : Categorizer}
    (whole : shared.Whole)
    {turningOff : Bool}
    {outside : Outside}
    (enabled : turningOff = true → shared.enabled = false)
    (well : turningOff = true → outside.fault = false) :
    (shared.removeOwned turningOff outside).1.Whole where
  intact := CollectionStore.intact_serve shared.collections whole.intact
    (.removeOwned ownerLaya) outside.faults
  counted := Nat.le_refl _
  swept := fun swept => by
    change (shared.swept || turningOff) = true at swept
    cases turningOff with
    | true =>
        exact ⟨enabled rfl,
          noRails_removeOwned whole.intact (Or.inr (well rfl))⟩
    | false =>
        rw [Bool.or_false] at swept
        obtain ⟨disabled, gone⟩ := whole.swept swept
        exact ⟨disabled, noRails_removeOwned whole.intact (Or.inl gone)⟩
  off := fun off => by
    obtain ⟨swept, traits⟩ := whole.off off
    refine ⟨?_, traits⟩
    change (shared.swept || turningOff) = true
    rw [swept, Bool.true_or]

/-- The invariant of a run. -/
def Sound (pool : Pool Categorizer Job) : Prop :=
  pool.Holds Whole Part

/-- A section that changes nothing and leaves tasks that are in order. -/
theorem Sound.idle
    {pool : Pool Categorizer Job}
    (sound : Sound pool)
    {index : Nat}
    {job : Job}
    (stands : pool.tasks[index]? = some job)
    {outside : Outside}
    {left : List Job}
    (leaves : pool.shared.perform job outside = (pool.shared, left))
    (parts : ∀ other ∈ left, Part pool.shared other) :
    Sound (program.step pool (.advance index outside)) := by
  apply Pool.Holds.advance sound stands
  · change Whole (pool.shared.perform job outside).1
    rw [leaves]
    exact sound.shared
  · intro other member part
    change Part (pool.shared.perform job outside).1 other
    rw [leaves]
    exact part
  · intro other member
    change other ∈ (pool.shared.perform job outside).2 at member
    change Part (pool.shared.perform job outside).1 other
    rw [leaves] at member ⊢
    exact parts other member

/-- A section that takes the free slot for a task in order. -/
theorem Sound.claimed
    {pool : Pool Categorizer Job}
    (sound : Sound pool)
    (slot : SlotKept pool)
    (idle : pool.shared.scan.running = false)
    {index : Nat}
    {job : Job}
    (stands : pool.tasks[index]? = some job)
    {outside : Outside}
    {downloading : Bool}
    {holder : Job}
    (claims : pool.shared.perform job outside =
      (pool.shared.claim downloading, [holder]))
    (part : Part (pool.shared.claim downloading) holder) :
    Sound (program.step pool (.advance index outside)) := by
  have whole := sound.shared
  apply Pool.Holds.advance sound stands
  · change Whole (pool.shared.perform job outside).1
    rw [claims]
    exact ⟨whole.intact, Nat.le_succ_of_le whole.counted, whole.swept,
      whole.off⟩
  · intro other member part
    change Part (pool.shared.perform job outside).1 other
    rw [claims]
    exact part.claim (slot.free idle (List.mem_of_mem_eraseIdx member)) _
  · intro other member
    change other ∈ (pool.shared.perform job outside).2 at member
    change Part (pool.shared.perform job outside).1 other
    rw [claims] at member ⊢
    rw [List.mem_singleton.mp member]
    exact part

/-- A section that gives the slot back and leaves tasks that are in order. -/
theorem Sound.released
    {pool : Pool Categorizer Job}
    (sound : Sound pool)
    {index : Nat}
    {job : Job}
    (stands : pool.tasks[index]? = some job)
    {outside : Outside}
    {error : Option String}
    {completes : Bool}
    {now : Instant}
    (released : (pool.shared.perform job outside).1 =
      pool.shared.release error completes now)
    (left : ∀ other ∈ (pool.shared.perform job outside).2,
      Part pool.shared other) :
    Sound (program.step pool (.advance index outside)) := by
  have whole := sound.shared
  apply Pool.Holds.advance sound stands
  · change Whole (pool.shared.perform job outside).1
    rw [released]
    exact ⟨whole.intact, whole.counted, whole.swept, whole.off⟩
  · intro other member part
    change Part (pool.shared.perform job outside).1 other
    rw [released]
    exact part.release _ _ _
  · intro other member
    change Part (pool.shared.perform job outside).1 other
    rw [released]
    exact (left other member).release _ _ _

/-! ## Sections -/

/-- A task whose own section leaves it to write to the rows only. -/
theorem Part.rows
    {shared : Categorizer}
    {job : Job}
    (part : Part shared job)
    (collections : CollectionStore)
    (traits : Traits) :
    Part { shared with collections := collections, traits := traits } job :=
  ⟨part.setting, part.clearing, part.publishes, part.detects, part.fresh⟩

theorem part_requestDownload (shared : Categorizer) :
    Part shared .requestDownload :=
  .of_plain rfl nofun (fun _ => rfl) (fun _ => rfl) fun _ => rfl

theorem Sound.enabling
    {pool : Pool Categorizer Job}
    (sound : Sound pool)
    {index : Nat}
    (stands : pool.tasks[index]? = some .enabling)
    {outside : Outside}
    (timely : ¬ EnablesLate pool outside) :
    Sound (program.step pool (.advance index outside)) := by
  cases fault : outside.fault with
  | true =>
      exact sound.idle stands (if_pos fault) nofun
  | false =>
      have enabled : pool.shared.perform .enabling outside =
          ({ pool.shared with enabled := true, swept := false },
            [.enabled]) :=
        if_neg (Bool.eq_false_iff.mp fault)
      have alone : pool.shared.off = false ∧
          ∀ job ∈ pool.tasks, job.turnsOff = false := by
        constructor
        · apply Bool.eq_false_iff.mpr
          intro off
          exact timely ⟨fault, Or.inl off⟩
        · intro job member
          apply Bool.eq_false_iff.mpr
          intro turns
          exact timely ⟨fault, Or.inr ⟨job, member, turns⟩⟩
      have whole := sound.shared
      apply Pool.Holds.advance sound stands
      · change Whole (pool.shared.perform .enabling outside).1
        rw [enabled]
        refine ⟨whole.intact, whole.counted, nofun, ?_⟩
        intro off
        change pool.shared.off = true at off
        rw [alone.1] at off
        cases off
      · intro other member part
        change Part (pool.shared.perform .enabling outside).1 other
        rw [enabled]
        have free := alone.2 other (List.mem_of_mem_eraseIdx member)
        refine ⟨?_, ?_, fun _ => rfl, part.detects, part.fresh⟩
        · intro turns
          rw [free] at turns
          cases turns
        · intro clearing
          rw [clearing] at free
          cases free
      · intro other member
        change other ∈ (pool.shared.perform .enabling outside).2 at member
        change Part (pool.shared.perform .enabling outside).1 other
        rw [enabled] at member ⊢
        rw [List.mem_singleton.mp member]
        exact .of_plain rfl nofun (fun _ => rfl) (fun _ => rfl) fun _ => rfl

theorem Sound.disabling
    {pool : Pool Categorizer Job}
    (sound : Sound pool)
    {index : Nat}
    (stands : pool.tasks[index]? = some .disabling)
    (outside : Outside) :
    Sound (program.step pool (.advance index outside)) := by
  cases fault : outside.fault with
  | true =>
      exact sound.idle stands (if_pos fault) nofun
  | false =>
      have disabled : pool.shared.perform .disabling outside =
          ({ pool.shared with enabled := false }, [.disabled]) :=
        if_neg (Bool.eq_false_iff.mp fault)
      have whole := sound.shared
      apply Pool.Holds.advance sound stands
      · change Whole (pool.shared.perform .disabling outside).1
        rw [disabled]
        exact ⟨whole.intact, whole.counted,
          fun swept => ⟨rfl, (whole.swept swept).2⟩, whole.off⟩
      · intro other member part
        change Part (pool.shared.perform .disabling outside).1 other
        rw [disabled]
        exact ⟨fun _ => rfl, part.clearing, part.publishes, part.detects,
          part.fresh⟩
      · intro other member
        change other ∈ (pool.shared.perform .disabling outside).2 at member
        change Part (pool.shared.perform .disabling outside).1 other
        rw [disabled] at member ⊢
        rw [List.mem_singleton.mp member]
        exact ⟨fun _ => rfl, nofun, nofun, nofun, nofun⟩

theorem Sound.discardRunning
    {pool : Pool Categorizer Job}
    (sound : Sound pool)
    {index : Nat}
    {turningOff : Bool}
    (stands : pool.tasks[index]? = some (.discardRunning turningOff))
    (outside : Outside) :
    Sound (program.step pool (.advance index outside)) := by
  have own := sound.each _ (List.mem_of_getElem? stands)
  have whole := sound.shared
  apply Pool.Holds.advance sound stands
  · change Whole pool.shared.discardRunning
    unfold Categorizer.discardRunning
    split
    case isTrue running =>
        exact ⟨whole.intact, whole.counted, whole.swept, whole.off⟩
    case isFalse idle => exact whole
  · intro other member part
    exact part.discardRunning
  · intro other member
    change other ∈ [Job.removeOwned turningOff] at member
    rw [List.mem_singleton.mp member]
    exact (⟨own.setting, nofun, nofun, nofun, nofun⟩ :
      Part pool.shared (.removeOwned turningOff)).discardRunning

theorem Sound.removeOwned
    {pool : Pool Categorizer Job}
    (sound : Sound pool)
    {index : Nat}
    {turningOff : Bool}
    (stands : pool.tasks[index]? = some (.removeOwned turningOff))
    {outside : Outside}
    (timely : ¬ RemovesEarly pool turningOff outside) :
    Sound (program.step pool (.advance index outside)) := by
  have own := sound.each _ (List.mem_of_getElem? stands)
  have done : ∀ job ∈ pool.tasks,
      job.writes pool.shared.scan.discard = none := by
    intro job member
    by_contra writer
    exact timely (Or.inl ⟨job, member, Option.isSome_iff_ne_none.mpr writer⟩)
  have quiet : turningOff = true → ∀ job ∈ pool.tasks,
      job.publishes pool.shared.scan.discard = false := by
    intro turns job member
    have written := done job member
    cases job with
    | requestScan => exact absurd (Or.inr ⟨turns, Or.inl member⟩) timely
    | scanning claim =>
        change (Job.writes _ _).isSome = false
        rw [written]
        rfl
    | writingRails claim report => cases written
    | _ => rfl
  apply Pool.Holds.advance sound stands
  · apply sound.shared.removeOwned own.setting
    intro turns
    apply Bool.eq_false_iff.mpr
    intro fault
    exact timely (Or.inr ⟨turns, Or.inr fault⟩)
  · intro other member part
    have listed := List.mem_of_mem_eraseIdx member
    refine ⟨part.setting, ?_, ?_, part.detects, ?_⟩
    · intro clearing
      change (pool.shared.swept || turningOff) = true
      rw [part.clearing clearing, Bool.true_or]
    · intro leads
      change (pool.shared.swept || turningOff) = false
      cases turns : turningOff with
      | true =>
          have none := quiet turns other listed
          exact absurd (none.symm.trans leads) Bool.false_ne_true
      | false => rw [part.publishes leads, Bool.false_or]
    · intro claim writes
      have none := done other listed
      exact absurd (none.symm.trans writes) nofun
  · intro other member
    change other ∈ (if turningOff then [Job.clearTraits] else []) at member
    cases turningOff with
    | false => cases member
    | true =>
        rw [List.mem_singleton.mp member]
        refine ⟨fun _ => own.setting rfl, fun _ => ?_, nofun, nofun, nofun⟩
        exact Bool.or_true _

theorem Sound.clearTraits
    {pool : Pool Categorizer Job}
    (sound : Sound pool)
    {index : Nat}
    (stands : pool.tasks[index]? = some .clearTraits)
    {outside : Outside}
    (timely : ¬ ClearsEarly pool outside) :
    Sound (program.step pool (.advance index outside)) := by
  have own := sound.each _ (List.mem_of_getElem? stands)
  have whole := sound.shared
  have well : outside.fault ≠ true := fun fault => timely (Or.inr fault)
  apply Pool.Holds.advance sound stands
  · refine ⟨whole.intact, whole.counted, whole.swept, ?_⟩
    intro off
    exact ⟨own.clearing rfl, if_neg well⟩
  · intro other member part
    have listed := List.mem_of_mem_eraseIdx member
    refine ⟨part.setting, part.clearing, part.publishes, ?_, part.fresh⟩
    intro leads
    exact absurd (Or.inl ⟨other, listed, leads⟩) timely
  · nofun

/-- A scan that writes its rails leaves them only where none are due to be
gone. -/
theorem Sound.writingRails
    {pool : Pool Categorizer Job}
    (sound : Sound pool)
    {index claim : Nat}
    {report : ScanReport}
    (stands : pool.tasks[index]? = some (.writingRails claim report))
    (outside : Outside) :
    Sound (program.step pool (.advance index outside)) := by
  have own := sound.each _ (List.mem_of_getElem? stands)
  have whole := sound.shared
  have unswept : pool.shared.swept = false := own.publishes rfl
  apply Pool.Holds.advance sound stands
  · refine ⟨?_, whole.counted, ?_, whole.off⟩
    · exact CollectionStore.intact_serve pool.shared.collections whole.intact
        (.replaceOwned outside.now ownerLaya report.rails) outside.faults
    · intro swept
      exact absurd (unswept.symm.trans swept) Bool.false_ne_true
  · intro other member part
    exact part.rows _ _
  · nofun

theorem Sound.recording
    {pool : Pool Categorizer Job}
    (sound : Sound pool)
    {index : Nat}
    {hashes : Hashes}
    {report : ScanReport}
    (stands : pool.tasks[index]? = some (.recording hashes report))
    (outside : Outside) :
    Sound (program.step pool (.advance index outside)) := by
  have own := sound.each _ (List.mem_of_getElem? stands)
  have whole := sound.shared
  have on : pool.shared.off = false := own.detects rfl
  apply Pool.Holds.advance sound stands
  · refine ⟨whole.intact, whole.counted, whole.swept, ?_⟩
    intro off
    exact absurd (on.symm.trans off) Bool.false_ne_true
  · intro other member part
    exact part.rows _ _
  · intro other member
    change other ∈ (if _ then [Job.pruning] else []) at member
    split at member
    case isFalse failed => cases member
    case isTrue written =>
        rw [List.mem_singleton.mp member]
        exact .of_plain rfl nofun (fun _ => rfl) (fun _ => rfl) fun _ => rfl

theorem Sound.pruning
    {pool : Pool Categorizer Job}
    (sound : Sound pool)
    {index : Nat}
    (stands : pool.tasks[index]? = some .pruning)
    (outside : Outside) :
    Sound (program.step pool (.advance index outside)) := by
  have whole := sound.shared
  apply Pool.Holds.advance sound stands
  · refine ⟨whole.intact, whole.counted, whole.swept, ?_⟩
    intro off
    obtain ⟨swept, gone⟩ := whole.off off
    refine ⟨swept, ?_⟩
    change (if _ then pool.shared.traits else _) = ∅
    rw [gone]
    split
    case isTrue fault => rfl
    case isFalse well => rfl
  · intro other member part
    exact part.rows _ _
  · nofun

/-- What the sections that ask whether the feature is on leave. -/
theorem Part.requested
    {shared : Categorizer}
    (whole : shared.Whole)
    (enabled : shared.enabled = true)
    {job : Job}
    (asks : job = .requestScan ∨ job = .checkStatus) :
    Part shared job := by
  have unswept : shared.swept = false := by
    apply Bool.eq_false_iff.mpr
    intro swept
    rw [(whole.swept swept).1] at enabled
    cases enabled
  have on : shared.off = false := by
    apply Bool.eq_false_iff.mpr
    intro off
    rw [(whole.off off).1] at unswept
    cases unswept
  rcases asks with rfl | rfl
  · exact ⟨nofun, nofun, fun _ => unswept, nofun, nofun⟩
  · exact ⟨nofun, nofun, nofun, fun _ => on, nofun⟩

/-- What a detection goes on with is a detection. -/
theorem Part.detecting
    {shared : Categorizer}
    {job next : Job}
    (part : Part shared job)
    (detects : job.detects shared.scan.discard = true)
    (setting : next.turnsOff = false)
    (clearing : next ≠ .clearTraits)
    (publishes : ∀ discard, next.publishes discard = false)
    (writes : ∀ discard, next.writes discard = none) :
    Part shared next where
  setting := fun turns => absurd (setting.symm.trans turns) nofun
  clearing := fun same => absurd same clearing
  publishes := fun leads => absurd ((publishes _).symm.trans leads) nofun
  detects := fun _ => part.detects detects
  fresh := fun _ member => absurd ((writes _).symm.trans member) nofun

theorem Sound.call
    {pool : Pool Categorizer Job}
    (sound : Sound pool)
    (request : Control) :
    Sound (program.step pool (.call request)) := by
  have whole := sound.shared
  cases request with
  | enable =>
      apply Pool.Holds.call sound
      · exact ⟨whole.intact, whole.counted, whole.swept, nofun⟩
      · intro job member part
        exact ⟨part.setting, part.clearing, part.publishes, fun _ => rfl,
          part.fresh⟩
      · intro job member
        rw [List.mem_singleton.mp member]
        exact .of_plain rfl nofun (fun _ => rfl) (fun _ => rfl) fun _ => rfl
  | disable | removeCollections | publishCollections | detectFormFactors =>
      apply Pool.Holds.call sound whole
      · intro job member part
        exact part
      · intro job member
        rw [List.mem_singleton.mp member]
        exact .of_plain rfl nofun (fun _ => rfl) (fun _ => rfl) fun _ => rfl

/-- A section that only asks whether to go on, and goes on with one task. -/
theorem Sound.asks
    {pool : Pool Categorizer Job}
    (sound : Sound pool)
    {index : Nat}
    {job : Job}
    (stands : pool.tasks[index]? = some job)
    (next : Job)
    {outside : Outside}
    {ended : Bool}
    (leaves : pool.shared.perform job outside =
      (pool.shared, if ended then [] else [next]))
    (part : ended = false → Part pool.shared next) :
    Sound (program.step pool (.advance index outside)) := by
  apply sound.idle stands leaves
  intro other member
  cases ended with
  | true => cases member
  | false =>
      rw [List.mem_singleton.mp member]
      exact part rfl

theorem Sound.requestDownload
    {pool : Pool Categorizer Job}
    (sound : Sound pool)
    (slot : SlotKept pool)
    {index : Nat}
    (stands : pool.tasks[index]? = some .requestDownload)
    (outside : Outside) :
    Sound (program.step pool (.advance index outside)) := by
  by_cases unneeded : (!outside.modelAbsent ||
      pool.shared.scan.running) = true
  · exact sound.idle stands (if_pos unneeded) nofun
  · have idle : pool.shared.scan.running = false := by
      simp only [Bool.or_eq_true, not_or, Bool.not_eq_true] at unneeded
      exact unneeded.2
    apply sound.claimed slot idle stands (if_neg unneeded)
    exact .of_plain rfl nofun (fun _ => rfl) (fun _ => rfl) fun _ => rfl

theorem Sound.requestScan
    {pool : Pool Categorizer Job}
    (sound : Sound pool)
    (slot : SlotKept pool)
    {index : Nat}
    (stands : pool.tasks[index]? = some .requestScan)
    (outside : Outside) :
    Sound (program.step pool (.advance index outside)) := by
  have own := sound.each _ (List.mem_of_getElem? stands)
  by_cases running : pool.shared.scan.running = true
  · exact sound.idle stands (if_pos running) nofun
  · apply sound.claimed slot (Bool.eq_false_iff.mpr running) stands
      (if_neg running)
    refine ⟨nofun, nofun, fun _ => own.publishes rfl, nofun, ?_⟩
    intro claim member
    cases member
    exact Nat.lt_succ_of_le sound.shared.counted

theorem Sound.requestDetection
    {pool : Pool Categorizer Job}
    (sound : Sound pool)
    (slot : SlotKept pool)
    {index : Nat}
    {hashes : Hashes}
    (stands : pool.tasks[index]? = some (.requestDetection hashes))
    (outside : Outside) :
    Sound (program.step pool (.advance index outside)) := by
  have own := sound.each _ (List.mem_of_getElem? stands)
  by_cases running : pool.shared.scan.running = true
  · exact sound.idle stands (if_pos running) nofun
  · apply sound.claimed slot (Bool.eq_false_iff.mpr running) stands
      (if_neg running)
    exact ⟨nofun, nofun, nofun, fun _ => own.detects rfl, nofun⟩

theorem Sound.listing
    {pool : Pool Categorizer Job}
    (sound : Sound pool)
    {index : Nat}
    (stands : pool.tasks[index]? = some .listing)
    (outside : Outside) :
    Sound (program.step pool (.advance index outside)) := by
  have own := sound.each _ (List.mem_of_getElem? stands)
  by_cases ended : pool.shared.engine ≠ .laya ∨
      outside.modelAbsent = true ∨ outside.fault = true
  · exact sound.idle stands (if_pos ended) nofun
  · apply sound.idle stands (if_neg ended)
    intro other member
    rw [List.mem_singleton.mp member]
    exact own.detecting rfl rfl nofun (fun _ => rfl) fun _ => rfl

/-- A scan that stands leaves its report to be written. -/
theorem mem_scanning
    {shared : Categorizer}
    {claim : Nat}
    {outside : Outside}
    {other : Job}
    (member : other ∈ (shared.scanning claim outside).2) :
    ∃ report, other = .writingRails claim report ∧
      shared.scan.discard = false := by
  unfold Categorizer.scanning at member
  cases outcome : outside.outcome with
  | error error => simp [outcome] at member
  | ok report => exact ⟨report, by simp_all⟩

/-- A classification that stands leaves its verdicts to be recorded. -/
theorem mem_classifying
    {shared : Categorizer}
    {hashes : Hashes}
    {outside : Outside}
    {other : Job}
    (member : other ∈ (shared.classifying hashes outside).2) :
    ∃ report, other = .recording hashes report ∧
      shared.scan.discard = false := by
  unfold Categorizer.classifying at member
  cases outcome : outside.outcome with
  | error error => simp [outcome] at member
  | ok report => exact ⟨report, by simp_all⟩

theorem Sound.scanning
    {pool : Pool Categorizer Job}
    (sound : Sound pool)
    {index claim : Nat}
    (stands : pool.tasks[index]? = some (.scanning claim))
    (outside : Outside) :
    Sound (program.step pool (.advance index outside)) := by
  have own := sound.each _ (List.mem_of_getElem? stands)
  apply sound.released stands rfl
  intro other member
  obtain ⟨report, rfl, kept⟩ := mem_scanning member
  have live : (Job.scanning claim).writes
      pool.shared.scan.discard = some claim := if_neg (by simp [kept])
  refine ⟨nofun, nofun, ?_, nofun, ?_⟩
  · intro _
    apply own.publishes
    change (Job.writes _ _).isSome = true
    rw [live]
    rfl
  · intro written wrote
    cases wrote
    exact own.fresh claim live

theorem Sound.classifying
    {pool : Pool Categorizer Job}
    (sound : Sound pool)
    {index : Nat}
    {hashes : Hashes}
    (stands : pool.tasks[index]? = some (.classifying hashes))
    (outside : Outside) :
    Sound (program.step pool (.advance index outside)) := by
  have own := sound.each _ (List.mem_of_getElem? stands)
  apply sound.released stands rfl
  intro other member
  obtain ⟨report, rfl, kept⟩ := mem_classifying member
  refine own.detecting ?_ rfl nofun (fun _ => rfl) fun _ => rfl
  change (!pool.shared.scan.discard) = true
  rw [kept]
  rfl

theorem Sound.step
    {pool : Pool Categorizer Job}
    (sound : Sound pool)
    (slot : SlotKept pool)
    (move : Move Control Outside)
    (calm : ¬ Slips pool move) :
    Sound (program.step pool move) := by
  cases move with
  | call request => exact sound.call request
  | advance index outside =>
      cases stands : pool.tasks[index]? with
      | none =>
          rw [program.step_idle stands]
          exact sound
      | some job =>
          have own := sound.each job (List.mem_of_getElem? stands)
          simp only [Slips, stands] at calm
          cases job with
          | enabling => exact sound.enabling stands calm
          | enabled =>
              exact sound.asks stands _ rfl fun _ => part_requestDownload _
          | requestDownload =>
              exact sound.requestDownload slot stands outside
          | disabling => exact sound.disabling stands outside
          | disabled =>
              apply sound.asks stands _ rfl
              intro _
              exact ⟨fun _ => own.setting rfl, nofun, nofun, nofun, nofun⟩
          | discardRunning turningOff =>
              exact sound.discardRunning stands outside
          | removeOwned turningOff => exact sound.removeOwned stands calm
          | clearTraits => exact sound.clearTraits stands calm
          | publishing =>
              apply sound.asks stands _ rfl
              intro accepted
              simp only [Bool.or_eq_false_iff, Bool.not_eq_false'] at accepted
              exact .requested sound.shared accepted.2 (Or.inl rfl)
          | requestScan => exact sound.requestScan slot stands outside
          | detecting =>
              apply sound.asks stands _ rfl
              intro accepted
              simp only [Bool.or_eq_false_iff, Bool.not_eq_false'] at accepted
              exact .requested sound.shared accepted.2 (Or.inr rfl)
          | checkStatus =>
              apply sound.asks stands .listing
              · change pool.shared.checkStatus outside = _
                unfold checkStatus
                exact (apply_ite (Prod.mk pool.shared) _ _ _).symm
              · intro _
                exact own.detecting rfl rfl nofun (fun _ => rfl) fun _ => rfl
          | listing => exact sound.listing stands outside
          | comparing hashes =>
              apply sound.asks stands (.requestDetection hashes)
              · change pool.shared.comparing hashes outside = _
                unfold comparing
                exact (apply_ite (Prod.mk pool.shared) _ _ _).symm
              · intro _
                exact own.detecting rfl rfl nofun (fun _ => rfl) fun _ => rfl
          | requestDetection hashes =>
              exact sound.requestDetection slot stands outside
          | downloading => exact sound.released stands rfl nofun
          | scanning claim => exact sound.scanning stands outside
          | classifying hashes => exact sound.classifying stands outside
          | writingRails claim report =>
              exact sound.writingRails stands outside
          | recording hashes report => exact sound.recording stands outside
          | pruning => exact sound.pruning stands outside

/-! ## Runs -/

theorem sound_run
    (stored : Stored)
    (moves : List (Move Control Outside))
    (calm : (machine stored).Along (fun pool move => ¬ Slips pool move)
      moves) :
    Sound ((machine stored).run moves) := by
  have both := (machine stored).run_induction_along _
    (fun pool => Sound pool ∧ SlotKept pool) ?_ ?_ moves calm
  · exact both.1
  · refine ⟨⟨?_, nofun⟩, rfl⟩
    exact ⟨stored.intact, Nat.le_refl 0, nofun, nofun⟩
  · rintro pool move ⟨sound, slot⟩ calm
    exact ⟨sound.step slot move calm, slot.step move⟩

/-- As long as rails and verdicts are removed only when no job that can still
write them is left, with success where the feature is turned off, and the
setting is not turned on in the middle of that: once a call that turns the
feature off completed, there are no rails and no verdicts until it is turned
on; a scan that is about to write its rails took the slot after the last
removal; and the slot is taken exactly while one job holds it. -/
theorem turning_off_is_final
    (stored : Stored)
    (moves : List (Move Control Outside))
    (calm : (machine stored).Along (fun pool move => ¬ Slips pool move)
      moves) :
    let pool := (machine stored).run moves
    (pool.shared.off = true →
      NoRails pool.shared.collections ∧ pool.shared.traits = ∅) ∧
      (∀ claim report, Job.writingRails claim report ∈ pool.tasks →
        pool.shared.removed < claim) ∧
      pool.tasks.countP Job.holdsSlot =
        if pool.shared.scan.running then 1 else 0 := by
  intro pool
  have sound := sound_run stored moves calm
  refine ⟨?_, ?_, slotKept_run stored moves⟩
  · intro off
    obtain ⟨swept, gone⟩ := sound.shared.off off
    exact ⟨(sound.shared.swept swept).2, gone⟩
  · intro claim report member
    exact (sound.each _ member).fresh claim rfl

/-- A daemon that starts with the feature on and no rails. -/
def startedOn : Stored where
  engine := .laya
  enabled := true
  collections := CollectionStore.migrated 0
  intact := CollectionStore.intact_migrated 0
  traits := ∅

/-- A report with one rail. -/
def oneRail : ScanReport where
  categorizer := "heuristic"
  assignments := []
  rails := [⟨"laya:play", some "Play", "laya:play"⟩]

/-- A step of the task at an index, with nothing special outside. -/
def goes (index : Nat) : Move Control Outside :=
  .advance index {}

/-- The scan at an index ends with one rail. -/
def ends (index : Nat) : Move Control Outside :=
  .advance index { outcome := .ok oneRail }

/-- A scan is started, the feature is turned off while it runs, and the scan
ends. -/
def turnedOff : List (Move Control Outside) :=
  [.call .publishCollections, goes 0, goes 0, .call .disable, goes 1, goes 1,
    goes 1, goes 1, goes 1, ends 0]

theorem turning_off_is_final_turnedOff :
    let pool := (machine startedOn).run turnedOff
    pool.shared.off = true ∧ NoRails pool.shared.collections ∧
      pool.shared.traits = ∅ ∧ pool.shared.scan.running = false := by
  have calm : (machine startedOn).Along (fun pool move => ¬ Slips pool move)
      turnedOff := by
    apply Machine.along_of_alongFrom
    refine ⟨id, id, id, id, id, id, id, ?_, ?_, id, trivial⟩
    · rintro (⟨job, member, writes⟩ | ⟨_, pending | fault⟩)
      · rcases List.mem_cons.mp member with rfl | last
        · cases writes
        · rw [List.mem_singleton.mp last] at writes
          cases writes
      · cases pending with
        | tail _ last => cases List.mem_singleton.mp last
      · cases fault
    · rintro (⟨job, member, detects⟩ | fault)
      · rcases List.mem_cons.mp member with rfl | last
        · cases detects
        · rw [List.mem_singleton.mp last] at detects
          cases detects
      · cases fault
  obtain ⟨final, _, _⟩ := turning_off_is_final startedOn turnedOff calm
  obtain ⟨gone, cleared⟩ := final rfl
  exact ⟨rfl, gone, cleared, rfl⟩

/-- A scan gives the slot back just before the feature is turned off.  Nothing
tells it, and its rails are written when all is over. -/
theorem released_scan_writes_after_turning_off :
    let pool := (machine startedOn).run
      [.call .publishCollections, goes 0, goes 0, ends 0, .call .disable,
        goes 1, goes 1, goes 1, goes 1, goes 1, goes 0]
    pool.shared.off = true ∧ pool.shared.enabled = false ∧
      (pool.shared.collections.collections.lookup "laya:play").map
        CollectionRow.owner = some ownerLaya := by
  decide

end Categorizer
end Daemon
end Hearthdeck
