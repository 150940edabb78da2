import Hearthdeck.Bridge.Sessions

/-!
# One managed session at a time

`Tracked` is what the bridge keeps between requests: at most one unit runs,
and the session of a running unit is in the map and in the directory, with the
newest record of all.  The newest record is the one every later request looks
at first, so the unit is the one that is reported, stopped, and replaced.

The one way out of the invariant is a launch whose record cannot be written
and whose unit cannot be stopped again: the failure of that stop is ignored.
-/

namespace Hearthdeck
namespace Bridge

open Foundation Protocol Effect

/-! ## The invariant -/

/-- A record belongs under an id: it names it, and a Heroic record is that of
the Heroic unit. -/
structure SoundRecord
    (sessionId : String)
    (managed : ManagedSession) : Prop where
  named : managed.session.id = sessionId
  valid : validSessionId sessionId = true
  heroic : managed.session.sourceId = heroicSource →
    managed.unitName = some heroicUnitName

/-- The records, whatever runs: each is sound, and none is newer than the last
write. -/
structure Recorded (system : System) : Prop where
  inMap : ∀ sessionId managed,
    system.sessions.lookup sessionId = some managed →
    SoundRecord sessionId managed
  onDisk : ∀ sessionId file managed,
    system.directory.lookup sessionId = some file →
    file.content = some managed →
    SoundRecord sessionId managed
  timed : ∀ sessionId file,
    system.directory.lookup sessionId = some file →
    file.modifiedAt ≤ system.clock

/-- A session of a unit is in the map and in the directory, with the newest
record of all. -/
structure Newest
    (system : System)
    (unit sessionId : String)
    (managed : ManagedSession)
    (modifiedAt : Nat) : Prop where
  inMap : system.sessions.lookup sessionId = some managed
  ofUnit : managed.unitName = some unit
  onDisk : system.directory.lookup sessionId =
    some ⟨some managed, modifiedAt⟩
  positive : 0 < modifiedAt
  newest : ∀ other file, other ≠ sessionId →
    system.directory.lookup other = some file →
    file.modifiedAt < modifiedAt

/-- What the bridge keeps between requests. -/
structure Tracked (system : System) : Prop where
  recorded : Recorded system
  single : ∀ left ∈ system.running, ∀ right ∈ system.running, left = right
  newest : ∀ unit ∈ system.running, ∃ sessionId managed modifiedAt,
    Newest system unit sessionId managed modifiedAt

/-- The system after some units are gone. -/
def System.withRunning
    (system : System)
    (running : Finset String) : System :=
  { system with running := running }

@[simp] theorem withRunning_running
    (system : System)
    (running : Finset String) :
    (system.withRunning running).running = running := rfl

@[simp] theorem withRunning_sessions
    (system : System)
    (running : Finset String) :
    (system.withRunning running).sessions = system.sessions := rfl

@[simp] theorem withRunning_directory
    (system : System)
    (running : Finset String) :
    (system.withRunning running).directory = system.directory := rfl

theorem Recorded.withRunning
    {system : System}
    (recorded : Recorded system)
    (running : Finset String) :
    Recorded (system.withRunning running) :=
  ⟨recorded.inMap, recorded.onDisk, recorded.timed⟩

theorem Newest.withRunning
    {system : System}
    {unit sessionId : String}
    {managed : ManagedSession}
    {modifiedAt : Nat}
    (newest : Newest system unit sessionId managed modifiedAt)
    (running : Finset String) :
    Newest (system.withRunning running) unit sessionId managed modifiedAt :=
  ⟨newest.inMap, newest.ofUnit, newest.onDisk, newest.positive,
    newest.newest⟩

/-- Units that go do not break the invariant. -/
theorem Tracked.withRunning
    {system : System}
    (tracked : Tracked system)
    (running : Finset String)
    (fewer : running ⊆ system.running) :
    Tracked (system.withRunning running) where
  recorded := tracked.recorded.withRunning running
  single := fun left leftMember right rightMember =>
    tracked.single left (fewer leftMember) right (fewer rightMember)
  newest := by
    intro unit member
    obtain ⟨sessionId, managed, modifiedAt, newest⟩ :=
      tracked.newest unit (fewer member)
    exact ⟨sessionId, managed, modifiedAt, newest.withRunning running⟩

/-- The system without one session. -/
def System.withoutSession
    (system : System)
    (sessionId : String) : System :=
  { system with
    sessions := system.sessions.erase sessionId
    directory := system.directory.erase sessionId }

theorem lookup_sessions_withoutSession
    (system : System)
    (sessionId other : String) :
    (system.withoutSession sessionId).sessions.lookup other =
      if other = sessionId then none else system.sessions.lookup other :=
  Table.lookup_erase_eq_ite _ _ _

theorem lookup_directory_withoutSession
    (system : System)
    (sessionId other : String) :
    (system.withoutSession sessionId).directory.lookup other =
      if other = sessionId then none else system.directory.lookup other :=
  Table.lookup_erase_eq_ite _ _ _

theorem Recorded.withoutSession
    {system : System}
    (recorded : Recorded system)
    (sessionId : String) :
    Recorded (system.withoutSession sessionId) where
  inMap := by
    intro other managed found
    rw [lookup_sessions_withoutSession] at found
    split_ifs at found
    exact recorded.inMap other managed found
  onDisk := by
    intro other file managed found
    rw [lookup_directory_withoutSession] at found
    split_ifs at found
    exact recorded.onDisk other file managed found
  timed := by
    intro other file found
    rw [lookup_directory_withoutSession] at found
    split_ifs at found
    exact recorded.timed other file found

theorem Newest.withoutSession
    {system : System}
    {unit sessionId : String}
    {managed : ManagedSession}
    {modifiedAt : Nat}
    (newest : Newest system unit sessionId managed modifiedAt)
    (other : String)
    (different : sessionId ≠ other) :
    Newest (system.withoutSession other) unit sessionId managed
      modifiedAt where
  inMap := by
    rw [lookup_sessions_withoutSession, if_neg different]
    exact newest.inMap
  ofUnit := newest.ofUnit
  onDisk := by
    rw [lookup_directory_withoutSession, if_neg different]
    exact newest.onDisk
  positive := newest.positive
  newest := by
    intro later file laterDifferent found
    rw [lookup_directory_withoutSession] at found
    split_ifs at found
    exact newest.newest later file laterDifferent found

/-- Dropping the session of a unit that does not run keeps the invariant. -/
theorem Tracked.withoutSession
    {system : System}
    (tracked : Tracked system)
    (sessionId : String)
    (managed : ManagedSession)
    (present : system.sessions.lookup sessionId = some managed)
    (gone : ∀ unit ∈ system.running, managed.unitName ≠ some unit) :
    Tracked (system.withoutSession sessionId) where
  recorded := tracked.recorded.withoutSession sessionId
  single := tracked.single
  newest := by
    intro unit member
    obtain ⟨owner, record, modifiedAt, newest⟩ :=
      tracked.newest unit member
    have different : owner ≠ sessionId := by
      intro same
      subst same
      have inMap := newest.inMap
      rw [present, Option.some.injEq] at inMap
      subst inMap
      exact gone unit member newest.ofUnit
    exact ⟨owner, record, modifiedAt,
      newest.withoutSession sessionId different⟩

/-! ## Logs -/

/-- A log in which every unit was started alone, no record was dropped while
its unit ran, and nothing was started after a failed stop. -/
structure Proper (log : List Event) : Prop where
  alone : ∀ unit alone, Event.start unit alone ∈ log → alone = true
  dropped : ∀ sessionId running,
    Event.drop sessionId running ∈ log → running = false
  halted : ∀ earlier unit later,
    log = earlier ++ .stop unit false :: later →
    ∀ started alone, Event.start started alone ∉ later

/-- No stop has failed so far. -/
def Unfailed (log : List Event) : Prop :=
  ∀ unit, Event.stop unit false ∉ log

/-- A launch whose record could not be written and whose unit could not be
stopped again. -/
def Abandoned (log : List Event) : Prop :=
  ∃ earlier sessionId unit later,
    log = earlier ++ .save sessionId false :: .stop unit false :: later

theorem proper_nil : Proper [] where
  alone := fun _ _ member => by cases member
  dropped := fun _ _ member => by cases member
  halted := by
    intro earlier unit later split
    simp at split

theorem unfailed_nil : Unfailed [] :=
  fun _ member => by cases member

/-- An event that fits keeps a log proper; only a start looks at what came
before. -/
theorem Proper.concat
    {log : List Event}
    (proper : Proper log)
    (event : Event)
    (alone : ∀ unit flag, event = .start unit flag →
      flag = true ∧ Unfailed log)
    (dropped : ∀ sessionId flag, event = .drop sessionId flag →
      flag = false) :
    Proper (log ++ [event]) where
  alone := by
    intro unit flag member
    rw [List.mem_append, List.mem_singleton] at member
    rcases member with earlier | same
    · exact proper.alone unit flag earlier
    · exact (alone unit flag same.symm).1
  dropped := by
    intro sessionId flag member
    rw [List.mem_append, List.mem_singleton] at member
    rcases member with earlier | same
    · exact proper.dropped sessionId flag earlier
    · exact dropped sessionId flag same.symm
  halted := by
    intro earlier unit later split started flag member
    rcases List.eq_nil_or_concat later with rfl | ⟨front, last, rfl⟩
    · cases member
    · have regrouped : log ++ [event] =
          (earlier ++ .stop unit false :: front) ++ [last] := by
        rw [split]
        simp
      obtain ⟨before, same⟩ := List.append_inj' regrouped rfl
      rw [List.singleton_inj] at same
      subst same
      rw [List.concat_eq_append, List.mem_append,
        List.mem_singleton] at member
      rcases member with inFront | isLast
      · exact proper.halted earlier unit front before started flag inFront
      · have calm := (alone started flag isLast.symm).2
        apply calm unit
        rw [before]
        simp

theorem Unfailed.concat
    {log : List Event}
    (unfailed : Unfailed log)
    (event : Event)
    (succeeded : ∀ unit, event ≠ .stop unit false) :
    Unfailed (log ++ [event]) := by
  intro unit member
  rw [List.mem_append, List.mem_singleton] at member
  rcases member with earlier | same
  · exact unfailed unit earlier
  · exact succeeded unit same.symm

/-! ## Steps that leave the bridge -/

namespace BridgeM

/-- The state of a request in which no stop has failed yet. -/
structure Quiet (world : World) : Prop where
  tracked : Tracked world.system
  proper : Proper world.log
  unfailed : Unfailed world.log

/-- The state of a request that is bound to end in an error. -/
structure Settled (world : World) : Prop where
  tracked : Tracked world.system
  proper : Proper world.log

theorem Quiet.settled
    {world : World}
    (quiet : Quiet world) :
    Settled world :=
  ⟨quiet.tracked, quiet.proper⟩

/-- Only units went: everything else of the system and the log is as before. -/
structure Later (before after : World) : Prop where
  fewer : after.system.running ⊆ before.system.running
  same : after.system =
    before.system.withRunning after.system.running
  log : after.log = before.log

theorem Later.refl (world : World) : Later world world :=
  ⟨Finset.Subset.refl _, rfl, rfl⟩

theorem Later.trans
    {first second third : World}
    (earlier : Later first second)
    (later : Later second third) :
    Later first third where
  fewer := later.fewer.trans earlier.fewer
  same := by
    rw [later.same, earlier.same]
    rfl
  log := later.log.trans earlier.log

theorem Later.quiet
    {before after : World}
    (later : Later before after)
    (quiet : Quiet before) :
    Quiet after where
  tracked := by
    rw [later.same]
    exact quiet.tracked.withRunning _ later.fewer
  proper := by
    rw [later.log]
    exact quiet.proper
  unfailed := by
    rw [later.log]
    exact quiet.unfailed

@[simp] theorem meets_update
    (change : System → System)
    (post : PUnit → World → Prop)
    (fail : String → World → Prop)
    (world : World) :
    Meets (update change) post fail world ↔
      post ⟨⟩ { world with system := change world.system } := Iff.rfl

@[simp] theorem meets_note
    (event : World → Event)
    (post : PUnit → World → Prop)
    (fail : String → World → Prop)
    (world : World) :
    Meets (note event) post fail world ↔
      post ⟨⟩ { world with log := world.log ++ [event world] } := Iff.rfl

/-- The answer that lies ahead comes after some units have gone. -/
theorem meets_await_answer
    (world : World)
    (fail : String → World → Prop) :
    Meets await
      (fun answer next => answer = world.tape.headD .success ∧
        Later world next)
      fail world := by
  refine ⟨rfl, Finset.filter_subset _ _, rfl, rfl⟩

theorem meets_await
    (world : World)
    (fail : String → World → Prop) :
    Meets await (fun _ next => Later world next) fail world :=
  (meets_await_answer world fail).imp (fun _ _ facts => facts.2)
    (fun _ _ failed => failed)

/-- The input service does not touch the sessions. -/
theorem meets_setInputProfile
    (world : World) :
    Meets setInputProfile (fun _ next => Later world next)
      (fun _ next => Later world next) world := by
  rw [setInputProfile, meets_bind]
  refine (meets_await world _).imp ?_ (fun _ _ later => later)
  intro answer next later
  cases answer.failure with
  | none => exact later
  | some message => exact later

/-- A check that does not fail is accurate. -/
theorem meets_applicationIsRunning
    (unitName : Option String)
    (world : World) :
    Meets (applicationIsRunning unitName)
      (fun answer next => Later world next ∧
        (answer = false →
          ∀ unit ∈ next.system.running, unitName ≠ some unit))
      (fun _ next => Later world next) world := by
  cases unitName with
  | none =>
      refine ⟨Later.refl world, ?_⟩
      intro _ unit _ same
      cases same
  | some name =>
      rw [applicationIsRunning, meets_bind]
      refine (meets_await world _).imp ?_ (fun _ _ later => later)
      intro answer next later
      cases answer.failure with
      | some message => exact later
      | none =>
          refine ⟨later, ?_⟩
          intro notRunning unit member same
          rw [decide_eq_false_iff_not] at notRunning
          cases same
          exact notRunning member

/-- What a stop does: some units go, among them the unit when the stop does
not fail. -/
theorem meets_stopApplication
    (unit : String)
    (world : World) :
    Meets (stopApplication (some unit))
      (fun _ next => unit ∉ next.system.running ∧
        Later world { next with log := world.log } ∧
        next.log = world.log ++ [.stop unit true])
      (fun _ next => Later world { next with log := world.log } ∧
        next.log = world.log ++ [.stop unit false] ∧
        (world.tape.headD .success).failure ≠ none) world := by
  rw [stopApplication, meets_bind]
  refine (meets_await_answer world _).imp ?_ (fun _ _ failed => failed)
  intro answer next facts
  obtain ⟨ahead, later⟩ := facts
  have erased : next.system.running.erase unit ⊆ next.system.running :=
    Finset.erase_subset _ _
  have gone : Later world
      { next with
        system := next.system.withRunning (next.system.running.erase unit)
        log := world.log } := by
    refine ⟨erased.trans later.fewer, ?_, rfl⟩
    rw [later.same]
    rfl
  rw [← ahead]
  cases failure : answer.failure with
  | none =>
      refine ⟨Finset.notMem_erase unit _, gone, ?_⟩
      change next.log ++ _ = _
      rw [later.log]
  | some message =>
      have failedLog : next.log ++ [.stop unit false] =
          world.log ++ [.stop unit false] := by
        rw [later.log]
      have failed : some message ≠ none := Option.some_ne_none message
      cases wentAnyway : answer.gone with
      | true => exact ⟨gone, failedLog, failed⟩
      | false =>
          exact ⟨⟨later.fewer, later.same, rfl⟩, failedLog, failed⟩

/-- Stopping a session keeps the invariant, and a session that was stopped
runs no unit. -/
theorem meets_stopApplication_of_quiet
    (unitName : Option String)
    (world : World)
    (quiet : Quiet world) :
    Meets (stopApplication unitName)
      (fun _ next => Quiet next ∧
        next.system = world.system.withRunning next.system.running ∧
        next.system.running ⊆ world.system.running ∧
        ∀ unit ∈ next.system.running, unitName ≠ some unit)
      (fun _ next => Settled next ∧ (unitName = none ∨
        (world.tape.headD .success).failure ≠ none)) world := by
  cases unitName with
  | none => exact ⟨quiet.settled, Or.inl rfl⟩
  | some name =>
      refine (meets_stopApplication name world).imp ?_ ?_
      · intro _ next facts
        obtain ⟨gone, later, log⟩ := facts
        have calm := later.quiet quiet
        refine ⟨⟨calm.tracked, ?_, ?_⟩, later.same, later.fewer, ?_⟩
        · rw [log]
          exact quiet.proper.concat _ (fun _ _ same => by cases same)
            (fun _ _ same => by cases same)
        · rw [log]
          exact quiet.unfailed.concat _ (fun _ same => by cases same)
        · intro unit member same
          cases same
          exact gone member
      · intro _ next facts
        obtain ⟨later, log, failed⟩ := facts
        refine ⟨⟨(later.quiet quiet).tracked, ?_⟩, Or.inr failed⟩
        rw [log]
        exact quiet.proper.concat _ (fun _ _ same => by cases same)
          (fun _ _ same => by cases same)

/-- A session of a unit that does not run is dropped. -/
theorem meets_dropSession
    (sessionId : String)
    (managed : ManagedSession)
    (world : World)
    (quiet : Quiet world)
    (present : world.system.sessions.lookup sessionId = some managed)
    (gone : ∀ unit ∈ world.system.running, managed.unitName ≠ some unit)
    (fail : String → World → Prop) :
    Meets (dropSession sessionId managed)
      (fun _ next => Quiet next ∧
        next.system = world.system.withoutSession sessionId)
      fail world := by
  rw [dropSession, meets_bind, meets_update, meets_note]
  have flag : (managed.unitName.any fun unit =>
      decide (unit ∈ world.system.running)) = false := by
    rw [Option.any_eq_false]
    intro unit same
    rw [decide_eq_false_iff_not]
    intro running
    exact gone unit running same
  refine ⟨⟨?_, ?_, ?_⟩, rfl⟩
  · exact quiet.tracked.withoutSession sessionId managed present gone
  · refine quiet.proper.concat _ (fun _ _ same => by cases same) ?_
    intro dropped running same
    cases same
    exact flag
  · exact quiet.unfailed.concat _ (fun _ same => by cases same)

/-! ## The active session -/

/-- The candidate a running unit's session becomes, and how the others stand
to it. -/
structure Leads
    (system : System)
    (candidates : List Candidate)
    (unit sessionId : String)
    (managed : ManagedSession)
    (modifiedAt : Nat) : Prop where
  newest : Newest system unit sessionId managed modifiedAt
  ahead : ∀ candidate ∈ candidates,
    candidate = ⟨sessionId, managed, modifiedAt⟩ ∨
      candidate.modifiedAt < modifiedAt

/-- What looking at some sessions of the map leaves and returns. -/
structure Examined
    (entries : List (Sigma fun _ : String => ManagedSession))
    (world : World)
    (candidates : List Candidate)
    (next : World) : Prop where
  quiet : Quiet next
  fewer : next.system.running ⊆ world.system.running
  others : ∀ sessionId, sessionId ∉ entries.map Sigma.fst →
    next.system.sessions.lookup sessionId =
      world.system.sessions.lookup sessionId
  kept : ∀ candidate ∈ candidates,
    candidate.sessionId ∈ entries.map Sigma.fst ∧
      next.system.sessions.lookup candidate.sessionId =
        some candidate.managed
  leads : ∀ unit sessionId managed modifiedAt,
    Newest world.system unit sessionId managed modifiedAt →
    unit ∈ next.system.running →
    Leads next.system candidates unit sessionId managed modifiedAt ∧
      (⟨sessionId, managed⟩ ∈ entries →
        ⟨sessionId, managed, modifiedAt⟩ ∈ candidates)

theorem modifiedAt_of_newest
    {system : System}
    {unit sessionId : String}
    {managed : ManagedSession}
    {time : Nat}
    (newest : Newest system unit sessionId managed time) :
    modifiedAt system sessionId = time := by
  rw [modifiedAt, newest.onDisk]

theorem modifiedAt_lt_of_newest
    {system : System}
    {unit sessionId : String}
    {managed : ManagedSession}
    {time : Nat}
    (newest : Newest system unit sessionId managed time)
    (other : String)
    (different : other ≠ sessionId) :
    modifiedAt system other < time := by
  rw [modifiedAt]
  cases found : system.directory.lookup other with
  | none => exact newest.positive
  | some file => exact newest.newest other file different found

/-- A session that is kept joins the candidates of the rest. -/
theorem Examined.keep
    {sessionId : String}
    {managed : ManagedSession}
    {rest : List (Sigma fun _ : String => ManagedSession)}
    {world middle next : World}
    {candidates : List Candidate}
    (later : Later world middle)
    (present : world.system.sessions.lookup sessionId = some managed)
    (fresh : sessionId ∉ rest.map Sigma.fst)
    (examined : Examined rest middle candidates next) :
    Examined (⟨sessionId, managed⟩ :: rest) world
      (⟨sessionId, managed, modifiedAt middle.system sessionId⟩ ::
        candidates) next where
  quiet := examined.quiet
  fewer := examined.fewer.trans later.fewer
  others := by
    intro other absent
    rw [List.map_cons, List.mem_cons, not_or] at absent
    rw [examined.others other absent.2, later.same]
    rfl
  kept := by
    intro candidate member
    rw [List.mem_cons] at member
    rcases member with rfl | inRest
    · refine ⟨List.mem_cons_self, ?_⟩
      rw [examined.others sessionId fresh, later.same]
      exact present
    · obtain ⟨known, stored⟩ := examined.kept candidate inRest
      exact ⟨List.mem_cons_of_mem _ known, stored⟩
  leads := by
    intro unit owner record time newest running
    have between : Newest middle.system unit owner record time := by
      rw [later.same]
      exact newest.withRunning _
    obtain ⟨leads, found⟩ :=
      examined.leads unit owner record time between running
    have first : owner = sessionId →
        (⟨sessionId, managed, modifiedAt middle.system sessionId⟩ :
          Candidate) = ⟨owner, record, time⟩ := by
      intro same
      subst same
      have inMap := newest.inMap
      rw [present, Option.some.injEq] at inMap
      rw [modifiedAt_of_newest between, inMap]
    refine ⟨⟨leads.newest, ?_⟩, ?_⟩
    · intro candidate member
      rw [List.mem_cons] at member
      rcases member with rfl | inRest
      · by_cases same : owner = sessionId
        · exact Or.inl (first same)
        · exact Or.inr
            (modifiedAt_lt_of_newest between sessionId (Ne.symm same))
      · exact leads.ahead candidate inRest
    · intro member
      rw [List.mem_cons] at member
      rcases member with same | inRest
      · cases same
        rw [first rfl]
        exact List.mem_cons_self
      · exact List.mem_cons_of_mem _ (found inRest)

/-- A session that is gone leaves the candidates to the rest. -/
theorem Examined.drop
    {sessionId : String}
    {managed : ManagedSession}
    {rest : List (Sigma fun _ : String => ManagedSession)}
    {world middle dropped next : World}
    {candidates : List Candidate}
    (later : Later world middle)
    (present : world.system.sessions.lookup sessionId = some managed)
    (gone : ∀ unit ∈ middle.system.running, managed.unitName ≠ some unit)
    (without : dropped.system = middle.system.withoutSession sessionId)
    (examined : Examined rest dropped candidates next) :
    Examined (⟨sessionId, managed⟩ :: rest) world candidates next where
  quiet := examined.quiet
  fewer := by
    have same : dropped.system.running = middle.system.running := by
      rw [without]
      rfl
    have between := examined.fewer
    rw [same] at between
    exact between.trans later.fewer
  others := by
    intro other absent
    rw [List.map_cons, List.mem_cons, not_or] at absent
    rw [examined.others other absent.2, without,
      lookup_sessions_withoutSession, if_neg absent.1, later.same]
    rfl
  kept := by
    intro candidate member
    obtain ⟨known, stored⟩ := examined.kept candidate member
    exact ⟨List.mem_cons_of_mem _ known, stored⟩
  leads := by
    intro unit owner record time newest running
    have sameRunning : dropped.system.running = middle.system.running := by
      rw [without]
      rfl
    have stillRuns : unit ∈ middle.system.running := by
      rw [← sameRunning]
      exact examined.fewer running
    have different : owner ≠ sessionId := by
      intro same
      subst same
      have inMap := newest.inMap
      rw [present, Option.some.injEq] at inMap
      subst inMap
      exact gone unit stillRuns newest.ofUnit
    have between : Newest dropped.system unit owner record time := by
      rw [without, later.same]
      exact (newest.withRunning _).withoutSession sessionId different
    obtain ⟨leads, found⟩ :=
      examined.leads unit owner record time between running
    refine ⟨leads, ?_⟩
    intro member
    rw [List.mem_cons] at member
    rcases member with same | inRest
    · cases same
      exact absurd rfl different
    · exact found inRest

theorem meets_examine
    (entries : List (Sigma fun _ : String => ManagedSession))
    (world : World)
    (quiet : Quiet world)
    (present : ∀ entry ∈ entries,
      world.system.sessions.lookup entry.1 = some entry.2)
    (distinct : (entries.map Sigma.fst).Nodup) :
    Meets (examine entries) (Examined entries world) (fun _ _ => False)
      world := by
  induction entries generalizing world with
  | nil =>
      refine ⟨quiet, Finset.Subset.refl _, fun _ _ => rfl, ?_, ?_⟩
      · intro candidate member
        cases member
      · intro unit sessionId managed time newest _
        refine ⟨⟨newest, ?_⟩, ?_⟩
        · intro candidate member
          cases member
        · intro member
          cases member
  | cons entry rest inductionHypothesis =>
      obtain ⟨sessionId, managed⟩ := entry
      rw [List.map_cons, List.nodup_cons] at distinct
      have head := present ⟨sessionId, managed⟩ List.mem_cons_self
      rw [examine, meets_bind, meets_tryCatch]
      -- A check that fails counts as running.
      have checked : Meets (applicationIsRunning managed.unitName)
          (fun keep middle => Later world middle ∧ (keep = false →
            ∀ unit ∈ middle.system.running, managed.unitName ≠ some unit))
          (fun _ middle => Later world middle) world :=
        meets_applicationIsRunning managed.unitName world
      have goesOn : ∀ keep middle, Later world middle →
          (keep = false → ∀ unit ∈ middle.system.running,
            managed.unitName ≠ some unit) →
          Meets
            (if keep = true then do
              let world ← get
              let candidate : Candidate :=
                { sessionId := sessionId
                  managed := managed
                  modifiedAt := modifiedAt world.system sessionId }
              let others ← examine rest
              pure (candidate :: others)
            else do
              dropSession sessionId managed
              examine rest)
            (Examined (⟨sessionId, managed⟩ :: rest) world)
            (fun _ _ => False) middle := by
        intro keep middle later gone
        have calm := later.quiet quiet
        have stored : ∀ entry ∈ rest,
            middle.system.sessions.lookup entry.1 = some entry.2 := by
          intro entry member
          rw [later.same]
          exact present entry (List.mem_cons_of_mem _ member)
        cases keep with
        | true =>
            rw [if_pos rfl, meets_bind, meets_get, meets_bind]
            refine (inductionHypothesis middle calm stored
              distinct.2).imp ?_ (fun _ _ impossible => impossible)
            intro candidates next examined
            exact examined.keep later head distinct.1
        | false =>
            rw [if_neg Bool.false_ne_true, meets_bind]
            have inMap : middle.system.sessions.lookup sessionId =
                some managed := by
              rw [later.same]
              exact head
            refine (meets_dropSession sessionId managed middle calm inMap
              (gone rfl) _).imp ?_ (fun _ _ impossible => impossible)
            intro _ dropped facts
            obtain ⟨droppedQuiet, without⟩ := facts
            refine (inductionHypothesis dropped droppedQuiet ?_
              distinct.2).imp ?_ (fun _ _ impossible => impossible)
            · intro entry member
              rw [without, lookup_sessions_withoutSession, if_neg]
              · exact stored entry member
              · intro same
                exact distinct.1 (List.mem_map.mpr ⟨entry, member, same⟩)
            · intro candidates next examined
              exact examined.drop later head (gone rfl) without
      exact checked.imp
        (fun keep middle facts => goesOn keep middle facts.1 facts.2)
        (fun _ middle later => goesOn true middle later
          (fun impossible => by cases impossible))

/-- A candidate ahead of all others is selected. -/
theorem selectActiveSession_eq
    (candidates : List Candidate)
    (first : Candidate)
    (member : first ∈ candidates)
    (ahead : ∀ candidate ∈ candidates,
      candidate = first ∨ candidate.modifiedAt < first.modifiedAt) :
    selectActiveSession candidates = some first := by
  have folded : ∀ (rest : List Candidate) (best : Candidate),
      (best = first ∨ best.modifiedAt < first.modifiedAt) →
      (∀ candidate ∈ rest,
        candidate = first ∨ candidate.modifiedAt < first.modifiedAt) →
      best = first ∨ first ∈ rest →
      rest.foldl
        (fun best next => if best.precedes next then next else best) best =
        first := by
    intro rest
    induction rest with
    | nil =>
        intro best _ _ found
        exact found.resolve_right List.not_mem_nil
    | cons next rest inductionHypothesis =>
        intro best bestBehind behind found
        have nextBehind := behind next List.mem_cons_self
        have restBehind := fun candidate inRest =>
          behind candidate (List.mem_cons_of_mem _ inRest)
        rw [List.foldl_cons]
        apply inductionHypothesis _ ?_ restBehind
        · rcases found with rfl | inList
          · -- The first stays ahead of whatever comes.
            refine Or.inl ?_
            rcases nextBehind with rfl | smaller
            · split_ifs <;> rfl
            · rw [if_neg]
              simp only [Candidate.precedes, Bool.or_eq_true,
                Bool.and_eq_true, decide_eq_true_eq, beq_iff_eq]
              omega
          · rw [List.mem_cons] at inList
            rcases inList with rfl | inRest
            · refine Or.inl ?_
              rcases bestBehind with rfl | smaller
              · split_ifs <;> rfl
              · rw [if_pos]
                simp only [Candidate.precedes, Bool.or_eq_true,
                  Bool.and_eq_true, decide_eq_true_eq, beq_iff_eq]
                exact Or.inl smaller
            · exact Or.inr inRest
        · split_ifs
          · exact nextBehind
          · exact bestBehind
  cases candidates with
  | nil => cases member
  | cons candidate rest =>
      rw [selectActiveSession, folded rest candidate
        (ahead candidate List.mem_cons_self)
        (fun next inRest => ahead next (List.mem_cons_of_mem _ inRest))]
      rw [List.mem_cons] at member
      rcases member with rfl | inRest
      · exact Or.inl rfl
      · exact Or.inr inRest

theorem selectActiveSession_mem
    (candidates : List Candidate)
    (selected : Candidate)
    (found : selectActiveSession candidates = some selected) :
    selected ∈ candidates := by
  have folded : ∀ (rest : List Candidate) (best : Candidate),
      rest.foldl
        (fun best next => if best.precedes next then next else best) best ∈
        best :: rest := by
    intro rest
    induction rest with
    | nil => exact fun _ => List.mem_singleton_self _
    | cons next rest inductionHypothesis =>
        intro best
        have later := inductionHypothesis
          (if best.precedes next then next else best)
        rw [List.mem_cons] at later
        rw [List.foldl_cons]
        rcases later with same | inRest
        · rw [same]
          split_ifs
          · exact List.mem_cons_of_mem _ List.mem_cons_self
          · exact List.mem_cons_self
        · exact List.mem_cons_of_mem _ (List.mem_cons_of_mem _ inRest)
  cases candidates with
  | nil => cases found
  | cons candidate rest =>
      rw [selectActiveSession, Option.some.injEq] at found
      rw [← found]
      exact folded rest candidate

/-- What the active session is: one of the map, and that of the unit that
runs, if one does. -/
structure Active
    (world : World)
    (active : Option (String × ManagedSession))
    (next : World) : Prop where
  quiet : Quiet next
  fewer : next.system.running ⊆ world.system.running
  inMap : ∀ sessionId managed, active = some (sessionId, managed) →
    next.system.sessions.lookup sessionId = some managed
  ofRunning : ∀ unit ∈ next.system.running, ∃ sessionId managed,
    active = some (sessionId, managed) ∧ managed.unitName = some unit ∧
      world.system.sessions.lookup sessionId = some managed

theorem meets_activeManagedSession
    (world : World)
    (quiet : Quiet world) :
    Meets activeManagedSession (Active world) (fun _ _ => False) world := by
  rw [activeManagedSession, meets_bind, meets_get, meets_bind]
  have entries : ∀ entry ∈ world.system.sessions.entries,
      world.system.sessions.lookup entry.1 = some entry.2 :=
    fun entry member => AList.mem_lookup_iff.mpr member
  refine (meets_examine world.system.sessions.entries world quiet entries
    world.system.sessions.nodupKeys).imp ?_ (fun _ _ impossible => impossible)
  intro candidates next examined
  rw [meets_pure]
  refine ⟨examined.quiet, examined.fewer, ?_, ?_⟩
  · intro sessionId managed active
    rw [Option.map_eq_some_iff] at active
    obtain ⟨candidate, selected, same⟩ := active
    cases same
    exact (examined.kept candidate
      (selectActiveSession_mem candidates candidate selected)).2
  · intro unit running
    obtain ⟨sessionId, managed, time, newest⟩ :=
      quiet.tracked.newest unit (examined.fewer running)
    obtain ⟨leads, found⟩ :=
      examined.leads unit sessionId managed time newest running
    refine ⟨sessionId, managed, ?_, newest.ofUnit, newest.inMap⟩
    rw [selectActiveSession_eq candidates ⟨sessionId, managed, time⟩
      (found (AList.mem_lookup_iff.mp newest.inMap)) leads.ahead]
    rfl

/-! ## Launching -/

/-- The way is clear for a launch: nothing runs, except Heroic when a Heroic
game is launched. -/
structure Cleared
    (sourceId : String)
    (world : World) : Prop where
  quiet : Quiet world
  clear : ∀ unit ∈ world.system.running,
    unit = heroicUnitName ∧ sourceId = heroicSource

theorem Later.cleared
    {before after : World}
    {sourceId : String}
    (later : Later before after)
    (cleared : Cleared sourceId before) :
    Cleared sourceId after :=
  ⟨later.quiet cleared.quiet,
    fun unit member => cleared.clear unit (later.fewer member)⟩

/-- Before a launch the active session is stopped, or the launch is
refused. -/
theorem meets_stopOtherActiveSessions
    (newSourceId : String)
    (world : World)
    (quiet : Quiet world) :
    Meets (stopOtherActiveSessions newSourceId)
      (fun _ next => Cleared newSourceId next)
      (fun _ next => Settled next) world := by
  rw [stopOtherActiveSessions, meets_bind]
  refine (meets_activeManagedSession world quiet).imp ?_
    (fun _ _ impossible => impossible.elim)
  intro active next facts
  cases active with
  | none =>
      refine ⟨facts.quiet, ?_⟩
      intro unit running
      obtain ⟨_, _, impossible, _⟩ := facts.ofRunning unit running
      cases impossible
  | some found =>
      obtain ⟨sessionId, managed⟩ := found
      have inMap := facts.inMap sessionId managed rfl
      have ofActive : ∀ unit ∈ next.system.running,
          managed.unitName = some unit := by
        intro unit running
        obtain ⟨_, _, same, ofUnit, _⟩ := facts.ofRunning unit running
        cases same
        exact ofUnit
      cases replaced : shouldReplaceActiveSession newSourceId
          managed.session.sourceId with
      | false =>
          -- Two Heroic games: the unit that may run is Heroic's own.
          simp only [replaced, Bool.false_eq_true, if_false, meets_pure]
          simp only [shouldReplaceActiveSession, Bool.not_eq_false',
            Bool.and_eq_true, beq_iff_eq] at replaced
          have sound := facts.quiet.tracked.recorded.inMap _ _ inMap
          refine ⟨facts.quiet, ?_⟩
          intro unit running
          have ofUnit := ofActive unit running
          rw [sound.heroic replaced.2, Option.some.injEq] at ofUnit
          exact ⟨ofUnit.symm, replaced.1⟩
      | true =>
          simp only [replaced, if_true]
          rw [meets_bind, meets_tryCatch]
          refine (meets_stopApplication_of_quiet managed.unitName next
            facts.quiet).imp ?_ (fun _ _ failed => failed.1)
          intro _ stopped stop
          obtain ⟨calm, same, fewer, gone⟩ := stop
          rw [meets_bind]
          refine (meets_setInputProfile stopped).imp ?_
            (fun _ _ later => (later.quiet calm).settled)
          intro _ told later
          have silent : ∀ unit, unit ∉ told.system.running := by
            intro unit running
            have before := later.fewer running
            exact gone unit before (ofActive unit (fewer before))
          refine (meets_dropSession sessionId managed told
            (later.quiet calm) ?_ ?_ _).imp ?_ (fun _ _ failed => failed)
          · rw [later.same, same]
            exact inMap
          · exact fun unit running => absurd running (silent unit)
          · intro _ dropped facts
            refine ⟨facts.1, ?_⟩
            intro unit running
            rw [facts.2] at running
            exact absurd running (silent unit)

/-- A launch has happened and its record is still to be written. -/
structure Launched
    (unit : String)
    (world : World) : Prop where
  recorded : Recorded world.system
  proper : Proper world.log
  unfailed : Unfailed world.log
  only : ∀ other ∈ world.system.running, other = unit

theorem Later.launched
    {before after : World}
    {unit : String}
    (later : Later before after)
    (launched : Launched unit before) :
    Launched unit after where
  recorded := by
    rw [later.same]
    exact launched.recorded.withRunning _
  proper := by
    rw [later.log]
    exact launched.proper
  unfailed := by
    rw [later.log]
    exact launched.unfailed
  only := fun other member => launched.only other (later.fewer member)

/-- A unit is started alone, or nothing happens. -/
theorem meets_startUnit
    (unit : String)
    (world : World)
    (quiet : Quiet world)
    (silent : ∀ other, other ∉ world.system.running) :
    Meets (startUnit unit)
      (fun started next => started = unit ∧ Launched unit next)
      (fun _ next => Quiet next) world := by
  rw [startUnit, meets_bind]
  refine (meets_await world _).imp ?_ (fun _ _ failed => failed)
  intro answer next later
  have calm := later.quiet quiet
  cases answer.failure with
  | some message => exact calm
  | none =>
      have nothing : next.system.running = ∅ := by
        rw [Finset.eq_empty_iff_forall_notMem]
        exact fun other member => silent other (later.fewer member)
      refine ⟨rfl, ?_, ?_, ?_, ?_⟩
      · exact ⟨calm.tracked.recorded.inMap, calm.tracked.recorded.onDisk,
          calm.tracked.recorded.timed⟩
      · refine calm.proper.concat _ ?_ (fun _ _ same => by cases same)
        intro started flag same
        cases same
        refine ⟨?_, calm.unfailed⟩
        rw [nothing]
        simp
      · exact calm.unfailed.concat _ (fun _ same => by cases same)
      · intro other member
        change other ∈ insert unit next.system.running at member
        rw [nothing] at member
        simpa using member

theorem Cleared.silent
    {sourceId : String}
    {world : World}
    (cleared : Cleared sourceId world)
    (other : sourceId ≠ heroicSource)
    (unit : String) :
    unit ∉ world.system.running :=
  fun running => other (cleared.clear unit running).2

/-- A Heroic game is handed to the running Heroic, or Heroic is started
alone. -/
theorem meets_launchHeroicGame
    (applicationId : String)
    (sourceId : String)
    (world : World)
    (cleared : Cleared sourceId world) :
    Meets (launchHeroicGame applicationId)
      (fun unit next => unit = heroicUnitName ∧ Launched unit next)
      (fun _ next => Quiet next) world := by
  rw [launchHeroicGame]
  split_ifs
  · rw [meets_bind]
    refine (meets_applicationIsRunning (some heroicUnitName) world).imp ?_
      (fun _ _ later => later.quiet cleared.quiet)
    intro running next facts
    obtain ⟨later, accurate⟩ := facts
    have clear := later.cleared cleared
    cases running with
    | true =>
        simp only [if_true]
        rw [meets_bind]
        refine (meets_await next _).imp ?_ (fun _ _ failed => failed)
        intro answer asked again
        have clearStill := again.cleared clear
        cases answer.failure with
        | some message => exact clearStill.quiet
        | none =>
            refine ⟨rfl, ?_, clearStill.quiet.proper,
              clearStill.quiet.unfailed, ?_⟩
            · exact clearStill.quiet.tracked.recorded
            · exact fun other member => (clearStill.clear other member).1
    | false =>
        simp only [Bool.false_eq_true, if_false]
        refine (meets_startUnit heroicUnitName next clear.quiet ?_).imp ?_
          (fun _ _ failed => failed)
        · intro other member
          apply accurate rfl other member
          rw [(clear.clear other member).1]
        · intro unit launched facts
          obtain ⟨same, rest⟩ := facts
          subst same
          exact ⟨rfl, rest⟩
  · exact cleared.quiet

theorem desktopAppsSource_ne_heroicSource :
    desktopAppsSource ≠ heroicSource := by decide

theorem retroarchSource_ne_heroicSource :
    retroarchSource ≠ heroicSource := by decide

/-- A launch starts its unit alone, and a Heroic session is that of the Heroic
unit. -/
theorem meets_launch
    (request : BridgeRequest)
    (session : ApplicationSession)
    (launches : launchedSession request = some session)
    (world : World)
    (cleared : Cleared session.sourceId world) :
    Meets (launch request)
      (fun unit next => Launched unit next ∧
        (session.sourceId = heroicSource → unit = heroicUnitName))
      (fun _ next => Quiet next) world := by
  have application : ∀ name, session.sourceId ≠ heroicSource →
      Meets (startUnit name)
        (fun unit next => Launched unit next ∧
          (session.sourceId = heroicSource → unit = heroicUnitName))
        (fun _ next => Quiet next) world := by
    intro name other
    refine (meets_startUnit name world cleared.quiet
      (cleared.silent other)).imp ?_ (fun _ _ failed => failed)
    intro unit next facts
    obtain ⟨same, launched⟩ := facts
    subst same
    exact ⟨launched, fun heroic => absurd heroic other⟩
  cases request with
  | launchApplication sourceId applicationId sessionId inputProfile =>
      cases launches
      rw [launch]
      split_ifs with desktop
      · apply application
        rw [runningSession, desktop]
        exact desktopAppsSource_ne_heroicSource
      · exact cleared.quiet
  | launchStremioTitle applicationId videoId mediaType sessionId profile =>
      cases launches
      exact application _ desktopAppsSource_ne_heroicSource
  | launchHeroicGame runner applicationId sessionId inputProfile =>
      cases launches
      refine (meets_launchHeroicGame applicationId _ world cleared).imp ?_
        (fun _ _ failed => failed)
      intro unit next facts
      exact ⟨facts.2, fun _ => facts.1⟩
  | launchRetroGame corePath romPath sessionId inputProfile =>
      cases launches
      exact application _ retroarchSource_ne_heroicSource
  | _ => cases launches

theorem meets_syncInputProfile
    (world : World)
    (quiet : Quiet world)
    (fail : String → World → Prop) :
    Meets syncInputProfile (fun _ next => Quiet next) fail world := by
  rw [syncInputProfile, meets_bind]
  refine (meets_activeManagedSession world quiet).imp ?_
    (fun _ _ impossible => impossible.elim)
  intro active next facts
  rw [meets_tryCatch]
  exact (meets_setInputProfile next).imp
    (fun _ _ later => later.quiet facts.quiet)
    (fun _ _ later => later.quiet facts.quiet)

/-! ## Keeping the record of a launch -/

theorem lookup_directory_writeRecord
    (system : System)
    (sessionId other : String)
    (content : Option ManagedSession) :
    (system.writeRecord sessionId content).directory.lookup other =
      if other = sessionId then some ⟨content, system.clock + 1⟩
      else system.directory.lookup other :=
  Table.lookup_insert_eq_ite _ _ _ _

/-- Writing a sound record, or a broken one, leaves the records sound. -/
theorem recorded_writeRecord
    {system : System}
    (recorded : Recorded system)
    (sessionId : String)
    (content : Option ManagedSession)
    (sound : ∀ managed, content = some managed →
      SoundRecord sessionId managed) :
    Recorded (system.writeRecord sessionId content) where
  inMap := recorded.inMap
  onDisk := by
    intro other file managed found readable
    rw [lookup_directory_writeRecord] at found
    split_ifs at found with same
    · cases found
      rw [same]
      exact sound managed readable
    · exact recorded.onDisk other file managed found readable
  timed := by
    intro other file found
    rw [lookup_directory_writeRecord] at found
    split_ifs at found with same
    · cases found
      exact Nat.le_refl _
    · exact Nat.le_succ_of_le (recorded.timed other file found)

/-- What writing the record of a launch does: the record is on disk, or some
file is left and the launch is to be undone. -/
theorem meets_saveManagedSession
    (unit : String)
    (managed : ManagedSession)
    (sound : SoundRecord managed.session.id managed)
    (world : World)
    (launched : Launched unit world) :
    Meets (saveManagedSession managed)
      (fun _ next => Launched unit next ∧
        ∃ middle : System, Recorded middle ∧
          next.system =
            middle.writeRecord managed.session.id (some managed))
      (fun _ next => Launched unit next ∧
        next.log = world.log ++ [.save managed.session.id false]) world := by
  rw [saveManagedSession, meets_bind]
  refine (meets_await world _).imp ?_ (fun _ _ failed => failed)
  intro answer next later
  have afterwards := later.launched launched
  have properSave : ∀ flag, Proper
      (next.log ++ [.save managed.session.id flag]) := fun flag =>
    afterwards.proper.concat _ (fun _ _ same => by cases same)
      (fun _ _ same => by cases same)
  have unfailedSave : ∀ flag, Unfailed
      (next.log ++ [.save managed.session.id flag]) := fun flag =>
    afterwards.unfailed.concat _ (fun _ same => by cases same)
  have written := recorded_writeRecord afterwards.recorded
    managed.session.id (some managed) (fun _ same => by cases same; exact sound)
  have broken := recorded_writeRecord afterwards.recorded
    managed.session.id none (fun _ same => by cases same)
  have failedLog : next.log ++ [.save managed.session.id false] =
      world.log ++ [.save managed.session.id false] := by
    rw [later.log]
  cases answer.failure with
  | none =>
      exact ⟨⟨written, properSave true, unfailedSave true, afterwards.only⟩,
        next.system, afterwards.recorded, rfl⟩
  | some message =>
      cases answer.leftover with
      | oldFile =>
          exact ⟨⟨afterwards.recorded, properSave false, unfailedSave false,
            afterwards.only⟩, failedLog⟩
      | brokenFile =>
          exact ⟨⟨broken, properSave false, unfailedSave false,
            afterwards.only⟩, failedLog⟩
      | newFile =>
          exact ⟨⟨written, properSave false, unfailedSave false,
            afterwards.only⟩, failedLog⟩

/-- How a launch request may end: with the invariant, or with its unit
abandoned. -/
structure Ended (world : World) : Prop where
  tracked : Abandoned world.log ∨ Tracked world.system
  proper : Proper world.log

theorem Settled.ended
    {world : World}
    (settled : Settled world) :
    Ended world :=
  ⟨Or.inr settled.tracked, settled.proper⟩

theorem Later.ended
    {before after : World}
    (later : Later before after)
    (ended : Ended before) :
    Ended after where
  tracked := by
    rw [later.log, later.same]
    rcases ended.tracked with abandoned | tracked
    · exact Or.inl abandoned
    · exact Or.inr (tracked.withRunning _ later.fewer)
  proper := by
    rw [later.log]
    exact ended.proper

/-- The record of a launch is on disk, or the launch is undone, or its unit is
abandoned. -/
theorem meets_persistOrUndo
    (unit : String)
    (managed : ManagedSession)
    (ofUnit : managed.unitName = some unit)
    (sound : SoundRecord managed.session.id managed)
    (world : World)
    (launched : Launched unit world) :
    Meets (persistOrUndo managed)
      (fun _ next => Launched unit next ∧
        ∃ middle : System, Recorded middle ∧
          next.system =
            middle.writeRecord managed.session.id (some managed))
      (fun _ next => Ended next) world := by
  rw [persistOrUndo, meets_tryCatch]
  refine (meets_saveManagedSession unit managed sound world launched).imp
    (fun _ _ saved => saved) ?_
  intro _ unsaved facts
  obtain ⟨still, savedLog⟩ := facts
  rw [meets_bind, meets_tryCatch, ofUnit]
  have reset : ∀ next, Ended next →
      Meets (do
          tryCatch setInputProfile fun _ => pure ⟨⟩
          throw "could not persist managed application session" :
          BridgeM PUnit)
        (fun _ next => Launched unit next ∧
          ∃ middle : System, Recorded middle ∧
            next.system =
              middle.writeRecord managed.session.id (some managed))
        (fun _ next => Ended next) next := by
    intro next ended
    rw [meets_bind, meets_tryCatch]
    exact (meets_setInputProfile next).imp
      (fun _ _ later => later.ended ended)
      (fun _ _ later => later.ended ended)
  refine (meets_stopApplication unit unsaved).imp ?_ ?_
  · intro _ next stop
    obtain ⟨gone, later, log⟩ := stop
    apply reset
    -- The only unit that could run has been stopped.
    have silent : ∀ other, other ∉ next.system.running := by
      intro other running
      have same := still.only other (later.fewer running)
      rw [same] at running
      exact gone running
    refine ⟨Or.inr ⟨?_, ?_, ?_⟩, ?_⟩
    · have recorded := (later.launched still).recorded
      exact ⟨recorded.inMap, recorded.onDisk, recorded.timed⟩
    · exact fun left member => absurd member (silent left)
    · exact fun other member => absurd member (silent other)
    · rw [log]
      exact still.proper.concat _ (fun _ _ same => by cases same)
        (fun _ _ same => by cases same)
  · intro _ next stop
    obtain ⟨later, log, _⟩ := stop
    apply reset
    refine ⟨Or.inl ⟨world.log, managed.session.id, unit, [], ?_⟩, ?_⟩
    · rw [log, savedLog]
      simp
    · rw [log]
      exact still.proper.concat _ (fun _ _ same => by cases same)
        (fun _ _ same => by cases same)

/-- A launch whose record is on disk and in the map is tracked. -/
theorem tracked_insert
    {unit : String}
    {managed : ManagedSession}
    {world : World}
    {middle : System}
    (ofUnit : managed.unitName = some unit)
    (sound : SoundRecord managed.session.id managed)
    (launched : Launched unit world)
    (recorded : Recorded middle)
    (written : world.system =
      middle.writeRecord managed.session.id (some managed)) :
    Tracked
      { world.system with
        sessions := world.system.sessions.insert managed.session.id
          managed } where
  recorded := by
    refine ⟨?_, launched.recorded.onDisk, launched.recorded.timed⟩
    intro sessionId other found
    rw [Table.lookup_insert_eq_ite] at found
    split_ifs at found with same
    · cases found
      rw [same]
      exact sound
    · exact launched.recorded.inMap sessionId other found
  single := by
    intro left leftMember right rightMember
    rw [launched.only left leftMember, launched.only right rightMember]
  newest := by
    intro other running
    have same := launched.only other running
    subst same
    refine ⟨managed.session.id, managed, middle.clock + 1, ?_, ofUnit, ?_,
      Nat.succ_pos _, ?_⟩
    · rw [Table.lookup_insert_eq_ite, if_pos rfl]
    · change world.system.directory.lookup _ = _
      rw [written, lookup_directory_writeRecord, if_pos rfl]
    · intro sessionId file different found
      change world.system.directory.lookup sessionId = _ at found
      rw [written, lookup_directory_writeRecord, if_neg different] at found
      exact Nat.lt_succ_of_le (recorded.timed sessionId file found)

theorem meets_launchOrSync
    (request : BridgeRequest)
    (session : ApplicationSession)
    (launches : launchedSession request = some session)
    (world : World)
    (cleared : Cleared session.sourceId world) :
    Meets (launchOrSync request)
      (fun unit next => Launched unit next ∧
        (session.sourceId = heroicSource → unit = heroicUnitName))
      (fun _ next => Quiet next) world := by
  rw [launchOrSync, meets_tryCatch]
  refine (meets_launch request session launches world cleared).imp
    (fun _ _ launched => launched) ?_
  intro message next quiet
  rw [meets_bind]
  exact (meets_syncInputProfile next quiet _).imp
    (fun _ _ synced => synced) (fun _ _ failed => failed)

theorem meets_launchLocked
    (request : BridgeRequest)
    (session : ApplicationSession)
    (launches : launchedSession request = some session)
    (valid : validSessionId session.id = true)
    (world : World)
    (quiet : Quiet world) :
    Meets (launchLocked request session) (fun _ next => Ended next)
      (fun _ next => Ended next) world := by
  rw [launchLocked, meets_bind]
  refine (meets_stopOtherActiveSessions session.sourceId world quiet).imp ?_
    (fun _ _ settled => settled.ended)
  intro _ cleared clear
  rw [meets_bind]
  refine (meets_setInputProfile cleared).imp ?_
    (fun _ _ later => (later.quiet clear.quiet).settled.ended)
  intro _ told later
  rw [meets_bind]
  refine (meets_launchOrSync request session launches told
    (later.cleared clear)).imp ?_ (fun _ _ kept => kept.settled.ended)
  intro unit started facts
  obtain ⟨launched, heroic⟩ := facts
  have sound : SoundRecord session.id
      { session := session
        unitName := some unit
        inputProfile := requestedProfile request } :=
    ⟨rfl, valid, fun ofHeroic => by rw [heroic ofHeroic]⟩
  rw [meets_bind]
  refine (meets_persistOrUndo unit _ rfl sound started launched).imp ?_
    (fun _ _ ended => ended)
  intro _ saved facts
  obtain ⟨still, middle, recorded, written⟩ := facts
  exact ⟨Or.inr (tracked_insert rfl sound still recorded written),
    still.proper⟩

theorem meets_launchSession
    (request : BridgeRequest)
    (session : ApplicationSession)
    (launches : launchedSession request = some session)
    (world : World)
    (quiet : Quiet world) :
    Meets (launchSession request session) (fun _ next => Ended next)
      (fun _ next => Ended next) world := by
  rw [launchSession]
  split_ifs with valid
  · rw [meets_tryCatch, meets_bind]
    exact (meets_launchLocked request session launches valid world
      quiet).imp (fun _ _ ended => ended) (fun _ _ ended => ended)
  · exact quiet.settled.ended

/-! ## Stopping and asking -/

/-- A stop is accepted when its unit is gone, and refused only when systemd
fails. -/
theorem meets_stopManagedSession
    (sessionId : String)
    (managed : ManagedSession)
    (world : World)
    (quiet : Quiet world)
    (present : world.system.sessions.lookup sessionId = some managed) :
    Meets (stopManagedSession sessionId managed)
      (fun response next => Settled next ∧
        (response = .stopAccepted sessionId ∧
            (∀ unit ∈ next.system.running, managed.unitName ≠ some unit) ∨
          managed.unitName = none ∨
            (world.tape.headD .success).failure ≠ none))
      (fun _ _ => False) world := by
  rw [stopManagedSession, meets_tryCatch, meets_bind]
  refine (meets_stopApplication_of_quiet managed.unitName world quiet).imp
    ?_ (fun _ _ failed => ⟨failed.1, Or.inr failed.2⟩)
  intro _ stopped stop
  obtain ⟨calm, same, _, gone⟩ := stop
  rw [meets_bind]
  refine (meets_dropSession sessionId managed stopped calm ?_ gone
    _).imp ?_ (fun _ _ impossible => impossible)
  · rw [same]
    exact present
  · intro _ dropped facts
    obtain ⟨droppedQuiet, without⟩ := facts
    rw [meets_bind, meets_tryCatch]
    have accepted : ∀ next, Later dropped next → Settled next ∧
        ∀ unit ∈ next.system.running, managed.unitName ≠ some unit := by
      intro next later
      refine ⟨(later.quiet droppedQuiet).settled, ?_⟩
      intro unit running
      have before := later.fewer running
      rw [without] at before
      exact gone unit before
    exact (meets_setInputProfile dropped).imp
      (fun _ next later =>
        ⟨(accepted next later).1, Or.inl ⟨rfl, (accepted next later).2⟩⟩)
      (fun _ next later =>
        ⟨(accepted next later).1, Or.inl ⟨rfl, (accepted next later).2⟩⟩)

/-- The session of the unit that runs is reported as the active one. -/
theorem meets_activeRequest
    (world : World)
    (quiet : Quiet world) :
    Meets (handleRequest .activeApplicationSession)
      (fun response next => Settled next ∧
        ∀ unit ∈ next.system.running, ∃ sessionId managed,
          world.system.sessions.lookup sessionId = some managed ∧
            managed.unitName = some unit ∧
            response = .applicationSession (some managed.session))
      (fun _ _ => False) world := by
  rw [handleRequest, meets_bind]
  refine (meets_activeManagedSession world quiet).imp ?_
    (fun _ _ impossible => impossible)
  intro active next facts
  have reported : ∀ later, Later next later → Settled later ∧
      ∀ unit ∈ later.system.running, ∃ sessionId managed,
        world.system.sessions.lookup sessionId = some managed ∧
          managed.unitName = some unit ∧
          BridgeResponse.applicationSession
              (active.map fun found => found.2.session) =
            .applicationSession (some managed.session) := by
    intro later after
    refine ⟨(after.quiet facts.quiet).settled, ?_⟩
    intro unit running
    obtain ⟨sessionId, managed, same, ofUnit, inMap⟩ :=
      facts.ofRunning unit (after.fewer running)
    exact ⟨sessionId, managed, inMap, ofUnit, by rw [same]; rfl⟩
  rw [meets_bind, meets_tryCatch]
  exact (meets_setInputProfile next).imp
    (fun _ later after => reported later after)
    (fun _ later after => reported later after)

/-- Every session request ends with the invariant, or with an abandoned
unit. -/
theorem meets_handleRequest
    (request : BridgeRequest)
    (world : World)
    (quiet : Quiet world) :
    Meets (handleRequest request) (fun _ next => Ended next)
      (fun _ next => Ended next) world := by
  have launches : ∀ session, launchedSession request = some session →
      Meets (launchSession request session) (fun _ next => Ended next)
        (fun _ next => Ended next) world :=
    fun session launched =>
      meets_launchSession request session launched world quiet
  have stops : ∀ (next : World) (sessionId : String)
      (managed : ManagedSession), Quiet next →
      next.system.sessions.lookup sessionId = some managed →
      Meets (stopManagedSession managed.session.id managed)
        (fun _ next => Ended next) (fun _ next => Ended next) next := by
    intro next sessionId managed calm found
    have named := (calm.tracked.recorded.inMap _ _ found).named
    subst named
    exact (meets_stopManagedSession _ managed next calm found).imp
      (fun _ _ facts => facts.1.ended)
      (fun _ _ impossible => impossible.elim)
  cases request with
  | activeApplicationSession =>
      exact (meets_activeRequest world quiet).imp
        (fun _ _ facts => facts.1.ended)
        (fun _ _ impossible => impossible.elim)
  | stopApplicationSession sessionId =>
      rw [handleRequest, meets_bind, meets_get]
      cases found : world.system.sessions.lookup sessionId with
      | none => exact quiet.settled.ended
      | some managed => exact stops world sessionId managed quiet found
  | stopActiveApplicationSession =>
      rw [handleRequest, meets_bind]
      refine (meets_activeManagedSession world quiet).imp ?_
        (fun _ _ impossible => impossible.elim)
      intro active next facts
      cases active with
      | none => exact facts.quiet.settled.ended
      | some found =>
          exact stops next found.1 found.2 facts.quiet
            (facts.inMap found.1 found.2 rfl)
  | launchApplication sourceId applicationId sessionId inputProfile =>
      exact launches _ rfl
  | launchStremioTitle applicationId videoId mediaType sessionId profile =>
      exact launches _ rfl
  | launchHeroicGame runner applicationId sessionId inputProfile =>
      exact launches _ rfl
  | launchRetroGame corePath romPath sessionId inputProfile =>
      exact launches _ rfl
  | _ => exact quiet.settled.ended

end BridgeM

/-! ## Restarts -/

theorem lookup_loadFile
    (sessions : Table String ManagedSession)
    (file : Sigma fun _ : String => SessionFile)
    (sound : ∀ managed, file.2.content = some managed →
      SoundRecord file.1 managed)
    (sessionId : String) :
    (loadFile sessions file).lookup sessionId =
      if sessionId = file.1 then
        file.2.content.or (sessions.lookup sessionId)
      else
        sessions.lookup sessionId := by
  cases readable : file.2.content with
  | none => simp [loadFile, readable]
  | some managed =>
      have record := sound managed readable
      have loaded : loadFile sessions file =
          sessions.insert file.1 managed := by
        simp [loadFile, readable, record.named, record.valid]
      rw [loaded]
      split
      case isTrue same =>
          subst same
          exact AList.lookup_insert sessions
      case isFalse other => exact AList.lookup_insert_ne other

theorem lookup_foldl_loadFile
    (files : List (Sigma fun _ : String => SessionFile))
    (sessionId : String) :
    ∀ sessions : Table String ManagedSession,
      files.NodupKeys →
      (∀ file ∈ files, ∀ managed, file.2.content = some managed →
        SoundRecord file.1 managed) →
      (files.foldl loadFile sessions).lookup sessionId =
        ((files.dlookup sessionId).bind SessionFile.content).or
          (sessions.lookup sessionId) := by
  induction files with
  | nil =>
      intro sessions _ _
      rfl
  | cons file files inductionHypothesis =>
      intro sessions distinct sound
      rw [List.nodupKeys_cons] at distinct
      rw [List.foldl_cons, inductionHypothesis _ distinct.2
          (fun later member => sound later (List.mem_cons_of_mem _ member)),
        lookup_loadFile sessions file (sound file List.mem_cons_self)]
      split
      case isTrue same =>
          -- No later file has the key of this one.
          subst same
          obtain ⟨fileId, file⟩ := file
          rw [List.dlookup_eq_none.mpr distinct.1, List.dlookup_cons_eq]
          rfl
      case isFalse other =>
          rw [List.dlookup_cons_ne files file other]

/-- A new process finds exactly the records that can be read. -/
theorem lookup_loadManagedSessions
    (directory : Table String SessionFile)
    (sound : ∀ sessionId file managed,
      directory.lookup sessionId = some file →
      file.content = some managed → SoundRecord sessionId managed)
    (sessionId : String) :
    (loadManagedSessions directory).lookup sessionId =
      (directory.lookup sessionId).bind SessionFile.content := by
  have loaded := lookup_foldl_loadFile directory.entries sessionId ∅
    directory.nodupKeys (by
      intro file member managed readable
      exact sound file.1 file.2 managed (AList.mem_lookup_iff.mpr member)
        readable)
  rw [loadManagedSessions, loaded, AList.lookup_empty, Option.or_none]
  rfl

theorem Tracked.restart
    {system : System}
    (tracked : Tracked system) :
    Tracked
      { system with sessions := loadManagedSessions system.directory } where
  recorded := by
    refine ⟨?_, tracked.recorded.onDisk, tracked.recorded.timed⟩
    intro sessionId managed found
    rw [lookup_loadManagedSessions system.directory
      tracked.recorded.onDisk, Option.bind_eq_some_iff] at found
    obtain ⟨file, stored, readable⟩ := found
    exact tracked.recorded.onDisk sessionId file managed stored readable
  single := tracked.single
  newest := by
    intro unit running
    obtain ⟨sessionId, managed, time, newest⟩ :=
      tracked.newest unit running
    refine ⟨sessionId, managed, time, ?_, newest.ofUnit, newest.onDisk,
      newest.positive, newest.newest⟩
    rw [lookup_loadManagedSessions system.directory
      tracked.recorded.onDisk, newest.onDisk]
    rfl

/-! ## Runs -/

/-- A request whose launch could neither be recorded nor undone. -/
def Step.Abandons
    (system : System) : Step → Prop
  | Step.request asked tape =>
      Abandoned (worldOf (serve system asked tape)).log
  | Step.restart => False
  | Step.exit _ => False

theorem quiet_start
    {system : System}
    (tracked : Tracked system)
    (tape : List Answer) :
    BridgeM.Quiet ⟨system, tape, []⟩ :=
  ⟨tracked, proper_nil, unfailed_nil⟩

theorem ended_serve
    {system : System}
    (tracked : Tracked system)
    (request : BridgeRequest)
    (tape : List Answer) :
    BridgeM.Ended (worldOf (serve system request tape)) := by
  have meets := BridgeM.meets_handleRequest request _
    (quiet_start tracked tape)
  rw [serve, EStateM.run]
  unfold Meets at meets
  cases outcome : BridgeM.handleRequest request ⟨system, tape, []⟩ with
  | ok response world =>
      rw [outcome] at meets
      exact meets
  | error message world =>
      rw [outcome] at meets
      exact meets

theorem tracked_step
    {system : System}
    (tracked : Tracked system)
    (step : Step)
    (kept : ¬ step.Abandons system) :
    Tracked (system.step step) := by
  cases step with
  | request request tape =>
      exact (ended_serve tracked request tape).tracked.resolve_left kept
  | restart => exact tracked.restart
  | exit units =>
      exact tracked.withRunning _ (Finset.filter_subset _ _)

/-- What the bridge promises in a state. -/
structure Exclusive (system : System) : Prop where
  /-- At most one unit runs. -/
  single : ∀ left ∈ system.running, ∀ right ∈ system.running, left = right
  /-- A running unit has its record in the map and on disk. -/
  tracked : ∀ unit ∈ system.running, ∃ sessionId managed modifiedAt,
    system.sessions.lookup sessionId = some managed ∧
      managed.unitName = some unit ∧
      system.directory.lookup sessionId = some ⟨some managed, modifiedAt⟩
  /-- It is reported, as long as it runs until the report is made. -/
  reported : ∀ tape,
    ∀ unit ∈ (worldOf (serve system .activeApplicationSession
      tape)).system.running,
    ∃ sessionId managed,
      system.sessions.lookup sessionId = some managed ∧
        managed.unitName = some unit ∧
        serve system .activeApplicationSession tape =
          .ok (.applicationSession (some managed.session))
            (worldOf (serve system .activeApplicationSession tape))
  /-- It can be stopped: unless systemd fails, the request is accepted and the
  unit is gone. -/
  stoppable : ∀ tape, (tape.headD .success).failure = none →
    ∀ unit ∈ system.running, ∃ sessionId,
      serve system (.stopApplicationSession sessionId) tape =
          .ok (.stopAccepted sessionId)
            (worldOf (serve system (.stopApplicationSession sessionId)
              tape)) ∧
        unit ∉ (worldOf (serve system (.stopApplicationSession sessionId)
          tape)).system.running
  /-- Whatever is requested next, a unit starts with no other one running, no
  record is dropped while its unit runs, and nothing starts after a failed
  stop. -/
  proper : ∀ request tape, Proper (worldOf (serve system request tape)).log

theorem Tracked.reported
    {system : System}
    (tracked : Tracked system)
    (tape : List Answer)
    (unit : String)
    (running : unit ∈ (worldOf (serve system .activeApplicationSession
      tape)).system.running) :
    ∃ sessionId managed,
      system.sessions.lookup sessionId = some managed ∧
        managed.unitName = some unit ∧
        serve system .activeApplicationSession tape =
          .ok (.applicationSession (some managed.session))
            (worldOf (serve system .activeApplicationSession tape)) := by
  have meets := BridgeM.meets_activeRequest _ (quiet_start tracked tape)
  rw [serve, EStateM.run] at running ⊢
  unfold Meets at meets
  cases outcome : BridgeM.handleRequest .activeApplicationSession
      ⟨system, tape, []⟩ with
  | ok response world =>
      rw [outcome] at meets running
      obtain ⟨sessionId, managed, inMap, ofUnit, answered⟩ :=
        meets.2 unit running
      subst answered
      exact ⟨sessionId, managed, inMap, ofUnit, rfl⟩
  | error message world =>
      rw [outcome] at meets
      exact meets.elim

theorem Tracked.stoppable
    {system : System}
    (tracked : Tracked system)
    (tape : List Answer)
    (succeeds : (tape.headD .success).failure = none)
    (unit : String)
    (running : unit ∈ system.running) :
    ∃ sessionId,
      serve system (.stopApplicationSession sessionId) tape =
          .ok (.stopAccepted sessionId)
            (worldOf (serve system (.stopApplicationSession sessionId)
              tape)) ∧
        unit ∉ (worldOf (serve system (.stopApplicationSession sessionId)
          tape)).system.running := by
  obtain ⟨sessionId, managed, time, newest⟩ := tracked.newest unit running
  have named := (tracked.recorded.inMap _ _ newest.inMap).named
  subst named
  refine ⟨managed.session.id, ?_⟩
  have meets := BridgeM.meets_stopManagedSession managed.session.id managed
    _ (quiet_start tracked tape) newest.inMap
  have served : serve system (.stopApplicationSession managed.session.id)
      tape = (BridgeM.stopManagedSession managed.session.id managed)
        ⟨system, tape, []⟩ := by
    have found : (⟨system, tape, []⟩ : World).system.sessions.lookup
        managed.session.id = some managed := newest.inMap
    rw [serve, BridgeM.handleRequest, EStateM.run_bind]
    simp only [EStateM.run_get, found]
    rfl
  rw [served]
  unfold Meets at meets
  cases outcome : BridgeM.stopManagedSession managed.session.id managed
      ⟨system, tape, []⟩ with
  | ok response world =>
      rw [outcome] at meets
      rcases meets.2 with ⟨accepted, gone⟩ | unitless | failed
      · subst accepted
        refine ⟨rfl, ?_⟩
        intro stillRuns
        exact gone unit stillRuns newest.ofUnit
      · rw [newest.ofUnit] at unitless
        cases unitless
      · exact absurd succeeds failed
  | error message world =>
      rw [outcome] at meets
      exact meets.elim

theorem Tracked.exclusive
    {system : System}
    (tracked : Tracked system) :
    Exclusive system where
  single := tracked.single
  tracked := by
    intro unit running
    obtain ⟨sessionId, managed, time, newest⟩ := tracked.newest unit running
    exact ⟨sessionId, managed, time, newest.inMap, newest.ofUnit,
      newest.onDisk⟩
  reported := tracked.reported
  stoppable := tracked.stoppable
  proper := fun request tape => (ended_serve tracked request tape).proper

/-- The bridge manages one session at a time, in every run in which no launch
both fails to be recorded and fails to be undone. -/
theorem single_managed_session
    (steps : List Step)
    (kept : ∀ earlier step later, steps = earlier ++ step :: later →
      ¬ step.Abandons (bridge.run earlier)) :
    Exclusive (bridge.run steps) := by
  have tracked : Tracked (bridge.run steps) := by
    apply bridge.run_induction_along
      (fun system step => ¬ step.Abandons system) Tracked
    · refine ⟨⟨?_, ?_, ?_⟩, ?_, ?_⟩
      · intro sessionId managed found
        cases found
      · intro sessionId file managed found
        cases found
      · intro sessionId file found
        cases found
      · intro left running
        exact absurd running (Finset.notMem_empty left)
      · intro unit running
        exact absurd running (Finset.notMem_empty unit)
    · intro system step tracked kept
      exact tracked_step tracked step kept
    · exact kept
  exact tracked.exclusive

/-- A desktop application is launched. -/
def launchOf (id : String) : BridgeRequest :=
  .launchApplication desktopAppsSource id id .native

/-- A launch whose record cannot be saved and whose unit cannot be stopped. -/
def lostLaunch : Step :=
  .request (launchOf "a")
    [.success, .success,
      { Answer.success with failure := some "disk full" },
      { Answer.success with failure := some "systemd is busy" }]

/-- An application is launched and the bridge starts anew. -/
theorem single_managed_session_restart :
    Exclusive (bridge.run [.request (launchOf "a") [], .restart]) := by
  refine single_managed_session _ ?_
  intro earlier step later split abandons
  have served : (worldOf (serve bridge.start (launchOf "a") [])).log =
      [.start (applicationUnitName "a") true, .save "a" true] := by
    decide
  match earlier, split with
  | [], split =>
      obtain ⟨rfl, -⟩ := List.cons.inj split
      obtain ⟨before, sessionId, unit, after, logged⟩ := abandons
      have saved : Event.save sessionId false ∈
          (worldOf (serve bridge.start (launchOf "a") [])).log := by
        rw [show (worldOf (serve bridge.start (launchOf "a") [])).log = _
          from logged]
        simp
      rw [served] at saved
      simp at saved
  | [_], split =>
      obtain ⟨-, rest⟩ := List.cons.inj split
      obtain ⟨rfl, -⟩ := List.cons.inj rest
      exact abandons
  | _ :: _ :: _, split => simp at split

/-- A launch that could neither be recorded nor undone keeps running unseen,
and the next launch starts beside it. -/
theorem two_units_after_lost_launch :
    ¬ (∀ steps, Exclusive (bridge.run steps)) := by
  intro exclusive
  have running : (bridge.run
      [lostLaunch, .request (launchOf "b") []]).running =
      {applicationUnitName "a", applicationUnitName "b"} := by
    decide
  have same := (exclusive [lostLaunch, .request (launchOf "b") []]).single
    (applicationUnitName "a") (by rw [running]; decide)
    (applicationUnitName "b") (by rw [running]; decide)
  exact absurd same (by decide)

end Bridge
end Hearthdeck
