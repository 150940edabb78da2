import Hearthdeck.Foundation.Machine
import Hearthdeck.Foundation.Table
import Hearthdeck.Frontend.Library
import Mathlib.Data.Finset.Basic

/-!
# Icons drawn off the screen

An icon that takes work is asked for once: the view puts its key into a set
and a job for it into a channel, and draws something else meanwhile.  The
worker takes every job that waits, resolves them together, and hands the
handles to the cache, which takes the keys out of the set.  The cache drops
what has not been drawn for longest.

What a path holds and what an icon looks like comes from outside the program.
-/

namespace Hearthdeck
namespace Frontend

open Foundation

/-- `Orientation`: how a surface wants its artwork. -/
inductive Orientation
  | asIs
  | portrait
  deriving DecidableEq, Repr

/-- `RasterIconKey`. -/
structure RasterIconKey where
  source : IconSource
  size : Nat
  portrait : Bool
  deriving DecidableEq, Repr

/-- `RASTER_ICON_CACHE_CAP`. -/
def rasterIconCacheCap : Nat := 256

/-- `RasterIcons`. -/
structure RasterIcons (Handle : Type) where
  /-- Each handle with the tick it was last drawn at. -/
  resolved : Table RasterIconKey (Handle × Nat)
  tick : Nat
  /-- The keys a view asked for. -/
  queued : Finset RasterIconKey

namespace RasterIcons

variable {Handle : Type}

def empty : RasterIcons Handle where
  resolved := ∅
  tick := 0
  queued := ∅

/-- `get`: the handle of a key, marked as just drawn. -/
def get
    (icons : RasterIcons Handle)
    (key : RasterIconKey) : RasterIcons Handle × Option Handle :=
  let tick := icons.tick + 1
  match icons.resolved.lookup key with
  | some found =>
      ({ icons with
          tick := tick
          resolved := icons.resolved.insert key (found.1, tick) },
        some found.1)
  | none => ({ icons with tick := tick }, none)

/-- The key that has not been drawn for longest. -/
def oldest (icons : RasterIcons Handle) : Option RasterIconKey :=
  (icons.resolved.orderBy fun _ drawn => drawn.2).head?.map Sigma.fst

/-- The cache with room for another handle. -/
def withRoom
    (icons : RasterIcons Handle) : Table RasterIconKey (Handle × Nat) :=
  if rasterIconCacheCap ≤ icons.resolved.entries.length then
    match icons.oldest with
    | some key => icons.resolved.erase key
    | none => icons.resolved
  else
    icons.resolved

/-- `insert`. -/
def insert
    (icons : RasterIcons Handle)
    (key : RasterIconKey)
    (handle : Handle) : RasterIcons Handle where
  resolved := icons.withRoom.insert key (handle, icons.tick + 1)
  tick := icons.tick + 1
  queued := icons.queued.erase key

/-! ### The bound of the cache -/

/-- The number of handles in the cache. -/
def size (icons : RasterIcons Handle) : Nat :=
  icons.resolved.entries.length

theorem length_insert_le
    (table : Table RasterIconKey (Handle × Nat))
    (key : RasterIconKey)
    (drawn : Handle × Nat) :
    (table.insert key drawn).entries.length ≤ table.entries.length + 1 := by
  have counted := Table.count_insert_le (fun _ _ => true) table key drawn
  unfold Table.count at counted
  rw [List.countP_true] at counted
  exact counted

theorem length_erase_of_lookup
    {table : Table RasterIconKey (Handle × Nat)}
    {key : RasterIconKey}
    {drawn : Handle × Nat}
    (found : table.lookup key = some drawn) :
    (table.erase key).entries.length + 1 = table.entries.length := by
  have counted := Table.count_erase_of_lookup_eq_some (fun _ _ => true) table
    key drawn found
  unfold Table.count at counted
  rw [List.countP_true] at counted
  exact counted

/-- A cache with entries has an oldest one. -/
theorem oldest_of_size_pos
    {icons : RasterIcons Handle}
    (some_ : 0 < icons.size) :
    ∃ key drawn, icons.oldest = some key ∧
      icons.resolved.lookup key = some drawn := by
  have length := (Table.orderBy_perm
    (fun (_ : RasterIconKey) (drawn : Handle × Nat) => drawn.2)
    icons.resolved).length_eq
  unfold oldest
  cases rows : icons.resolved.orderBy fun _ drawn => drawn.2 with
  | nil =>
      rw [rows] at length
      unfold size at some_
      rw [← length] at some_
      exact absurd some_ (Nat.lt_irrefl 0)
  | cons row rest =>
      refine ⟨row.1, row.2, rfl, ?_⟩
      apply AList.mem_lookup_iff.mpr
      apply (Table.orderBy_perm
        (fun (_ : RasterIconKey) (drawn : Handle × Nat) => drawn.2)
        icons.resolved).mem_iff.mp
      rw [rows]
      exact List.mem_cons_self

theorem length_withRoom
    {icons : RasterIcons Handle}
    (bounded : icons.size ≤ rasterIconCacheCap) :
    icons.withRoom.entries.length + 1 ≤ rasterIconCacheCap := by
  unfold withRoom
  split
  case isFalse roomy =>
      exact Nat.lt_of_not_le roomy
  case isTrue full =>
      obtain ⟨key, drawn, first, found⟩ := oldest_of_size_pos
        (Nat.lt_of_lt_of_le (by decide) full)
      rw [first]
      have erased := length_erase_of_lookup found
      unfold size at bounded
      dsimp only
      omega

theorem size_insert
    {icons : RasterIcons Handle}
    (bounded : icons.size ≤ rasterIconCacheCap)
    (key : RasterIconKey)
    (handle : Handle) :
    (icons.insert key handle).size ≤ rasterIconCacheCap :=
  Nat.le_trans (length_insert_le _ _ _) (length_withRoom bounded)

theorem size_get
    {icons : RasterIcons Handle}
    (bounded : icons.size ≤ rasterIconCacheCap)
    (key : RasterIconKey) :
    (icons.get key).1.size ≤ rasterIconCacheCap := by
  unfold get
  cases found : icons.resolved.lookup key with
  | none => exact bounded
  | some drawn =>
      have erased := length_erase_of_lookup found
      unfold size at bounded ⊢
      change (AList.insert key _ icons.resolved).entries.length ≤ _
      rw [AList.entries_insert]
      change (icons.resolved.erase key).entries.length + 1 ≤ _
      omega

@[simp] theorem queued_get
    (icons : RasterIcons Handle)
    (key : RasterIconKey) :
    (icons.get key).1.queued = icons.queued := by
  unfold get
  cases icons.resolved.lookup key with
  | none => rfl
  | some drawn => rfl

theorem get_of_lookup_eq_none
    {icons : RasterIcons Handle}
    {key : RasterIconKey}
    (missing : icons.resolved.lookup key = none) :
    icons.get key = ({ icons with tick := icons.tick + 1 }, none) := by
  unfold get
  rw [missing]

/-! ### A batch that is resolved -/

variable (resolve : RasterIconKey → Handle)

/-- The handles of a batch go to the cache. -/
def insertAll
    (icons : RasterIcons Handle)
    (keys : List RasterIconKey) : RasterIcons Handle :=
  keys.foldl (fun icons key => icons.insert key (resolve key)) icons

theorem size_insertAll
    {icons : RasterIcons Handle}
    (bounded : icons.size ≤ rasterIconCacheCap)
    (keys : List RasterIconKey) :
    (icons.insertAll resolve keys).size ≤ rasterIconCacheCap := by
  induction keys generalizing icons with
  | nil => exact bounded
  | cons key keys inductionHypothesis =>
      exact inductionHypothesis (size_insert bounded key (resolve key))

/-- The keys of the batch leave the set, and only they. -/
theorem mem_queued_insertAll
    (icons : RasterIcons Handle)
    (keys : List RasterIconKey)
    (key : RasterIconKey) :
    key ∈ (icons.insertAll resolve keys).queued ↔
      key ∈ icons.queued ∧ key ∉ keys := by
  induction keys generalizing icons with
  | nil => simp [insertAll]
  | cons first keys inductionHypothesis =>
      change key ∈ ((icons.insert first (resolve first)).insertAll resolve
        keys).queued ↔ _
      rw [inductionHypothesis]
      change key ∈ icons.queued.erase first ∧ _ ↔ _
      rw [Finset.mem_erase, List.mem_cons, not_or]
      constructor
      · rintro ⟨⟨other, member⟩, absent⟩
        exact ⟨member, other, absent⟩
      · rintro ⟨member, other, absent⟩
        exact ⟨⟨other, member⟩, absent⟩

end RasterIcons

/-- What a view draws for an entry. -/
inductive DrawnIcon (Handle : Type)
  | picture (path : String)
  | resolved (handle : Handle)
  | generic
  deriving DecidableEq, Repr

/-- The cache, the jobs in the channel, and the batch being resolved. -/
structure IconWorker (Handle : Type) where
  icons : RasterIcons Handle
  channel : List RasterIconKey
  batch : Option (List RasterIconKey)

/-- What can happen. -/
inductive IconStep
  /-- A view draws an entry. -/
  | draw (source : IconSource) (size : Nat) (orientation : Orientation)
  /-- The worker takes the jobs that wait. -/
  | take
  /-- The batch is resolved. -/
  | resolved
  /-- The batch panics or is cancelled. -/
  | failed
  deriving DecidableEq, Repr

namespace IconWorker

variable {Handle : Type}

def start : IconWorker Handle where
  icons := .empty
  channel := []
  batch := none

/-- The jobs that are not done. -/
def jobs (worker : IconWorker Handle) : List RasterIconKey :=
  worker.channel ++ worker.batch.getD []

section Drawing

variable (isSvg : String → Bool) (resolve : RasterIconKey → Handle)

/-- The untouched picture of an entry, if it has one. -/
def picture (source : IconSource) : Option String :=
  match source with
  | .path path => if isSvg path then none else some path
  | .name _ => none

/-- The key an entry is drawn under, unless its picture is drawn as it is. -/
def keyOf
    (source : IconSource)
    (size : Nat)
    (orientation : Orientation) : Option RasterIconKey :=
  if (picture isSvg source).isSome && orientation = .asIs then
    none
  else
    some ⟨source, size, orientation = .portrait⟩

/-- Ask for a key, unless it was asked for. -/
def request
    (worker : IconWorker Handle)
    (key : RasterIconKey) : IconWorker Handle :=
  if key ∈ worker.icons.queued then
    worker
  else
    { worker with
      icons := { worker.icons with
        queued := Insert.insert key worker.icons.queued }
      channel := worker.channel ++ [key] }

/-- `entry_icon_handle`. -/
def entryIconHandle
    (worker : IconWorker Handle)
    (source : IconSource)
    (size : Nat)
    (orientation : Orientation) : IconWorker Handle × DrawnIcon Handle :=
  let meanwhile : DrawnIcon Handle :=
    match picture isSvg source with
    | some path => .picture path
    | none => .generic
  match keyOf isSvg source size orientation with
  | none => (worker, meanwhile)
  | some key =>
      let looked := worker.icons.get key
      let ticked := { worker with icons := looked.1 }
      match looked.2 with
      | some handle => (ticked, .resolved handle)
      | none => (ticked.request key, meanwhile)

/-- The worker takes a first job, and the others with it. -/
def take (worker : IconWorker Handle) : IconWorker Handle :=
  if worker.batch.isNone && !worker.channel.isEmpty then
    { worker with
      channel := []
      batch := some worker.channel }
  else
    worker

/-- The batch is resolved, and its handles go to the cache. -/
def deliver (worker : IconWorker Handle) : IconWorker Handle :=
  match worker.batch with
  | none => worker
  | some keys =>
      { worker with
        icons := worker.icons.insertAll resolve keys
        batch := none }

/-- The batch fails, and the worker goes on with the next one. -/
def fail (worker : IconWorker Handle) : IconWorker Handle :=
  { worker with batch := none }

def step
    (worker : IconWorker Handle) :
    IconStep → IconWorker Handle × List (DrawnIcon Handle)
  | .draw source size orientation =>
      let drawn := worker.entryIconHandle isSvg source size orientation
      (drawn.1, [drawn.2])
  | .take => (worker.take, [])
  | .resolved => (worker.deliver resolve, [])
  | .failed => (worker.fail, [])

/-- The views and the worker. -/
def machine : Machine (IconWorker Handle) IconStep (DrawnIcon Handle) where
  start := start
  step := step isSvg resolve

end Drawing

/-- A batch fails. -/
def BatchFails (worker : IconWorker Handle) (step : IconStep) : Prop :=
  step = .failed ∧ worker.batch.isSome = true

/-- A key is in the set exactly when there is a job for it. -/
def Exact (worker : IconWorker Handle) : Prop :=
  ∀ key, key ∈ worker.icons.queued ↔ key ∈ worker.jobs

/-- A key that is neither resolved nor being resolved is asked for by the next
view that draws it. -/
def AsksAgain (isSvg : String → Bool) (worker : IconWorker Handle) : Prop :=
  ∀ source size orientation key,
    keyOf isSvg source size orientation = some key →
    worker.icons.resolved.lookup key = none → key ∉ worker.jobs →
    key ∈ (worker.entryIconHandle isSvg source size orientation).1.channel

/-! ## What always holds -/

/-- No key has two jobs, every job is in the set, no batch is empty, and the
cache is bounded. -/
structure Sound (worker : IconWorker Handle) : Prop where
  nodup : worker.jobs.Nodup
  queued : ∀ key ∈ worker.jobs, key ∈ worker.icons.queued
  taken : worker.batch ≠ some []
  bounded : worker.icons.size ≤ rasterIconCacheCap

/-- A key that is in the set without a job. -/
def Lost (worker : IconWorker Handle) (key : RasterIconKey) : Prop :=
  key ∈ worker.icons.queued ∧ key ∉ worker.jobs

theorem sound_start : (start : IconWorker Handle).Sound where
  nodup := List.nodup_nil
  queued := by
    intro key member
    cases member
  taken := by
    intro taken
    cases taken
  bounded := Nat.zero_le _

/-- The set is right exactly when no key is lost. -/
theorem Sound.exact_iff
    {worker : IconWorker Handle}
    (sound : worker.Sound) :
    worker.Exact ↔ ∀ key, ¬ worker.Lost key := by
  constructor
  · rintro exactly key ⟨member, absent⟩
    exact absent ((exactly key).mp member)
  · intro kept key
    refine ⟨?_, sound.queued key⟩
    intro member
    by_contra absent
    exact kept key ⟨member, absent⟩

/-! ### Asking -/

/-- A key that is asked for is new to the set and to the jobs. -/
theorem mem_jobs_request
    {worker : IconWorker Handle}
    {key : RasterIconKey}
    (fresh : key ∉ worker.icons.queued)
    (other : RasterIconKey) :
    other ∈ (worker.request key).jobs ↔
      other = key ∨ other ∈ worker.jobs := by
  unfold request jobs
  rw [if_neg fresh]
  simp only [List.mem_append, List.mem_singleton]
  tauto

theorem Sound.request
    {worker : IconWorker Handle}
    (sound : worker.Sound)
    (key : RasterIconKey) :
    (worker.request key).Sound := by
  by_cases asked : key ∈ worker.icons.queued
  · unfold IconWorker.request
    rw [if_pos asked]
    exact sound
  · have fresh : key ∉ worker.jobs := fun member =>
      asked (sound.queued key member)
    have appended : (worker.request key).jobs.Perm (key :: worker.jobs) := by
      unfold IconWorker.request jobs
      rw [if_neg asked]
      dsimp only
      rw [List.append_assoc]
      exact List.perm_middle
    refine ⟨?_, ?_, ?_, ?_⟩
    · exact appended.nodup_iff.mpr (List.nodup_cons.mpr ⟨fresh, sound.nodup⟩)
    · intro other member
      rw [mem_jobs_request asked] at member
      unfold IconWorker.request
      rw [if_neg asked]
      rcases member with here | earlier
      · exact Finset.mem_insert.mpr (Or.inl here)
      · exact Finset.mem_insert_of_mem (sound.queued other earlier)
    · unfold IconWorker.request
      rw [if_neg asked]
      exact sound.taken
    · unfold IconWorker.request
      rw [if_neg asked]
      exact sound.bounded

theorem lost_request
    (worker : IconWorker Handle)
    (key other : RasterIconKey) :
    (worker.request key).Lost other ↔ worker.Lost other := by
  by_cases asked : key ∈ worker.icons.queued
  · unfold request
    rw [if_pos asked]
  · have set : other ∈ (worker.request key).icons.queued ↔
        other = key ∨ other ∈ worker.icons.queued := by
      unfold request
      rw [if_neg asked]
      exact Finset.mem_insert
    unfold Lost
    rw [set, mem_jobs_request asked]
    constructor
    · rintro ⟨here | member, absent⟩
      · exact absurd (Or.inl here) absent
      · exact ⟨member, fun job => absent (Or.inr job)⟩
    · rintro ⟨member, absent⟩
      refine ⟨Or.inr member, ?_⟩
      rintro (here | job)
      · rw [here] at member
        exact asked member
      · exact absent job

/-- Looking a key up leaves the set and the jobs alone. -/
theorem Sound.looked
    {worker : IconWorker Handle}
    (sound : worker.Sound)
    (key : RasterIconKey) :
    { worker with icons := (worker.icons.get key).1 }.Sound where
  nodup := sound.nodup
  queued := by
    intro other member
    change other ∈ (worker.icons.get key).1.queued
    rw [RasterIcons.queued_get]
    exact sound.queued other member
  taken := sound.taken
  bounded := RasterIcons.size_get sound.bounded key

theorem lost_looked
    (worker : IconWorker Handle)
    (key other : RasterIconKey) :
    { worker with icons := (worker.icons.get key).1 }.Lost other ↔
      worker.Lost other := by
  unfold Lost
  rw [RasterIcons.queued_get]
  rfl

variable (isSvg : String → Bool) (resolve : RasterIconKey → Handle)

/-- What drawing an entry does: nothing, or a look and perhaps a request. -/
theorem entryIconHandle_cases
    (worker : IconWorker Handle)
    (source : IconSource)
    (size : Nat)
    (orientation : Orientation) :
    (worker.entryIconHandle isSvg source size orientation).1 = worker ∨
      ∃ key,
        (worker.entryIconHandle isSvg source size orientation).1 =
            { worker with icons := (worker.icons.get key).1 } ∨
          (worker.entryIconHandle isSvg source size orientation).1 =
            { worker with icons := (worker.icons.get key).1 }.request key := by
  unfold entryIconHandle
  cases keyOf isSvg source size orientation with
  | none => exact Or.inl rfl
  | some key =>
      refine Or.inr ⟨key, ?_⟩
      dsimp only
      cases (worker.icons.get key).2 with
      | some handle => exact Or.inl rfl
      | none => exact Or.inr rfl

theorem Sound.entryIconHandle
    {worker : IconWorker Handle}
    (sound : worker.Sound)
    (source : IconSource)
    (size : Nat)
    (orientation : Orientation) :
    (worker.entryIconHandle isSvg source size orientation).1.Sound := by
  rcases entryIconHandle_cases isSvg worker source size orientation with
    same | ⟨key, hit | miss⟩
  · rw [same]
    exact sound
  · rw [hit]
    exact sound.looked key
  · rw [miss]
    exact (sound.looked key).request key

theorem lost_entryIconHandle
    (worker : IconWorker Handle)
    (source : IconSource)
    (size : Nat)
    (orientation : Orientation)
    (other : RasterIconKey) :
    (worker.entryIconHandle isSvg source size orientation).1.Lost other ↔
      worker.Lost other := by
  rcases entryIconHandle_cases isSvg worker source size orientation with
    same | ⟨key, hit | miss⟩
  · rw [same]
  · rw [hit]
    exact lost_looked worker key other
  · rw [miss]
    exact (lost_request _ key other).trans (lost_looked worker key other)

/-! ### Working -/

/-- Taking a batch moves jobs, and keeps all of them. -/
theorem jobs_take
    (worker : IconWorker Handle) :
    worker.take.jobs = worker.jobs := by
  unfold take
  split
  case isFalse waits => rfl
  case isTrue takes =>
      have idle := (Bool.and_eq_true_iff.mp takes).1
      unfold jobs
      rw [Option.isNone_iff_eq_none.mp idle]
      exact (List.append_nil worker.channel).symm

theorem icons_take
    (worker : IconWorker Handle) :
    worker.take.icons = worker.icons := by
  unfold take
  split
  case isTrue takes => rfl
  case isFalse waits => rfl

theorem Sound.take
    {worker : IconWorker Handle}
    (sound : worker.Sound) :
    worker.take.Sound := by
  refine ⟨?_, ?_, ?_, ?_⟩
  · rw [jobs_take]
    exact sound.nodup
  · rw [jobs_take, icons_take]
    exact sound.queued
  · unfold IconWorker.take
    split
    case isFalse waits => exact sound.taken
    case isTrue takes =>
        intro nothing
        have some_ := (Bool.and_eq_true_iff.mp takes).2
        rw [Option.some.inj nothing] at some_
        cases some_
  · rw [icons_take]
    exact sound.bounded

theorem lost_take
    (worker : IconWorker Handle)
    (key : RasterIconKey) :
    worker.take.Lost key ↔ worker.Lost key := by
  unfold Lost
  rw [jobs_take, icons_take]

/-- A resolved batch leaves the jobs, and its keys leave the set. -/
theorem Sound.deliver
    {worker : IconWorker Handle}
    (sound : worker.Sound) :
    (worker.deliver resolve).Sound := by
  unfold IconWorker.deliver
  cases taken : worker.batch with
  | none => exact sound
  | some keys =>
      have nodup := sound.nodup
      have queued := sound.queued
      unfold jobs at nodup queued
      rw [taken] at nodup queued
      obtain ⟨waiting, -, apart⟩ := List.nodup_append.mp nodup
      refine ⟨?_, ?_, ?_, ?_⟩
      · unfold jobs
        dsimp only
        rw [Option.getD_none, List.append_nil]
        exact waiting
      · intro key member
        unfold jobs at member
        dsimp only at member
        rw [Option.getD_none, List.append_nil] at member
        apply (RasterIcons.mem_queued_insertAll resolve _ _ _).mpr
        refine ⟨queued key (List.mem_append_left _ member), ?_⟩
        intro inBatch
        exact apart key member key inBatch rfl
      · intro nothing
        cases nothing
      · exact RasterIcons.size_insertAll resolve sound.bounded keys

theorem lost_deliver
    (worker : IconWorker Handle)
    (key : RasterIconKey) :
    (worker.deliver resolve).Lost key ↔ worker.Lost key := by
  unfold deliver
  cases taken : worker.batch with
  | none => exact Iff.rfl
  | some keys =>
      unfold Lost jobs
      dsimp only
      rw [RasterIcons.mem_queued_insertAll, taken, Option.getD_none,
        List.append_nil, Option.getD_some, List.mem_append, not_or]
      constructor
      · rintro ⟨⟨member, undone⟩, absent⟩
        exact ⟨member, absent, undone⟩
      · rintro ⟨member, absent, undone⟩
        exact ⟨⟨member, undone⟩, absent⟩

theorem Sound.fail
    {worker : IconWorker Handle}
    (sound : worker.Sound) :
    worker.fail.Sound := by
  have fewer : worker.fail.jobs.Sublist worker.jobs := by
    unfold IconWorker.fail jobs
    dsimp only
    rw [Option.getD_none, List.append_nil]
    exact List.sublist_append_left _ _
  refine ⟨sound.nodup.sublist fewer, ?_, ?_, sound.bounded⟩
  · intro key member
    exact sound.queued key (fewer.subset member)
  · intro nothing
    cases nothing

/-- What was lost stays lost. -/
theorem Lost.fail
    {worker : IconWorker Handle}
    {key : RasterIconKey}
    (lost : worker.Lost key) :
    worker.fail.Lost key := by
  refine ⟨lost.1, ?_⟩
  intro job
  apply lost.2
  unfold IconWorker.fail jobs at job
  dsimp only at job
  rw [Option.getD_none, List.append_nil] at job
  exact List.mem_append_left _ job

/-- A batch that fails loses its keys. -/
theorem Sound.lost_of_fails
    {worker : IconWorker Handle}
    (sound : worker.Sound)
    (running : worker.batch.isSome = true) :
    ∃ key, worker.fail.Lost key := by
  obtain ⟨keys, taken⟩ := Option.isSome_iff_exists.mp running
  cases keys with
  | nil => exact absurd taken sound.taken
  | cons key keys =>
      have nodup := sound.nodup
      have queued := sound.queued
      unfold jobs at nodup queued
      rw [taken] at nodup queued
      obtain ⟨-, -, apart⟩ := List.nodup_append.mp nodup
      refine ⟨key, queued key (List.mem_append_right _ List.mem_cons_self), ?_⟩
      intro job
      unfold IconWorker.fail jobs at job
      dsimp only at job
      rw [Option.getD_none, List.append_nil] at job
      exact apart key job key List.mem_cons_self rfl

/-! ## Every run -/

theorem sound_run
    (steps : List IconStep) :
    ((machine isSvg resolve).run steps).Sound := by
  apply (machine isSvg resolve).run_induction
  · exact sound_start
  · intro worker step sound
    cases step with
    | draw source size orientation =>
        exact sound.entryIconHandle isSvg source size orientation
    | take => exact sound.take
    | resolved => exact sound.deliver resolve
    | failed => exact sound.fail

/-- A step loses nothing exactly when nothing was lost and no batch fails. -/
theorem Sound.exact_step
    {worker : IconWorker Handle}
    (sound : worker.Sound)
    (step : IconStep) :
    (∀ key, ¬ ((machine isSvg resolve).step worker step).1.Lost key) ↔
      (∀ key, ¬ worker.Lost key) ∧ ¬ worker.BatchFails step := by
  cases step with
  | draw source size orientation =>
      have quiet : ¬ worker.BatchFails (.draw source size orientation) := by
        rintro ⟨fails, -⟩
        cases fails
      rw [and_iff_left quiet]
      exact forall_congr' fun key => not_congr
        (lost_entryIconHandle isSvg worker source size orientation key)
  | take =>
      have quiet : ¬ worker.BatchFails .take := by
        rintro ⟨fails, -⟩
        cases fails
      rw [and_iff_left quiet]
      exact forall_congr' fun key => not_congr (lost_take worker key)
  | resolved =>
      have quiet : ¬ worker.BatchFails .resolved := by
        rintro ⟨fails, -⟩
        cases fails
      rw [and_iff_left quiet]
      exact forall_congr' fun key => not_congr
        (lost_deliver resolve worker key)
  | failed =>
      change (∀ key, ¬ worker.fail.Lost key) ↔ _
      constructor
      · intro kept
        refine ⟨fun key lost => kept key lost.fail, ?_⟩
        rintro ⟨-, running⟩
        obtain ⟨key, lost⟩ := sound.lost_of_fails running
        exact kept key lost
      · rintro ⟨kept, quiet⟩ key lost
        have idle : worker.batch = none := by
          cases taken : worker.batch with
          | none => rfl
          | some keys => exact absurd ⟨rfl, by rw [taken]; rfl⟩ quiet
        apply kept key
        refine ⟨lost.1, ?_⟩
        intro job
        apply lost.2
        unfold jobs at job
        rw [idle] at job
        exact job

/-- A missing key without a job is asked for, once the set is right. -/
theorem Exact.asksAgain
    {worker : IconWorker Handle}
    (exactly : worker.Exact) :
    worker.AsksAgain isSvg := by
  intro source size orientation key drawn missing idle
  have fresh : key ∉ worker.icons.queued := fun member =>
    idle ((exactly key).mp member)
  unfold entryIconHandle
  rw [drawn]
  dsimp only
  rw [RasterIcons.get_of_lookup_eq_none missing]
  dsimp only
  unfold request
  rw [if_neg fresh]
  exact List.mem_append_right _ (List.mem_singleton.mpr rfl)

/-- In every run no key has two jobs and the cache is bounded.  The set of
asked keys is that of the jobs, so that a key which is neither resolved nor
being resolved is asked for again, exactly in the runs without a failed
batch. -/
theorem queued_iff_outstanding
    (steps : List IconStep) :
    let worker := (machine isSvg resolve).run steps
    worker.jobs.Nodup ∧
      worker.icons.resolved.entries.length ≤ rasterIconCacheCap ∧
      (worker.Exact ∧ worker.AsksAgain isSvg ↔
        (machine isSvg resolve).Along
          (fun worker step => ¬ worker.BatchFails step) steps) := by
  intro worker
  have sound := sound_run isSvg resolve steps
  refine ⟨sound.nodup, sound.bounded, ?_⟩
  have lasting := (machine isSvg resolve).run_iff_along
    (fun worker step => ¬ worker.BatchFails step)
    (fun worker => ∀ key, ¬ worker.Lost key)
    (by
      rintro key ⟨member, -⟩
      cases member)
    (fun earlier step =>
      (sound_run isSvg resolve earlier).exact_step isSvg resolve step)
    steps
  rw [← lasting, ← sound.exact_iff]
  exact ⟨fun both => both.1, fun exactly => ⟨exactly, exactly.asksAgain isSvg⟩⟩

/-- Two icons are asked for and resolved together; one panics, and both are
drawn again. -/
def panicked : List IconStep :=
  [.draw (.name "firefox") 96 .portrait,
    .draw (.name "broken") 96 .portrait,
    .take,
    .failed,
    .draw (.name "firefox") 96 .portrait,
    .draw (.name "broken") 96 .portrait]

/-- Neither icon is resolved, none has a job, and none was asked for again. -/
theorem failed_batch_is_never_asked_for_again :
    let worker := (machine (fun _ => false) fun key => key).run panicked
    worker.jobs = [] ∧ worker.icons.resolved.entries = [] ∧
      worker.icons.queued =
        {⟨.name "firefox", 96, true⟩, ⟨.name "broken", 96, true⟩} := by
  refine ⟨rfl, rfl, ?_⟩
  decide

end IconWorker
end Frontend
end Hearthdeck
