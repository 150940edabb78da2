import Hearthdeck.Ai.Scan
import Hearthdeck.Daemon.Profiles

/-!
# Detecting which applications suit the couch

A pass asks a model about the applications whose verdict was not made from
their present profile under the present model, and stores what it is told.
A pass after it has nothing to ask, unless something has changed.

What the runner decides comes from a categorizer that names the application it
was asked about, so a runner is one whose report is about the applications it
was given.
-/

namespace Hearthdeck
namespace Daemon

open Foundation
open Ai (AppProfile)

/-! ## The runner -/

/-- A runner: its report is about the applications it was asked about. -/
structure Runner where
  run : List AppProfile → Except String ScanReport
  about : ∀ apps report, run apps = .ok report →
    ∀ assignment ∈ report.assignments,
      assignment.appId ∈ apps.map AppProfile.id

/-- The runner that lets a categorizer scan. -/
def scanRunner
    (categorizer : Ai.Categorizer)
    (rails : List Ai.AppCategorization → List OwnedCollection) : Runner where
  run apps :=
    match Ai.scan categorizer apps with
    | .error error => .error error
    | .ok assignments =>
        .ok
          { categorizer := categorizer.id
            assignments := assignments.map fun assignment =>
              ⟨assignment.appId, assignment.traits.couch⟩
            rails := rails assignments }
  about apps report ran := by
    split at ran
    case h_1 => cases ran
    case h_2 assignments scanned =>
        cases ran
        intro assignment member
        obtain ⟨decided, isDecided, rfl⟩ := List.mem_map.mp member
        unfold Ai.scan at scanned
        dsimp only at scanned
        split at scanned
        · cases scanned
        · cases scanned
          exact Ai.appId_mem_of_decide isDecided

/-! ## One pass -/

/-- `TraitRun`. -/
inductive TraitRun
  | classified (count : Nat)
  | upToDate
  | busy
  deriving DecidableEq

/-- Why a pass failed. -/
inductive PassError
  | store (cause : StoreError)
  | runner (message : String)

/-- What a pass finds around it. -/
structure Pass where
  engine : ScanEngine
  /-- No checkpoint is on the disk. -/
  modelAbsent : Bool
  /-- The slot is taken. -/
  busy : Bool
  /-- The feature is turned off while the model runs. -/
  discarded : Bool
  /-- The faults of the coming statements. -/
  faults : List Bool
  now : Instant

/-- How a pass ends, the verdicts it leaves, and what it asked the runner. -/
structure PassResult where
  outcome : Except PassError TraitRun
  traits : Traits
  asked : Option (List AppProfile)

section Pass

/- `traits::input_hash`. -/
variable (hash : AppProfile → String)

/- How a text is read as JSON. -/
variable (read : String → Option Json)

/- The best enrichment of a launch id. -/
variable (enrichment : String → Option Enrichment)

/- The table of the items. -/
variable (items : LibraryItems)

/-- What the rows of the catalog are joined with. -/
def joinedWith (traits : Traits) : Joined where
  enrichment := enrichment
  form id := (traits.lookup (id, formFactor)).map TraitRow.value

/-- The applications of `classify_pending`. -/
def pendingApps
    (served : List ServedItem)
    (current : String → Option String) : List AppProfile :=
  (served.filter fun item =>
    ((applicationHashes hash served).lookup item.id).any fun inputHash =>
      current item.id != some inputHash).map profileFromItem

/-- The statements of `classify_pending` before the slot is asked for. -/
def readPending (model : String) :
    Query StoreError Traits (Hashes × List AppProfile) := do
  let served ← Query.select (.sql "") fun traits =>
    servedItems read (joinedWith enrichment traits) items
  let current ← Query.select (.sql "read the current form-factor verdicts")
    fun traits => traits.current model
  pure (applicationHashes hash served, pendingApps hash served current)

/-- `record_form_factors`. -/
def recordFormFactors
    (report : ScanReport)
    (hashes : Hashes)
    (now : Instant) : Query StoreError Traits PUnit :=
  if (verdicts report hashes).isEmpty then
    pure ⟨⟩
  else do
    Traits.writeFormFactors (stamp report.categorizer) now
      (verdicts report hashes)
    Query.execute (.sql "prune verdicts of removed items") fun traits =>
      .ok (Traits.prune items.keys traits)

/-- `classify_pending`. -/
def classifyPending
    (runner : Runner)
    (pass : Pass)
    (traits : Traits) : PassResult :=
  if pass.engine ≠ .laya ∨ pass.modelAbsent then
    ⟨.ok .upToDate, traits, none⟩
  else
    match (readPending hash read enrichment items
        (stamp pass.engine.asStr)).run ⟨traits, pass.faults⟩ with
    | .error error next => ⟨.error (.store error), next.store, none⟩
    | .ok (hashes, apps) next =>
        if apps.isEmpty then
          ⟨.ok .upToDate, next.store, none⟩
        else if pass.busy then
          ⟨.ok .busy, next.store, none⟩
        else
          match runner.run apps with
          | .error message =>
              ⟨.error (.runner message), next.store, some apps⟩
          | .ok report =>
              if pass.discarded then
                ⟨.ok (.classified 0), next.store, some apps⟩
              else
                match (recordFormFactors items report hashes pass.now).run
                    next with
                | .error error last =>
                    ⟨.error (.store error), last.store, some apps⟩
                | .ok _ last =>
                    ⟨.ok (.classified apps.length), last.store, some apps⟩

/-! ## What is pending -/

/-- The profile of a row. -/
def profileOf (id : String) (row : LibraryItem) : AppProfile :=
  profileFromItem (servedItem read ⟨enrichment, fun _ => none⟩ id row)

/-- A row of the table is an application. -/
def Applies (id : String) (row : LibraryItem) : Prop :=
  items.lookup id = some row ∧
    servedKind row.sourceId row.kind = applicationKind

/-- An item has a verdict under a model, made from an input. -/
def Judged
    (traits : Traits)
    (model id inputHash : String) : Prop :=
  ∃ row, traits.lookup (id, formFactor) = some row ∧
    row.model = model ∧ row.inputHash = inputHash

theorem current_eq_some_iff
    {traits : Traits}
    {model id inputHash : String} :
    traits.current model id = some inputHash ↔
      Judged traits model id inputHash := by
  unfold Traits.current Judged
  rw [Option.map_eq_some_iff]
  constructor
  · rintro ⟨row, found, same⟩
    obtain ⟨found, isModel⟩ := Option.filter_eq_some_iff.mp found
    exact ⟨row, found, eq_of_beq isModel, same⟩
  · rintro ⟨row, found, rfl, same⟩
    exact ⟨row, Option.filter_eq_some_iff.mpr ⟨found, beq_self_eq_true _⟩,
      same⟩

theorem profileFromItem_servedItem
    (traits : Traits)
    (id : String)
    (row : LibraryItem) :
    profileFromItem (servedItem read (joinedWith enrichment traits) id row) =
      profileOf read enrichment id row :=
  profileFromItem_formless read _ id row

theorem id_profileOf
    (id : String)
    (row : LibraryItem) :
    (profileOf read enrichment id row).id = id := by
  unfold profileOf profileFromItem
  cases (servedItem read ⟨enrichment, fun _ => none⟩ id row).launchId <;> rfl

theorem mem_servedItems
    {joined : Joined}
    {item : ServedItem} :
    item ∈ servedItems read joined items ↔
      ∃ id row, items.lookup id = some row ∧
        item = servedItem read joined id row := by
  unfold servedItems
  rw [List.mem_map]
  constructor
  · rintro ⟨⟨id, row⟩, member, rfl⟩
    rw [List.mem_insertionSort] at member
    exact ⟨id, row, AList.mem_lookup_iff.mpr member, rfl⟩
  · rintro ⟨id, row, found, rfl⟩
    refine ⟨⟨id, row⟩, ?_, rfl⟩
    rw [List.mem_insertionSort]
    exact AList.mem_lookup_iff.mp found

theorem nodup_servedItems (joined : Joined) :
    ((servedItems read joined items).map ServedItem.id).Nodup := by
  unfold servedItems
  rw [List.map_map]
  have distinct : (items.entries.map Sigma.fst).Nodup := items.nodupKeys
  exact ((List.perm_insertionSort _ items.entries).map
    Sigma.fst).nodup_iff.mpr distinct

/-- In a list of pairs with different keys, a key has the value it stands
with. -/
theorem lookup_eq_some_iff_mem
    {Key Value : Type}
    [BEq Key]
    [LawfulBEq Key]
    {entries : List (Key × Value)}
    (apart : (entries.map Prod.fst).Nodup)
    {key : Key}
    {value : Value} :
    entries.lookup key = some value ↔ (key, value) ∈ entries := by
  induction entries with
  | nil => simp
  | cons entry entries inductionHypothesis =>
      obtain ⟨first, stored⟩ := entry
      obtain ⟨fresh, others⟩ := List.nodup_cons.mp apart
      rw [List.lookup_cons, List.mem_cons, Prod.mk.injEq]
      by_cases same : key = first
      · subst same
        have absent : (key, value) ∉ entries := fun member =>
          fresh (List.mem_map.mpr ⟨_, member, rfl⟩)
        simp [absent, eq_comm]
      · rw [beq_false_of_ne same]
        simp [same, inductionHypothesis others]

theorem lookup_applicationHashes
    (traits : Traits)
    {id inputHash : String} :
    (applicationHashes hash
        (servedItems read (joinedWith enrichment traits) items)).lookup id =
        some inputHash ↔
      ∃ row, Applies items id row ∧
        inputHash = hash (profileOf read enrichment id row) := by
  have apart : ((applicationHashes hash (servedItems read
      (joinedWith enrichment traits) items)).map Prod.fst).Nodup := by
    unfold applicationHashes
    rw [List.map_map]
    exact (nodup_servedItems read items _).sublist
      (List.filter_sublist.map ServedItem.id)
  rw [lookup_eq_some_iff_mem apart]
  unfold applicationHashes Applies
  rw [List.mem_map]
  constructor
  · rintro ⟨item, member, same⟩
    obtain ⟨listed, applies⟩ := List.mem_filter.mp member
    obtain ⟨named, row, found, rfl⟩ := (mem_servedItems read items).mp listed
    cases same
    exact ⟨row, ⟨found, of_decide_eq_true applies⟩, congrArg hash
      (profileFromItem_servedItem read enrichment traits _ row)⟩
  · rintro ⟨row, ⟨found, applies⟩, rfl⟩
    refine ⟨servedItem read (joinedWith enrichment traits) id row,
      List.mem_filter.mpr ⟨(mem_servedItems read items).mpr
        ⟨id, row, found, rfl⟩, decide_eq_true applies⟩, ?_⟩
    rw [profileFromItem_servedItem]
    rfl

/-- What a pass asks about: the applications without a verdict that was made
from their present profile under the model. -/
theorem mem_pendingApps
    {traits : Traits}
    {model : String}
    {app : AppProfile} :
    app ∈ pendingApps hash
        (servedItems read (joinedWith enrichment traits) items)
        (traits.current model) ↔
      ∃ id row, Applies items id row ∧
        app = profileOf read enrichment id row ∧
        ¬ Judged traits model id (hash (profileOf read enrichment id row)) := by
  unfold pendingApps
  rw [List.mem_map]
  constructor
  · rintro ⟨item, member, rfl⟩
    obtain ⟨listed, unjudged⟩ := List.mem_filter.mp member
    obtain ⟨id, row, found, rfl⟩ := (mem_servedItems read items).mp listed
    obtain ⟨inputHash, hashed, different⟩ :=
      (Option.any_eq_true _ _).mp unjudged
    obtain ⟨other, applies, rfl⟩ :=
      (lookup_applicationHashes hash read enrichment items traits).mp hashed
    have same : other = row := Option.some.inj (applies.1.symm.trans found)
    subst same
    refine ⟨id, other, applies,
      profileFromItem_servedItem read enrichment traits id other, ?_⟩
    rw [← current_eq_some_iff]
    exact bne_iff_ne.mp different
  · rintro ⟨id, row, applies, rfl, unjudged⟩
    refine ⟨servedItem read (joinedWith enrichment traits) id row,
      List.mem_filter.mpr ⟨(mem_servedItems read items).mpr
        ⟨id, row, applies.1, rfl⟩, ?_⟩,
      profileFromItem_servedItem read enrichment traits id row⟩
    refine (Option.any_eq_true _ _).mpr
      ⟨_, (lookup_applicationHashes hash read enrichment items traits).mpr
        ⟨row, applies, rfl⟩, ?_⟩
    rw [← current_eq_some_iff] at unjudged
    exact bne_iff_ne.mpr unjudged

/-- No application is asked about twice. -/
theorem nodup_pendingApps
    (traits : Traits)
    (current : String → Option String) :
    ((pendingApps hash (servedItems read (joinedWith enrichment traits) items)
      current).map AppProfile.id).Nodup := by
  unfold pendingApps
  rw [List.map_map]
  have named : ∀ item : ServedItem, (profileFromItem item).id = item.id := by
    intro item
    unfold profileFromItem
    cases item.launchId <;> rfl
  have same : AppProfile.id ∘ profileFromItem = ServedItem.id :=
    funext named
  rw [same]
  exact (nodup_servedItems read items _).sublist
    (List.filter_sublist.map ServedItem.id)

/-! ## What is stored -/

theorem run_select
    {Value : Type}
    (report : SqlError → StoreError)
    (look : Traits → Value)
    (connection : Connection Traits) :
    (Query.select report look).run connection =
      if Query.Faulty 1 connection then
        .error (report .unavailable)
          ⟨connection.store, connection.faults.drop 1⟩
      else
        .ok (look connection.store)
          ⟨connection.store, connection.faults.drop 1⟩ := by
  unfold Query.select
  split
  case isTrue faulty => exact Query.run_statement_of_faulty _ _ _ faulty
  case isFalse calm => exact Query.run_statement_of_not_faulty _ _ _ calm

/-- The reading statements leave the verdicts alone. -/
theorem run_readPending
    (model : String)
    (connection : Connection Traits) :
    (∃ error next,
      (readPending hash read enrichment items model).run connection =
        .error error next ∧
      Query.Faulty 2 connection ∧ next.store = connection.store) ∨
    ¬ Query.Faulty 2 connection ∧
      (readPending hash read enrichment items model).run connection =
        .ok
          (applicationHashes hash (servedItems read
              (joinedWith enrichment connection.store) items),
            pendingApps hash (servedItems read
              (joinedWith enrichment connection.store) items)
              (connection.store.current model))
          ⟨connection.store, connection.faults.drop 2⟩ := by
  have parts := Query.faulty_add 1 1 connection
  unfold readPending
  rw [EStateM.run_bind, run_select]
  by_cases faulty : Query.Faulty 1 connection
  · rw [if_pos faulty]
    exact .inl ⟨_, _, rfl, parts.mpr (.inl faulty), rfl⟩
  · rw [if_neg faulty]
    dsimp only
    rw [EStateM.run_bind, run_select]
    by_cases later : Query.Faulty 1
        (⟨connection.store, connection.faults.drop 1⟩ : Connection Traits)
    · rw [if_pos later]
      exact .inl ⟨_, _, rfl, parts.mpr (.inr later), rfl⟩
    · rw [if_neg later]
      refine .inr ⟨fun either => ?_, ?_⟩
      · rcases parts.mp either with early | late
        · exact faulty early
        · exact later late
      · dsimp only
        rw [List.drop_drop]
        rfl

/-- The verdicts after a transaction that stores some. -/
def written
    (model : String)
    (now : Instant)
    (found : List FormFactorVerdict)
    (traits : Traits) : Traits :=
  found.foldl (Traits.write model now) traits

theorem lookup_written_of_forall_ne
    {model : String}
    {now : Instant}
    {found : List FormFactorVerdict}
    {traits : Traits}
    {key : String × String}
    (others : ∀ verdict ∈ found, key ≠ (verdict.itemId, formFactor)) :
    (written model now found traits).lookup key = traits.lookup key := by
  unfold written
  induction found generalizing traits with
  | nil => rfl
  | cons verdict found inductionHypothesis =>
      rw [List.foldl_cons, inductionHypothesis fun other member =>
        others other (List.mem_cons_of_mem _ member)]
      exact AList.lookup_insert_ne (others verdict List.mem_cons_self)

theorem lookup_written_of_mem
    {model : String}
    {now : Instant}
    {found : List FormFactorVerdict}
    {traits : Traits}
    {id : String}
    (member : ∃ verdict ∈ found, verdict.itemId = id) :
    ∃ verdict ∈ found, verdict.itemId = id ∧
      ∃ row, (written model now found traits).lookup (id, formFactor) =
          some row ∧
        row.model = model ∧ row.inputHash = verdict.inputHash := by
  unfold written
  induction found using List.reverseRecOn with
  | nil => simp at member
  | append_singleton found last inductionHypothesis =>
      rw [List.foldl_append]
      by_cases isLast : last.itemId = id
      · subst isLast
        exact ⟨last, List.mem_append_right _ (List.mem_singleton_self _), rfl,
          _, AList.lookup_insert _, rfl, rfl⟩
      · obtain ⟨verdict, among, named⟩ := member
        have earlier : ∃ verdict ∈ found, verdict.itemId = id := by
          rcases List.mem_append.mp among with before | here
          · exact ⟨verdict, before, named⟩
          · rw [List.mem_singleton.mp here] at named
            exact absurd named isLast
        obtain ⟨stored, isStored, same, row, looked, fields⟩ :=
          inductionHypothesis earlier
        refine ⟨stored, List.mem_append_left _ isStored, same, row, ?_, fields⟩
        rw [← looked]
        refine AList.lookup_insert_ne ?_
        intro keys
        exact isLast (congrArg Prod.fst keys).symm

/-- A transaction stores all of its verdicts or none. -/
theorem run_writeFormFactors
    (model : String)
    (now : Instant)
    (found : List FormFactorVerdict)
    (connection : Connection Traits) :
    (∃ error next,
      (Traits.writeFormFactors model now found).run connection =
        .error error next ∧ next.store = connection.store) ∨
    ∃ next,
      (Traits.writeFormFactors model now found).run connection =
        .ok ⟨⟩ next ∧
        next.store = written model now found connection.store := by
  have performs := Query.performs_forM
    (fun verdict : FormFactorVerdict =>
      StoreError.sql ("write the verdict for " ++ verdict.itemId)) found
    fun verdict traits => .ok (Traits.write model now traits verdict)
  by_cases faulty : Query.Faulty (found.length + 2) connection
  · left
    exact performs.run_transaction_of_error (.sql "begin verdict write")
      (.sql "commit verdict write") connection (.inl faulty)
  · right
    have changed : (found.foldlM (fun traits verdict =>
        (.ok (Traits.write model now traits verdict) :
          Except SqlError Traits)) connection.store) =
        .ok (written model now found connection.store) :=
      List.foldlM_pure
    have ran := performs.run_transaction_of_ok (.sql "begin verdict write")
      (.sql "commit verdict write") connection _ faulty changed
    exact ⟨_, ran, rfl⟩

/-- What is recorded of a report: nothing, all of its verdicts, or all of them
and no verdict of an item that is gone. -/
theorem run_recordFormFactors
    (report : ScanReport)
    (hashes : Hashes)
    (now : Instant)
    (connection : Connection Traits) :
    (∃ error next,
      (recordFormFactors items report hashes now).run connection =
        .error error next ∧
      (next.store = connection.store ∨
        next.store = written (stamp report.categorizer) now
          (verdicts report hashes) connection.store)) ∨
    ∃ next,
      (recordFormFactors items report hashes now).run connection =
        .ok ⟨⟩ next ∧
      (verdicts report hashes = [] ∧ next.store = connection.store ∨
        next.store = Traits.prune items.keys
          (written (stamp report.categorizer) now (verdicts report hashes)
            connection.store)) := by
  unfold recordFormFactors
  split
  case isTrue none =>
      exact .inr ⟨connection, rfl, .inl ⟨List.isEmpty_iff.mp none, rfl⟩⟩
  case isFalse some =>
      rw [EStateM.run_bind]
      rcases run_writeFormFactors (stamp report.categorizer) now
          (verdicts report hashes) connection with
        ⟨error, next, ran, kept⟩ | ⟨next, ran, stored⟩
      · rw [ran]
        exact .inl ⟨error, next, rfl, .inl kept⟩
      · rw [ran]
        dsimp only
        by_cases faulty : Query.Faulty 1 next
        · left
          refine ⟨_, _, Query.run_statement_of_faulty _ _ next faulty, .inr ?_⟩
          exact stored
        · right
          refine ⟨_, Query.run_statement_of_not_faulty _ _ next faulty,
            .inr ?_⟩
          rw [← stored]

theorem mem_verdicts
    {report : ScanReport}
    {hashes : Hashes}
    {verdict : FormFactorVerdict} :
    verdict ∈ verdicts report hashes ↔
      ∃ assignment ∈ report.assignments, ∃ probability inputHash,
        assignment.couch = some probability ∧
          hashes.lookup assignment.appId = some inputHash ∧
          verdict =
            { itemId := assignment.appId
              value := formFactorFor probability
              confidence := probability
              inputHash := inputHash } := by
  unfold verdicts
  rw [List.mem_filterMap]
  refine exists_congr fun assignment => and_congr_right fun _ => ?_
  constructor
  · intro made
    obtain ⟨probability, couch, made⟩ := Option.bind_eq_some_iff.mp made
    obtain ⟨inputHash, hashed, made⟩ := Option.bind_eq_some_iff.mp made
    cases made
    exact ⟨probability, inputHash, couch, hashed, rfl⟩
  · rintro ⟨probability, inputHash, couch, hashed, rfl⟩
    rw [couch]
    change (hashes.lookup assignment.appId).bind _ = _
    rw [hashed]
    rfl

/-! ## What a pass does -/

/-- The applications a pass would ask about. -/
def pendingOf (traits : Traits) (pass : Pass) : List AppProfile :=
  pendingApps hash (servedItems read (joinedWith enrichment traits) items)
    (traits.current (stamp pass.engine.asStr))

/-- The hashes a pass stores verdicts with. -/
def hashesOf (traits : Traits) : Hashes :=
  applicationHashes hash (servedItems read (joinedWith enrichment traits) items)

/-- A pass asks the runner: there is a model, the catalog and the verdicts are
read, some application is pending, and the slot is free. -/
def Asks (traits : Traits) (pass : Pass) : Prop :=
  pass.engine = .laya ∧ pass.modelAbsent = false ∧
    ¬ Query.Faulty 2 (⟨traits, pass.faults⟩ : Connection Traits) ∧
    pendingOf hash read enrichment items traits pass ≠ [] ∧
    pass.busy = false

/-- What a report changes of the verdicts. -/
def Recorded
    (traits after : Traits)
    (now : Instant)
    (report : ScanReport) : Prop :=
  let found := verdicts report (hashesOf hash read enrichment items traits)
  found = [] ∧ after = traits ∨
    after = Traits.prune items.keys
      (written (stamp report.categorizer) now found traits)

variable (runner : Runner)

/-- Everything a pass can do. -/
theorem classifyPending_cases
    (pass : Pass)
    (traits : Traits) :
    let result :=
      classifyPending hash read enrichment items runner pass traits
    let apps := pendingOf hash read enrichment items traits pass
    (¬ Asks hash read enrichment items traits pass ∧
      result.asked = none ∧ result.traits = traits) ∨
    (Asks hash read enrichment items traits pass ∧
      result.asked = some apps ∧
      ((∃ message, runner.run apps = .error message ∧
          result.outcome = .error (.runner message) ∧
          result.traits = traits) ∨
        ∃ report, runner.run apps = .ok report ∧
          (pass.discarded = true ∧ result.traits = traits ∨
            pass.discarded = false ∧
              ((∃ error, result.outcome = .error error ∧
                (result.traits = traits ∨
                  result.traits = written (stamp report.categorizer) pass.now
                    (verdicts report
                      (hashesOf hash read enrichment items traits))
                    traits)) ∨
                result.outcome = .ok (.classified apps.length) ∧
                  Recorded hash read enrichment items traits result.traits
                    pass.now report)))) := by
  dsimp only
  unfold classifyPending
  split
  case isTrue unready =>
      refine .inl ⟨?_, rfl, rfl⟩
      rintro ⟨isLaya, present, _⟩
      rcases unready with other | absent
      · exact other isLaya
      · rw [present] at absent
        cases absent
  case isFalse ready =>
      rw [not_or, not_not, Bool.not_eq_true] at ready
      obtain ⟨isLaya, present⟩ := ready
      rcases run_readPending hash read enrichment items
          (stamp pass.engine.asStr) ⟨traits, pass.faults⟩ with
        ⟨error, next, ran, faulty, kept⟩ | ⟨calm, ran⟩
      · rw [ran]
        exact .inl ⟨fun asks => asks.2.2.1 faulty, rfl, kept⟩
      · rw [ran]
        dsimp only
        split
        case isTrue empty =>
            refine .inl ⟨fun asks => asks.2.2.2.1 ?_, rfl, rfl⟩
            exact List.isEmpty_iff.mp empty
        case isFalse some =>
            split
            case isTrue busy =>
                refine .inl ⟨?_, rfl, rfl⟩
                rintro ⟨_, _, _, _, free⟩
                rw [free] at busy
                cases busy
            case isFalse free =>
                right
                refine ⟨⟨isLaya, present, calm, fun empty => some
                  (List.isEmpty_iff.mpr empty), by simpa using free⟩, ?_⟩
                cases ran : runner.run (pendingOf hash read enrichment items
                    traits pass) with
                | error message =>
                    change runner.run (pendingApps hash _ _) = _ at ran
                    rw [ran]
                    exact ⟨rfl, .inl ⟨message, rfl, rfl, rfl⟩⟩
                | ok report =>
                    change runner.run (pendingApps hash _ _) = _ at ran
                    rw [ran]
                    dsimp only
                    split
                    case isTrue discarded =>
                        exact ⟨rfl, .inr ⟨report, rfl,
                          .inl ⟨discarded, rfl⟩⟩⟩
                    case isFalse wanted =>
                        have wanted : pass.discarded = false := by
                          simpa using wanted
                        rcases run_recordFormFactors items report
                            (hashesOf hash read enrichment items traits)
                            pass.now ⟨traits, pass.faults.drop 2⟩ with
                          ⟨error, next, recorded, stored⟩ |
                            ⟨next, recorded, stored⟩
                        · change (recordFormFactors items report
                            (applicationHashes hash _) _).run _ = _
                              at recorded
                          rw [recorded]
                          exact ⟨rfl, .inr ⟨report, rfl, .inr ⟨wanted,
                            .inl ⟨_, rfl, stored⟩⟩⟩⟩
                        · change (recordFormFactors items report
                            (applicationHashes hash _) _).run _ = _
                              at recorded
                          rw [recorded]
                          exact ⟨rfl, .inr ⟨report, rfl, .inr ⟨wanted,
                            .inr ⟨rfl, stored⟩⟩⟩⟩

theorem lookup_prune
    {traits : Traits}
    {key : String × String}
    {row : LibraryItem}
    (present : items.lookup key.1 = some row) :
    (Traits.prune items.keys traits).lookup key = traits.lookup key := by
  have kept : items.keys.contains key.1 = true := by
    rw [List.contains_iff_mem]
    exact AList.mem_keys.mpr (AList.lookup_isSome.mp (by rw [present]; rfl))
  unfold Traits.prune
  rw [Table.lookup_filter]
  cases traits.lookup key with
  | none => rfl
  | some stored => rw [Option.filter_some, if_pos kept]

/-- The verdicts of a report are about applications that were asked about. -/
theorem itemId_of_mem_verdicts
    {apps : List AppProfile}
    {report : ScanReport}
    {hashes : Hashes}
    (ran : runner.run apps = .ok report)
    {verdict : FormFactorVerdict}
    (member : verdict ∈ verdicts report hashes) :
    ∃ app ∈ apps, app.id = verdict.itemId := by
  obtain ⟨assignment, isAssigned, _, _, _, _, rfl⟩ := mem_verdicts.mp member
  exact List.mem_map.mp (runner.about apps report ran assignment isAssigned)

/-- The verdicts of items that are in the library and were not asked about,
and everything that is not a verdict, stay. -/
theorem lookup_classifyPending
    (pass : Pass)
    (traits : Traits)
    {key : String × String}
    {row : LibraryItem}
    (present : items.lookup key.1 = some row)
    (others : key.2 ≠ formFactor ∨
      ∀ apps ∈ (classifyPending hash read enrichment items runner pass
        traits).asked, ∀ app ∈ apps, app.id ≠ key.1) :
    (classifyPending hash read enrichment items runner pass
      traits).traits.lookup key = traits.lookup key := by
  rcases classifyPending_cases hash read enrichment items runner pass traits
    with ⟨_, _, kept⟩ | ⟨_, asked, ⟨_, _, _, kept⟩ | ⟨report, ran, outcome⟩⟩
  · rw [kept]
  · rw [kept]
  · have stays : (written (stamp report.categorizer) pass.now
        (verdicts report (hashesOf hash read enrichment items traits))
          traits).lookup key = traits.lookup key := by
      apply lookup_written_of_forall_ne
      rintro verdict member rfl
      rcases others with different | unasked
      · exact different rfl
      · obtain ⟨app, isAsked, named⟩ :=
          itemId_of_mem_verdicts runner ran member
        exact unasked _ asked app isAsked named
    rcases outcome with ⟨_, kept⟩ | ⟨_, ⟨_, _, kept | stored⟩ |
      ⟨_, ⟨_, kept⟩ | pruned⟩⟩
    · rw [kept]
    · rw [kept]
    · rw [stored, stays]
    · rw [kept]
    · rw [pruned, lookup_prune items present, stays]

/-- After a report that answers everything it was asked, under the engine of
the settings, no application is pending. -/
theorem pendingOf_recorded
    {pass later : Pass}
    {traits after : Traits}
    {report : ScanReport}
    (recorded : Recorded hash read enrichment items traits after pass.now
      report)
    (engine : later.engine = pass.engine)
    (categorizer : report.categorizer = pass.engine.asStr)
    (answered : ∀ app ∈ pendingOf hash read enrichment items traits pass,
      ∃ assignment ∈ report.assignments,
        assignment.appId = app.id ∧ assignment.couch.isSome = true) :
    pendingOf hash read enrichment items after later = [] := by
  rw [List.eq_nil_iff_forall_not_mem]
  intro app pending
  unfold pendingOf at pending
  obtain ⟨id, row, applies, rfl, unjudged⟩ :=
    (mem_pendingApps hash read enrichment items).mp pending
  rw [engine] at unjudged
  have hashed : (hashesOf hash read enrichment items traits).lookup id =
      some (hash (profileOf read enrichment id row)) :=
    (lookup_applicationHashes hash read enrichment items traits).mpr
      ⟨row, applies, rfl⟩
  by_cases told : ∃ verdict ∈ verdicts report
      (hashesOf hash read enrichment items traits), verdict.itemId = id
  · obtain ⟨verdict, member, named, stored, looked, isModel, isHash⟩ :=
      @lookup_written_of_mem (stamp report.categorizer) pass.now _ traits _
        told
    obtain ⟨assignment, _, _, inputHash, _, fresh, rfl⟩ :=
      mem_verdicts.mp member
    change assignment.appId = id at named
    rw [named, hashed] at fresh
    cases fresh
    rcases recorded with ⟨none, _⟩ | pruned
    · rw [none] at told
      simp at told
    · refine unjudged ⟨stored, ?_, ?_, isHash⟩
      · rw [pruned, lookup_prune items applies.1]
        exact looked
      · rw [isModel, categorizer]
  · have judged : Judged traits (stamp pass.engine.asStr) id
        (hash (profileOf read enrichment id row)) := by
      by_contra fresh
      obtain ⟨assignment, isAssigned, named, couch⟩ := answered _
        ((mem_pendingApps hash read enrichment items).mpr
          ⟨id, row, applies, rfl, fresh⟩)
      rw [id_profileOf] at named
      obtain ⟨probability, couch⟩ := Option.isSome_iff_exists.mp couch
      have known : (hashesOf hash read enrichment items traits).lookup
          assignment.appId =
            some (hash (profileOf read enrichment id row)) := by
        rw [named]
        exact hashed
      exact told ⟨_, mem_verdicts.mpr ⟨assignment, isAssigned, probability,
        _, couch, known, rfl⟩, named⟩
    obtain ⟨stored, looked, isModel, isHash⟩ := judged
    have same : after.lookup (id, formFactor) =
        traits.lookup (id, formFactor) := by
      rcases recorded with ⟨_, kept⟩ | pruned
      · rw [kept]
      · rw [pruned, lookup_prune items applies.1]
        apply lookup_written_of_forall_ne
        intro verdict member keys
        exact told ⟨verdict, member, (congrArg Prod.fst keys).symm⟩
    exact unjudged ⟨stored, same.trans looked, isModel, isHash⟩

/-- A pass that finds nothing pending says so. -/
theorem classifyPending_of_upToDate
    {pass : Pass}
    {traits : Traits}
    (calm : ¬ Query.Faulty 2 (⟨traits, pass.faults⟩ : Connection Traits))
    (none : pendingOf hash read enrichment items traits pass = []) :
    (classifyPending hash read enrichment items runner pass traits).outcome =
      .ok .upToDate := by
  unfold classifyPending
  split
  case isTrue => rfl
  case isFalse ready =>
      rcases run_readPending hash read enrichment items
          (stamp pass.engine.asStr) ⟨traits, pass.faults⟩ with
        ⟨_, _, _, faulty, _⟩ | ⟨_, ran⟩
      · exact absurd faulty calm
      · rw [ran]
        dsimp only
        split
        case isTrue => rfl
        case isFalse some => exact absurd (List.isEmpty_iff.mpr none) some

/-- A pass that succeeds and is told everything it asked under the engine of
the settings leaves nothing pending. -/
theorem upToDate_of_classifyPending
    {pass later : Pass}
    {traits : Traits}
    {report : ScanReport}
    {run : TraitRun}
    (asks : Asks hash read enrichment items traits pass)
    (wanted : pass.discarded = false)
    (ran : runner.run (pendingOf hash read enrichment items traits pass) =
      .ok report)
    (categorizer : report.categorizer = "laya")
    (answered : ∀ app ∈ pendingOf hash read enrichment items traits pass,
      ∃ assignment ∈ report.assignments,
        assignment.appId = app.id ∧ assignment.couch.isSome = true)
    (succeeded : (classifyPending hash read enrichment items runner pass
      traits).outcome = .ok run)
    (engine : later.engine = pass.engine)
    (calm : ¬ Query.Faulty 2 (⟨(classifyPending hash read enrichment items
      runner pass traits).traits, later.faults⟩ : Connection Traits)) :
    (classifyPending hash read enrichment items runner later
      (classifyPending hash read enrichment items runner pass
        traits).traits).outcome = .ok .upToDate := by
  refine classifyPending_of_upToDate hash read enrichment items runner calm ?_
  rcases classifyPending_cases hash read enrichment items runner pass traits
    with ⟨silent, _⟩ | ⟨_, _, ⟨_, failed, _⟩ | ⟨told, reported, outcome⟩⟩
  · exact absurd asks silent
  · rw [ran] at failed
    cases failed
  · rw [ran] at reported
    cases reported
    rcases outcome with ⟨discarded, _⟩ | ⟨_, ⟨_, failed, _⟩ | ⟨_, recorded⟩⟩
    · rw [wanted] at discarded
      cases discarded
    · rw [succeeded] at failed
      cases failed
    · refine pendingOf_recorded hash read enrichment items recorded engine ?_
        answered
      rw [categorizer, asks.1]
      rfl

/-- A pass asks about exactly the applications whose verdict was not made from
their present profile under the engine of the settings, each once.  If it is
told all of them the next pass has nothing to ask.  What a profile is hashed
to does not depend on verdicts, and the verdicts of items of the library that
a pass does not ask about stay. -/
theorem form_factor_detection_converges :
    (∀ pass traits,
      (Asks hash read enrichment items traits pass →
        (classifyPending hash read enrichment items runner pass
          traits).asked =
            some (pendingOf hash read enrichment items traits pass)) ∧
      (¬ Asks hash read enrichment items traits pass →
        (classifyPending hash read enrichment items runner pass
          traits).asked = none)) ∧
    (∀ pass traits,
      ((pendingOf hash read enrichment items traits pass).map
        AppProfile.id).Nodup ∧
      ∀ app, app ∈ pendingOf hash read enrichment items traits pass ↔
        ∃ id row, Applies items id row ∧
          app = profileOf read enrichment id row ∧
          ¬ Judged traits (stamp pass.engine.asStr) id
            (hash (profileOf read enrichment id row))) ∧
    (∀ pass later traits report run,
      Asks hash read enrichment items traits pass →
      pass.discarded = false →
      runner.run (pendingOf hash read enrichment items traits pass) =
        .ok report →
      report.categorizer = "laya" →
      (∀ app ∈ pendingOf hash read enrichment items traits pass,
        ∃ assignment ∈ report.assignments,
          assignment.appId = app.id ∧ assignment.couch.isSome = true) →
      (classifyPending hash read enrichment items runner pass
        traits).outcome = .ok run →
      later.engine = pass.engine →
      ¬ Query.Faulty 2 (⟨(classifyPending hash read enrichment items runner
        pass traits).traits, later.faults⟩ : Connection Traits) →
      (classifyPending hash read enrichment items runner later
        (classifyPending hash read enrichment items runner pass
          traits).traits).outcome = .ok .upToDate) ∧
    (∀ traits id row,
      hash (profileFromItem
          (servedItem read (joinedWith enrichment traits) id row)) =
        hash (profileOf read enrichment id row)) ∧
    ∀ pass traits key row,
      items.lookup key.1 = some row →
      (key.2 ≠ formFactor ∨
        ∀ apps ∈ (classifyPending hash read enrichment items runner pass
          traits).asked, ∀ app ∈ apps, app.id ≠ key.1) →
      (classifyPending hash read enrichment items runner pass
        traits).traits.lookup key = traits.lookup key := by
  refine ⟨fun pass traits => ?_, fun pass traits => ⟨?_, fun app => ?_⟩,
    fun pass later traits report run => ?_, fun traits id row => ?_,
    fun pass traits key row => ?_⟩
  · rcases classifyPending_cases hash read enrichment items runner pass traits
      with ⟨silent, none, _⟩ | ⟨asks, some, _⟩
    · exact ⟨fun asks => absurd asks silent, fun _ => none⟩
    · exact ⟨fun _ => some, fun silent => absurd asks silent⟩
  · exact nodup_pendingApps hash read enrichment items traits _
  · exact mem_pendingApps hash read enrichment items
  · exact upToDate_of_classifyPending hash read enrichment items runner
  · rw [profileFromItem_servedItem]
  · exact lookup_classifyPending hash read enrichment items runner pass traits

end Pass
/-- A runner that finds everything fit for the couch. -/
def couchRunner : Runner where
  run apps := .ok ⟨"laya", apps.map fun app => ⟨app.id, some 1⟩, []⟩
  about apps report ran assignment member := by
    cases ran
    obtain ⟨app, isAsked, rfl⟩ := List.mem_map.mp member
    exact List.mem_map_of_mem isAsked

/-- A library of one application. -/
def oneApplication : LibraryItems :=
  (∅ : LibraryItems).insert "kodi"
    ⟨"desktop-apps", "Kodi", "application", none, none, "", ""⟩

/-- Two passes over the library, the second one after the first. -/
def twoPasses : PassResult × PassResult :=
  let pass : Pass := ⟨.laya, false, false, false, [], 0⟩
  let run := classifyPending AppProfile.title (fun _ => none) (fun _ => none)
    oneApplication couchRunner pass
  (run ∅, run (run ∅).traits)

example :
    twoPasses.1.asked.map (List.map AppProfile.id) = some ["kodi"] ∧
      twoPasses.2.asked.isNone = true := by
  decide +kernel

end Daemon
end Hearthdeck
