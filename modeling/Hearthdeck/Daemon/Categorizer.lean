import Hearthdeck.Daemon.CollectionOwners
import Hearthdeck.Foundation.Pool
import Mathlib.Data.Rat.Defs

/-!
# Categorization jobs

Categorization is turned on and off by the person, publishes rails, and
detects which applications suit the couch.  A scan, a detection and a download
share one slot, guarded by one lock; the rails and the verdicts are rows of
the database.  The calls and the jobs they start are tasks over that shared
state: every section under the lock and every statement is one step.

The catalog, the model on the disk, the runner and the clock are outside.
What a step reads of them comes with the step.  A scan reads the catalog,
files the library and stores its report before it gives the slot back; none
of this is read by another task, so its outcome comes with the release.
-/

namespace Hearthdeck
namespace Daemon

open Foundation

/-- `OWNER_LAYA`: the feature that owns the rails. -/
def ownerLaya : String := "laya"

/-- `ScanEngine`. -/
inductive ScanEngine
  | heuristic
  | laya
  deriving DecidableEq, Repr

/-- `ScanEngine::as_str`. -/
def ScanEngine.asStr : ScanEngine → String
  | heuristic => "heuristic"
  | laya => "laya"

/-- `FORM_FACTOR`: the trait a verdict is about. -/
def formFactor : String := "form_factor"

/-- `COUCH_CONFIDENCE`: the number nearest to 0.7 in double precision. -/
def couchConfidence : ℚ := 3152519739159347 / 4503599627370496

/-- `form_factor_for`. -/
def formFactorFor (probability : ℚ) : String :=
  if couchConfidence ≤ probability then "couch" else "desktop"

/-- `traits::stamp`, with `PROMPT_VERSION`. -/
def stamp (categorizer : String) : String :=
  categorizer ++ ":2"

/-- A row of `item_traits`, below its item and its trait. -/
structure TraitRow where
  value : String
  confidence : ℚ
  inputHash : String
  model : String
  updatedAt : Instant
  deriving DecidableEq

/-- `FormFactorVerdict`. -/
structure FormFactorVerdict where
  itemId : String
  value : String
  confidence : ℚ
  inputHash : String

/-- What a report says about one application. -/
structure AppCategorization where
  appId : String
  couch : Option ℚ

/-- `ScanReport`, with the collections that `rail_collections` makes of it. -/
structure ScanReport where
  categorizer : String
  assignments : List AppCategorization
  rails : List OwnedCollection

/-- The input hash of every application of the catalog, by item. -/
abbrev Hashes := List (String × String)

/-- The verdicts of `record_form_factors`. -/
def verdicts
    (report : ScanReport)
    (hashes : Hashes) : List FormFactorVerdict :=
  report.assignments.filterMap fun assignment => do
    let probability ← assignment.couch
    let inputHash ← hashes.lookup assignment.appId
    pure
      { itemId := assignment.appId
        value := formFactorFor probability
        confidence := probability
        inputHash := inputHash }

/-- The table of `item_traits`. -/
abbrev Traits := Table (String × String) TraitRow

namespace Traits

/-- The verdict an item has under a stamp, by the hash it was made from. -/
def current (traits : Traits) (stamp itemId : String) : Option String :=
  ((traits.lookup (itemId, formFactor)).filter
    fun row => row.model == stamp).map TraitRow.inputHash

/-- One `INSERT … ON CONFLICT DO UPDATE` of `write_form_factors`. -/
def write
    (stamp : String)
    (now : Instant)
    (traits : Traits)
    (verdict : FormFactorVerdict) : Traits :=
  traits.insert (verdict.itemId, formFactor)
    { value := verdict.value
      confidence := verdict.confidence
      inputHash := verdict.inputHash
      model := stamp
      updatedAt := now }

/-- `TraitStore::write_form_factors`, in one transaction: a fault in one of its
statements, its beginning or its commit leaves the table as it was. -/
def writeFormFactors
    (stamp : String)
    (now : Instant)
    (verdicts : List FormFactorVerdict) :
    Query StoreError Traits PUnit :=
  Query.transaction (.sql "begin verdict write") (.sql "commit verdict write")
    (verdicts.forM fun verdict =>
      Query.execute (.sql ("write the verdict for " ++ verdict.itemId))
        fun traits => .ok (write stamp now traits verdict))

/-- `TraitStore::prune`, told the items the library holds. -/
def prune (library : List String) (traits : Traits) : Traits :=
  traits.filter fun key _ => library.contains key.1

end Traits

/-- `ScanState`. -/
structure ScanState where
  running : Bool := false
  downloading : Bool := false
  /-- What the running job decides is thrown away. -/
  discard : Bool := false
  lastError : Option String := none
  lastCompletedAt : Option Instant := none
  deriving DecidableEq, Repr

/-- What the tasks share, and what a run notes about it. -/
structure Categorizer where
  engine : ScanEngine
  /-- `categorization_enabled` in the stored settings. -/
  enabled : Bool
  scan : ScanState := {}
  collections : CollectionStore
  traits : Traits
  /-- How often the slot was taken.  Read by no code, as the next three. -/
  claims : Nat := 0
  /-- How often it had been taken when the rails were last removed. -/
  removed : Nat := 0
  /-- The rails were removed by a call that turns the feature off, and the
  setting was not turned on since. -/
  swept : Bool := false
  /-- A call that turns the feature off completed, and none that turns it on
  started since. -/
  off : Bool := false

/-- `Control`'s calls. -/
inductive Control
  | enable
  | disable
  | removeCollections
  | publishCollections
  | detectFormFactors
  deriving DecidableEq, Repr

/-- The tasks, each named by the section it is about to run. -/
inductive Job
  /-- `enable`: the setting is written. -/
  | enabling
  /-- `enable`: the settings are read back. -/
  | enabled
  | requestDownload
  /-- `disable`: the setting is written. -/
  | disabling
  /-- `disable`: the settings are read back. -/
  | disabled
  /-- `remove_collections`, by itself or within `disable`. -/
  | discardRunning (turningOff : Bool)
  | removeOwned (turningOff : Bool)
  | clearTraits
  /-- `publish_collections`: the setting is read. -/
  | publishing
  | requestScan
  /-- `detect_form_factors`: the setting is read. -/
  | detecting
  | checkStatus
  /-- `classify_pending`: the catalog is read. -/
  | listing
  /-- `classify_pending`: the present verdicts are read. -/
  | comparing (hashes : Hashes)
  /-- `classify_pending`: the slot is asked for. -/
  | requestDetection (hashes : Hashes)
  /-- The jobs that hold the slot, with the number of their claim. -/
  | downloading
  | scanning (claim : Nat)
  | classifying (hashes : Hashes)
  /-- A scan that gave the slot back and writes its rails. -/
  | writingRails (claim : Nat) (report : ScanReport)
  /-- A detection that gave the slot back and writes its verdicts. -/
  | recording (hashes : Hashes) (report : ScanReport)
  | pruning

/-- What a section is answered from outside. -/
structure Outside where
  /-- The faults of the coming statements. -/
  faults : List Bool := []
  /-- No checkpoint is on the disk. -/
  modelAbsent : Bool := false
  /-- The applications of the catalog. -/
  hashes : Hashes := []
  /-- How a job ends. -/
  outcome : Except String ScanReport := .error ""
  /-- The items the library holds. -/
  library : List String := []
  now : Instant := 0

/-- The next statement fails. -/
def Outside.fault (outside : Outside) : Bool :=
  outside.faults.headD false

namespace Categorizer

/-- `claim`, of a slot that is free. -/
def claim (shared : Categorizer) (downloading : Bool) : Categorizer :=
  { shared with
    scan := { shared.scan with
      running := true
      downloading := downloading
      discard := false
      lastError := none }
    claims := shared.claims + 1 }

/-- `release`. -/
def release
    (shared : Categorizer)
    (error : Option String)
    (completesARun : Bool)
    (now : Instant) : Categorizer :=
  { shared with
    scan := { shared.scan with
      running := false
      lastError := error.or shared.scan.lastError
      lastCompletedAt :=
        if error.isNone && completesARun then
          some now
        else
          shared.scan.lastCompletedAt } }

/-- `discard_running`. -/
def discardRunning (shared : Categorizer) : Categorizer :=
  if shared.scan.running then
    { shared with scan := { shared.scan with discard := true } }
  else
    shared

/-- The error of a job that failed. -/
def failure : Except String ScanReport → Option String
  | .ok _ => none
  | .error error => some error

/-! ## Sections -/

/-- `set_categorization_enabled(true)`, its first statement. -/
def enable (shared : Categorizer) (outside : Outside) :
    Categorizer × List Job :=
  if outside.fault then
    (shared, [])
  else
    ({ shared with enabled := true, swept := false }, [.enabled])

/-- `request_download`. -/
def requestDownload (shared : Categorizer) (outside : Outside) :
    Categorizer × List Job :=
  if !outside.modelAbsent || shared.scan.running then
    (shared, [])
  else
    (shared.claim true, [.downloading])

/-- `set_categorization_enabled(false)`, its first statement. -/
def disable (shared : Categorizer) (outside : Outside) :
    Categorizer × List Job :=
  if outside.fault then
    (shared, [])
  else
    ({ shared with enabled := false }, [.disabled])

/-- `remove_owned`, whose failure is only logged. -/
def removeOwned
    (shared : Categorizer)
    (turningOff : Bool)
    (outside : Outside) : Categorizer × List Job :=
  ({ shared with
      collections := (CollectionStore.removeOwned ownerLaya).storeAfter
        ⟨shared.collections, outside.faults⟩
      removed := shared.claims
      swept := shared.swept || turningOff },
    if turningOff then [.clearTraits] else [])

/-- `clear_traits`, whose failure is only logged.  The call ends with it. -/
def clearTraits (shared : Categorizer) (outside : Outside) :
    Categorizer × List Job :=
  ({ shared with
      traits := if outside.fault then shared.traits else ∅
      off := true }, [])

/-- `request_scan`. -/
def requestScan (shared : Categorizer) : Categorizer × List Job :=
  if shared.scan.running then
    (shared, [])
  else
    (shared.claim false, [.scanning (shared.claims + 1)])

/-- `status` as `detect_form_factors` reads it. -/
def checkStatus (shared : Categorizer) (outside : Outside) :
    Categorizer × List Job :=
  if shared.scan.running || outside.modelAbsent then
    (shared, [])
  else
    (shared, [.listing])

/-- The start of `classify_pending`, up to its first statement. -/
def listing (shared : Categorizer) (outside : Outside) :
    Categorizer × List Job :=
  if shared.engine ≠ .laya ∨ outside.modelAbsent ∨ outside.fault then
    (shared, [])
  else
    (shared, [.comparing outside.hashes])

/-- Whether some application has no verdict made from its present input. -/
def pending (shared : Categorizer) (hashes : Hashes) : Bool :=
  hashes.any fun entry =>
    shared.traits.current (stamp shared.engine.asStr) entry.1 != some entry.2

/-- The comparison of `classify_pending`. -/
def comparing
    (shared : Categorizer)
    (hashes : Hashes)
    (outside : Outside) : Categorizer × List Job :=
  if outside.fault || !shared.pending hashes then
    (shared, [])
  else
    (shared, [.requestDetection hashes])

/-- The claim of `classify_pending`. -/
def requestDetection
    (shared : Categorizer)
    (hashes : Hashes) : Categorizer × List Job :=
  if shared.scan.running then
    (shared, [])
  else
    (shared.claim false, [.classifying hashes])

/-- `run_and_record`, up to its release. -/
def scanning
    (shared : Categorizer)
    (claim : Nat)
    (outside : Outside) : Categorizer × List Job :=
  (shared.release (failure outside.outcome) true outside.now,
    match outside.outcome with
    | .ok report =>
        if shared.scan.discard then [] else [.writingRails claim report]
    | .error _ => [])

/-- `classify_pending`, up to its release.  Without a verdict nothing is
recorded. -/
def classifying
    (shared : Categorizer)
    (hashes : Hashes)
    (outside : Outside) : Categorizer × List Job :=
  (shared.release (failure outside.outcome) false outside.now,
    match outside.outcome with
    | .ok report =>
        if shared.scan.discard || (verdicts report hashes).isEmpty then
          []
        else
          [.recording hashes report]
    | .error _ => [])

/-- `write_rail_collections`. -/
def writeRails
    (shared : Categorizer)
    (report : ScanReport)
    (outside : Outside) : Categorizer :=
  { shared with
    collections :=
      (CollectionStore.replaceOwned outside.now ownerLaya
        report.rails).storeAfter ⟨shared.collections, outside.faults⟩ }

/-- `record_form_factors`, its transaction. -/
def recording
    (shared : Categorizer)
    (hashes : Hashes)
    (report : ScanReport)
    (outside : Outside) : Categorizer × List Job :=
  let write := Traits.writeFormFactors (stamp report.categorizer) outside.now
    (verdicts report hashes)
  let connection : Connection Traits := ⟨shared.traits, outside.faults⟩
  ({ shared with traits := write.storeAfter connection },
    if write.succeeds connection then [.pruning] else [])

/-- The next section of a task. -/
def perform
    (shared : Categorizer)
    (job : Job)
    (outside : Outside) : Categorizer × List Job :=
  match job with
  | .enabling => shared.enable outside
  | .enabled =>
      (shared, if outside.fault then [] else [.requestDownload])
  | .requestDownload => shared.requestDownload outside
  | .disabling => shared.disable outside
  | .disabled =>
      (shared, if outside.fault then [] else [.discardRunning true])
  | .discardRunning turningOff =>
      (shared.discardRunning, [.removeOwned turningOff])
  | .removeOwned turningOff => shared.removeOwned turningOff outside
  | .clearTraits => shared.clearTraits outside
  | .publishing =>
      (shared,
        if outside.fault || !shared.enabled then [] else [.requestScan])
  | .requestScan => shared.requestScan
  | .detecting =>
      (shared,
        if outside.fault || !shared.enabled then [] else [.checkStatus])
  | .checkStatus => shared.checkStatus outside
  | .listing => shared.listing outside
  | .comparing hashes => shared.comparing hashes outside
  | .requestDetection hashes => shared.requestDetection hashes
  | .downloading =>
      (shared.release (failure outside.outcome) false outside.now, [])
  | .scanning claim => shared.scanning claim outside
  | .classifying hashes => shared.classifying hashes outside
  | .writingRails _ report => (shared.writeRails report outside, [])
  | .recording hashes report => shared.recording hashes report outside
  | .pruning =>
      ({ shared with
          traits :=
            if outside.fault then
              shared.traits
            else
              shared.traits.prune outside.library }, [])

/-- A call starts its task. -/
def enter (shared : Categorizer) : Control → Categorizer × List Job
  | .enable => ({ shared with off := false }, [.enabling])
  | .disable => (shared, [.disabling])
  | .removeCollections => (shared, [.discardRunning false])
  | .publishCollections => (shared, [.publishing])
  | .detectFormFactors => (shared, [.detecting])

/-- Categorization as a program of tasks. -/
def program : Program Categorizer Job Control Outside where
  enter := enter
  perform := perform

end Categorizer
end Daemon
end Hearthdeck
