import Hearthdeck.Frontend.Copies

/-!
# Retry chains

The reads of the catalog and of the collections are numbered, and of those on
their way only the latest counts.  The reads of the console list carry the
revision of the console source, so every read of the current source counts,
and each of them that fails is repeated.
-/

namespace Hearthdeck
namespace Frontend

open Foundation

variable {Version Rails : Type}

/-! ## Reads that go by a revision -/

/-- The reads of the console list, the revision of their source, and whether a
failed read is being repeated. -/
structure ConsoleChain where
  reads : List ConsoleRead
  source : Nat
  retrying : Bool

namespace ConsoleChain

/-- Whether a read repeats a failed one and counts. -/
def repeats (chain : ConsoleChain) (read : ConsoleRead) : Bool :=
  read.retry && read.source == chain.source

/-- What can happen to the reads. -/
inductive Move
  | stay
  /-- A read is begun. -/
  | load
  /-- The source is replaced, and its list may be read. -/
  | retire (loads : Bool)
  /-- A read is answered. -/
  | succeed (index : Nat)
  /-- A read fails. -/
  | fail (index : Nat)

/-- A read is begun, for the first time or again. -/
def load (chain : ConsoleChain) (retry : Bool) : ConsoleChain :=
  { chain with reads := chain.reads ++ [⟨chain.source, retry⟩] }

/-- The source is replaced. -/
def retire (chain : ConsoleChain) (loads : Bool) : ConsoleChain :=
  let retired :=
    { chain with
      source := chain.source + 1
      retrying := false }
  if loads then retired.load false else retired

/-- A read is answered, which ends the repeating if the read counts. -/
def succeed (chain : ConsoleChain) (index : Nat) : ConsoleChain :=
  match chain.reads[index]? with
  | some read =>
      { chain with
        reads := chain.reads.eraseIdx index
        retrying := if read.source = chain.source then false
          else chain.retrying }
  | none => chain

/-- A read fails and is repeated if it counts. -/
def fail (chain : ConsoleChain) (index : Nat) : ConsoleChain :=
  match chain.reads[index]? with
  | some read =>
      let failed := { chain with reads := chain.reads.eraseIdx index }
      if read.source = chain.source then
        { failed with retrying := true }.load true
      else
        failed
  | none => chain

def move (chain : ConsoleChain) : Move → ConsoleChain
  | .stay => chain
  | .load => chain.load false
  | .retire loads => chain.retire loads
  | .succeed index => chain.succeed index
  | .fail index => chain.fail index

/-- A read that counts fails while another one is repeated. -/
def Doubles (chain : ConsoleChain) : Move → Prop
  | .fail index =>
      ∃ read, chain.reads[index]? = some read ∧
        read.source = chain.source ∧
        ∃ other ∈ chain.reads.eraseIdx index, chain.repeats other = true
  | _ => False

/-- No read is of a source to come, one read is repeated at most, and one is
if the flag says so. -/
structure Single (chain : ConsoleChain) : Prop where
  bounded : ∀ read ∈ chain.reads, read.source ≤ chain.source
  one : chain.reads.countP chain.repeats ≤ 1
  waits : chain.retrying = true → ∃ read ∈ chain.reads,
    chain.repeats read = true

theorem Single.load
    {chain : ConsoleChain}
    (single : chain.Single) :
    (chain.load false).Single where
  bounded := by
    intro read member
    rcases List.mem_append.mp member with earlier | new
    · exact single.bounded read earlier
    · rw [List.mem_singleton.mp new]
      exact Nat.le_refl _
  one := by
    change (chain.reads ++ [_]).countP chain.repeats ≤ 1
    rw [List.countP_append]
    exact single.one
  waits := by
    intro retrying
    obtain ⟨read, member, repeated⟩ := single.waits retrying
    exact ⟨read, List.mem_append_left _ member, repeated⟩

/-- With the source replaced, no read on its way counts. -/
theorem Single.retire
    {chain : ConsoleChain}
    (single : chain.Single) :
    { chain with
      source := chain.source + 1
      retrying := false }.Single where
  bounded := by
    intro read member
    exact Nat.le_succ_of_le (single.bounded read member)
  one := by
    refine Nat.le_trans (Nat.le_of_eq ?_) (Nat.zero_le 1)
    apply List.countP_eq_zero.mpr
    intro read member repeated
    have below := single.bounded read member
    have same := (Bool.and_eq_true_iff.mp repeated).2
    have equal : read.source = chain.source + 1 := beq_iff_eq.mp same
    omega
  waits := by
    intro retrying
    cases retrying

theorem countP_eraseIdx_le
    (chain : ConsoleChain)
    (index : Nat) :
    (chain.reads.eraseIdx index).countP chain.repeats ≤
      chain.reads.countP chain.repeats :=
  (List.eraseIdx_sublist chain.reads index).countP_le

/-- A read of a replaced source is not the one that is repeated. -/
theorem Single.waits_eraseIdx
    {chain : ConsoleChain}
    (single : chain.Single)
    {index : Nat}
    {read : ConsoleRead}
    (found : chain.reads[index]? = some read)
    (old : read.source ≠ chain.source)
    (retrying : chain.retrying = true) :
    ∃ other ∈ chain.reads.eraseIdx index, chain.repeats other = true := by
  obtain ⟨other, member, repeated⟩ := single.waits retrying
  refine ⟨other, ?_, repeated⟩
  have stays := (Flight.perm_of_getElem? found).mem_iff.mpr member
  refine (List.mem_cons.mp stays).resolve_left ?_
  rintro rfl
  exact old (beq_iff_eq.mp (Bool.and_eq_true_iff.mp repeated).2)

theorem Single.succeed
    {chain : ConsoleChain}
    (single : chain.Single)
    (index : Nat) :
    (chain.succeed index).Single := by
  unfold ConsoleChain.succeed
  split
  case h_2 => exact single
  case h_1 read found =>
      refine ⟨?_, Nat.le_trans (chain.countP_eraseIdx_le index) single.one,
        ?_⟩
      · intro other member
        exact single.bounded other (List.mem_of_mem_eraseIdx member)
      · intro retrying
        dsimp only at retrying
        split at retrying
        case isTrue counts => cases retrying
        case isFalse old => exact single.waits_eraseIdx found old retrying

theorem Single.fail
    {chain : ConsoleChain}
    (single : chain.Single)
    (index : Nat)
    (alone : ¬ chain.Doubles (.fail index)) :
    (chain.fail index).Single := by
  unfold ConsoleChain.fail
  split
  case h_2 => exact single
  case h_1 read found =>
      have bounded : ∀ other ∈ chain.reads.eraseIdx index,
          other.source ≤ chain.source := by
        intro other member
        exact single.bounded other (List.mem_of_mem_eraseIdx member)
      dsimp only
      split
      case isFalse old =>
          refine ⟨bounded,
            Nat.le_trans (chain.countP_eraseIdx_le index) single.one, ?_⟩
          exact single.waits_eraseIdx found old
      case isTrue counts =>
          -- The read that failed was the only one repeated, if any was.
          have none : (chain.reads.eraseIdx index).countP chain.repeats = 0 :=
            by
              apply List.countP_eq_zero.mpr
              intro other member repeated
              exact alone ⟨read, found, counts, other, member, repeated⟩
          refine ⟨?_, ?_, ?_⟩
          · intro other member
            rcases List.mem_append.mp member with earlier | new
            · exact bounded other earlier
            · rw [List.mem_singleton.mp new]
              exact Nat.le_refl _
          · change (chain.reads.eraseIdx index ++ [_]).countP
              chain.repeats ≤ 1
            rw [List.countP_append, none, Nat.zero_add]
            exact List.countP_le_length
          · intro retrying
            refine ⟨⟨chain.source, true⟩,
              List.mem_append_right _ (List.mem_singleton.mpr rfl), ?_⟩
            exact beq_self_eq_true chain.source

theorem Single.move
    {chain : ConsoleChain}
    (single : chain.Single)
    (move : Move)
    (alone : ¬ chain.Doubles move) :
    (chain.move move).Single := by
  cases move with
  | stay => exact single
  | load => exact single.load
  | retire loads =>
      cases loads with
      | false => exact single.retire
      | true => exact single.retire.load
  | succeed index => exact single.succeed index
  | fail index => exact single.fail index alone

end ConsoleChain

namespace Refresher

/-- The reads of the console list. -/
def consoleChain (refresher : Refresher Version Rails) : ConsoleChain where
  reads := refresher.consoleReads
  source := refresher.app.reads.source
  retrying := refresher.retryConsoles

/-- What a step is for the reads of the console list. -/
def consoleMove
    (refresher : Refresher Version Rails) :
    RefreshStep Version Rails → ConsoleChain.Move
  | .message .openDashboard =>
      if refresher.consolePlatforms.isEmpty && !refresher.retryConsoles then
        .load
      else
        .stay
  | .message .restoreDashboard =>
      if refresher.retryConsoles then .stay else .load
  | .message .rommConnectionChanged => .retire refresher.connected
  | .hear =>
      match refresher.feed with
      | [] => .stay
      | notice :: _ =>
          if notice.event = .resumed then
            .retire true
          else if notice.event.stalesCatalog &&
              (refresher.consolePlatforms.isEmpty &&
                !refresher.retryConsoles) then
            .load
          else
            .stay
  | .consolesAnswered index _ => .succeed index
  | .consolesFailed index _ => .fail index
  | _ => .stay

theorem consoleChain_stepApp
    (language : Language)
    (refresher : Refresher Version Rails)
    (message : Message Version)
    {reads : Reads}
    (stepped : (refresher.app.update language message).reads = reads) :
    (refresher.stepApp language message).consoleChain =
      { refresher.consoleChain with source := reads.source } := by
  subst stepped
  rfl

theorem consoleChain_stepApp_of_ordinary
    (language : Language)
    (refresher : Refresher Version Rails)
    (message : Message Version)
    (ordinary : message.isOrdinary = true) :
    (refresher.stepApp language message).consoleChain =
      refresher.consoleChain :=
  consoleChain_stepApp language refresher message
    (App.reads_update_of_ordinary language refresher.app message ordinary)

/-- The console source outlives every answer about the catalog. -/
theorem consoleChain_stepApp_catalogLoaded
    (language : Language)
    (refresher : Refresher Version Rails)
    (request : Nat)
    (result : Except String (List LibraryItem)) :
    (refresher.stepApp language (.catalogLoaded request result)).consoleChain =
      refresher.consoleChain := by
  by_cases latest : request = refresher.app.catalogRequest
  · subst latest
    cases result with
    | ok entries =>
        have stepped := consoleChain_stepApp language refresher _
          (App.reads_update_catalogLoaded_ok language refresher.app entries)
        exact stepped
    | error message =>
        have stepped := consoleChain_stepApp language refresher _
          (App.reads_update_catalogLoaded_error language refresher.app message)
        exact stepped
  · exact consoleChain_stepApp language refresher _
      (App.reads_update_catalogLoaded_old language refresher.app request
        result latest)

theorem consoleChain_refreshCollections
    (refresher : Refresher Version Rails) :
    refresher.refreshCollections.consoleChain = refresher.consoleChain := by
  unfold refreshCollections
  split
  case isTrue retrying => rfl
  case isFalse free => rfl

theorem consoleChain_loadMissingConsoles
    (refresher : Refresher Version Rails) :
    refresher.loadMissingConsoles.consoleChain =
      if refresher.consolePlatforms.isEmpty && !refresher.retryConsoles then
        refresher.consoleChain.load false
      else
        refresher.consoleChain := by
  unfold loadMissingConsoles
  split
  case isTrue missing => rfl
  case isFalse there => rfl

/-- The reads of the catalog and of the collections that an event begins leave
the consoles alone. -/
theorem consoles_daemonChanged
    (language : Language)
    (refresher : Refresher Version Rails)
    (event : FeedEvent)
    (sends reloads : Bool) :
    let stepped := refresher.stepApp language (.daemonChanged event)
    let catalog := if sends then stepped.sendCatalog else stepped
    let rails := if reloads then catalog.refreshCollections else catalog
    rails.consolePlatforms = refresher.consolePlatforms ∧
      rails.consoleChain =
        { refresher.consoleChain with
          source := if event = .resumed then refresher.app.console.source + 1
            else refresher.app.console.source } := by
  intro stepped catalog rails
  have first : catalog.consolePlatforms = refresher.consolePlatforms ∧
      catalog.consoleChain = stepped.consoleChain := by
    cases sends with
    | false => exact ⟨rfl, rfl⟩
    | true => exact ⟨rfl, rfl⟩
  have second : rails.consolePlatforms = catalog.consolePlatforms ∧
      rails.consoleChain = catalog.consoleChain := by
    cases reloads with
    | false => exact ⟨rfl, rfl⟩
    | true =>
        change catalog.refreshCollections.consolePlatforms = _ ∧
          catalog.refreshCollections.consoleChain = _
        unfold refreshCollections
        split
        case isTrue retrying => exact ⟨rfl, rfl⟩
        case isFalse free => exact ⟨rfl, rfl⟩
  refine ⟨second.1.trans first.1, (second.2.trans first.2).trans ?_⟩
  exact consoleChain_stepApp language refresher _
    (App.reads_update_daemonChanged language refresher.app event)

/-- How an event ends: the consoles are read again, or read if there are
none. -/
theorem consoleChain_daemonChanged_last
    (refresher rails : Refresher Version Rails)
    (event : FeedEvent)
    (platforms : rails.consolePlatforms = refresher.consolePlatforms)
    (chain : rails.consoleChain =
      { refresher.consoleChain with
        source := if event = .resumed then refresher.app.console.source + 1
          else refresher.app.console.source }) :
    (if event = .resumed then
        { rails with retryConsoles := false }.loadConsoles false
      else if event.stalesCatalog then
        rails.loadMissingConsoles
      else
        rails).consoleChain =
      if event = .resumed then
        refresher.consoleChain.retire true
      else if event.stalesCatalog && (refresher.consolePlatforms.isEmpty &&
          !refresher.retryConsoles) then
        refresher.consoleChain.load false
      else
        refresher.consoleChain := by
  have retrying : rails.retryConsoles = refresher.retryConsoles :=
    congrArg ConsoleChain.retrying chain
  split
  case isTrue resumed =>
      rw [if_pos resumed] at chain
      exact congrArg (fun chain => ConsoleChain.load
        { chain with retrying := false } false) chain
  case isFalse ordinary =>
      rw [if_neg ordinary] at chain
      cases event.stalesCatalog with
      | false => exact chain
      | true =>
          rw [if_pos rfl, consoleChain_loadMissingConsoles, platforms,
            retrying, chain, Bool.true_and]
          rfl

theorem consoleChain_hear
    (language : Language)
    (refresher : Refresher Version Rails) :
    (refresher.hear language).consoleChain =
      refresher.consoleChain.move (refresher.consoleMove .hear) := by
  unfold hear consoleMove
  cases refresher.feed with
  | nil => rfl
  | cons notice feed =>
      have consoles := consoles_daemonChanged language
        { refresher with
          feed := feed
          heardCatalog := if notice.event.stalesCatalog then
              max refresher.heardCatalog notice.catalogAge
            else refresher.heardCatalog
          heardRails := if notice.event.stalesCollections then
              max refresher.heardRails notice.railsAge
            else refresher.heardRails }
        notice.event
        (notice.event.stalesCatalog && !refresher.app.retryCatalog)
        notice.event.stalesCollections
      refine (consoleChain_daemonChanged_last refresher _ notice.event
        consoles.1 consoles.2).trans ?_
      dsimp only
      split
      case isTrue resumed => rfl
      case isFalse ordinary =>
          split
          case isTrue missing => rfl
          case isFalse there => rfl

theorem consoleChain_settleConsoles_ok
    (language : Language)
    (refresher : Refresher Version Rails)
    (index : Nat)
    (platforms : List (Int × String)) :
    (refresher.settleConsoles language index (.ok platforms)).consoleChain =
      refresher.consoleChain.succeed index := by
  unfold settleConsoles ConsoleChain.succeed
  cases found : refresher.consoleReads[index]? with
  | none =>
      rw [show refresher.consoleChain.reads[index]? = none from found]
  | some read =>
      rw [show refresher.consoleChain.reads[index]? = some _ from found]
      have stepped := consoleChain_stepApp_of_ordinary language
        { refresher with
          consoleReads := refresher.consoleReads.eraseIdx index }
        (.consolesLoaded read.source (.ok platforms)) rfl
      dsimp only
      unfold consolesLoaded
      dsimp only
      by_cases counts : read.source = refresher.app.console.source
      · rw [if_neg (not_not.mpr counts), if_pos (by exact counts)]
        exact congrArg (fun chain => { chain with retrying := false }) stepped
      · rw [if_pos counts, if_neg (by exact counts)]
        exact stepped

theorem consoleChain_settleConsoles_error
    (language : Language)
    (refresher : Refresher Version Rails)
    (index : Nat)
    (error : String) :
    (refresher.settleConsoles language index (.error error)).consoleChain =
      refresher.consoleChain.fail index := by
  unfold settleConsoles ConsoleChain.fail
  cases found : refresher.consoleReads[index]? with
  | none =>
      rw [show refresher.consoleChain.reads[index]? = none from found]
  | some read =>
      rw [show refresher.consoleChain.reads[index]? = some _ from found]
      have stepped := consoleChain_stepApp_of_ordinary language
        { refresher with
          consoleReads := refresher.consoleReads.eraseIdx index }
        (.consolesLoaded read.source (.error error)) rfl
      dsimp only
      unfold consolesLoaded
      dsimp only
      by_cases counts : read.source = refresher.app.console.source
      · rw [if_neg (not_not.mpr counts), if_pos (by exact counts)]
        exact congrArg (fun chain =>
          { chain with retrying := true }.load true) stepped
      · rw [if_pos counts, if_neg (by exact counts)]
        exact stepped

theorem consoleChain_collectionsLoaded
    (refresher : Refresher Version Rails)
    (request : Nat)
    (result : Except String Rails) :
    (refresher.collectionsLoaded request result).consoleChain =
      refresher.consoleChain := by
  unfold collectionsLoaded
  split
  case isTrue old => rfl
  case isFalse current =>
      cases result with
      | ok collections => rfl
      | error message => rfl

theorem consoleChain_message
    (language : Language)
    (refresher : Refresher Version Rails)
    (message : Message Version) :
    (refresher.message language message).consoleChain =
      refresher.consoleChain.move
        (refresher.consoleMove (.message message)) := by
  cases message with
  | catalogLoaded request result => rfl
  | consolesLoaded source result => rfl
  | daemonChanged event => rfl
  | openDashboard =>
      have stepped := consoleChain_stepApp_of_ordinary language refresher
        .openDashboard rfl
      have listed : (refresher.stepApp language
          .openDashboard).refreshCollections.consolePlatforms =
            refresher.consolePlatforms := by
        unfold refreshCollections
        split
        case isTrue retrying => rfl
        case isFalse free => rfl
      have chain := (consoleChain_refreshCollections _).trans stepped
      refine (consoleChain_loadMissingConsoles _).trans ?_
      rw [chain, listed, show (refresher.stepApp language
        .openDashboard).refreshCollections.retryConsoles =
          refresher.retryConsoles from congrArg ConsoleChain.retrying chain]
      change _ = refresher.consoleChain.move (if _ then _ else _)
      split
      case isTrue missing => rfl
      case isFalse there => rfl
  | restoreDashboard =>
      have stepped := consoleChain_stepApp language refresher
        .restoreDashboard
        (App.reads_update_restoreDashboard language refresher.app)
      have chain : (if refresher.app.retryCatalog then
            refresher.stepApp language .restoreDashboard
          else
            (refresher.stepApp language .restoreDashboard).sendCatalog
          ).consoleChain = refresher.consoleChain := by
        split
        case isTrue retrying => exact stepped
        case isFalse free => exact stepped
      change (refresher.restoreDashboard language).consoleChain =
        refresher.consoleChain.move (if _ then _ else _)
      unfold restoreDashboard
      dsimp only
      rw [show ∀ chained : Refresher Version Rails,
        chained.retryConsoles = chained.consoleChain.retrying from
          fun _ => rfl, chain]
      change (if refresher.retryConsoles = true then _ else _ :
        Refresher Version Rails).consoleChain = _
      split
      case isTrue retrying => exact chain
      case isFalse free =>
          exact congrArg (fun chain => ConsoleChain.load chain false) chain
  | rommConnectionChanged =>
      have stepped := consoleChain_stepApp language refresher
        .rommConnectionChanged
        (App.reads_update_rommConnectionChanged language refresher.app)
      change (refresher.rommConnectionChanged language).consoleChain =
        refresher.consoleChain.retire refresher.connected
      unfold rommConnectionChanged ConsoleChain.retire
      dsimp only
      change (if refresher.connected = true then _ else _ :
        Refresher Version Rails).consoleChain = _
      split
      case isTrue connected =>
          exact congrArg (fun chain => ConsoleChain.load
            { chain with retrying := false } false) stepped
      case isFalse alone =>
          exact congrArg (fun chain : ConsoleChain =>
            { chain with retrying := false }) stepped
  | _ => exact consoleChain_stepApp_of_ordinary language refresher _ rfl

/-- Every step is one operation on the reads of the console list. -/
theorem consoleChain_step
    (language : Language)
    (refresher : Refresher Version Rails)
    (step : RefreshStep Version Rails) :
    (refresher.step language step).consoleChain =
      refresher.consoleChain.move (refresher.consoleMove step) := by
  cases step with
  | message message => exact consoleChain_message language refresher message
  | dashboardTick =>
      change (if _ then _ else _ : Refresher Version Rails).consoleChain = _
      split
      case isTrue onDashboard =>
          exact consoleChain_refreshCollections refresher
      case isFalse elsewhere => rfl
  | reloadCollections => rfl
  | rommLoaded connected => rfl
  | changeCatalog entries event =>
      change (if _ then _ else _ : Refresher Version Rails).consoleChain = _
      split
      case isTrue stale => rfl
      case isFalse fresh => rfl
  | changeRails rails event =>
      change (if _ then _ else _ : Refresher Version Rails).consoleChain = _
      split
      case isTrue stale => rfl
      case isFalse fresh => rfl
  | announce event => rfl
  | hear => exact consoleChain_hear language refresher
  | readCatalog index => rfl
  | readRails index => rfl
  | catalogAnswered index =>
      change (refresher.answerCatalog language index).consoleChain = _
      unfold answerCatalog
      split
      case h_2 => rfl
      case h_1 request entries age found =>
          exact consoleChain_stepApp_catalogLoaded language _ request _
  | catalogFailed index error =>
      change (refresher.failCatalog language index error).consoleChain = _
      unfold failCatalog
      split
      case h_2 => rfl
      case h_1 read found =>
          have stepped := consoleChain_stepApp_catalogLoaded language
            { refresher with
              catalogReads := refresher.catalogReads.eraseIdx index }
            read.request (.error error)
          unfold catalogFailed
          dsimp only
          split
          case isTrue latest => exact stepped
          case isFalse old => exact stepped
  | railsAnswered index =>
      change (refresher.answerRails index).consoleChain = _
      unfold answerRails
      split
      case h_2 => rfl
      case h_1 request rails age found =>
          exact consoleChain_collectionsLoaded _ request (.ok rails)
  | railsFailed index error =>
      change (refresher.failRails index error).consoleChain = _
      unfold failRails
      split
      case h_2 => rfl
      case h_1 read found =>
          exact consoleChain_collectionsLoaded _ read.request (.error error)
  | consolesAnswered index platforms =>
      exact consoleChain_settleConsoles_ok language refresher index platforms
  | consolesFailed index error =>
      exact consoleChain_settleConsoles_error language refresher index error

/-! ## One chain for each -/

/-- A read of the console list that counts fails while another read of it that
counts is repeated. -/
def DoublesConsoles
    (refresher : Refresher Version Rails) : RefreshStep Version Rails → Prop
  | .consolesFailed index _ =>
      ∃ read, refresher.consoleReads[index]? = some read ∧
        read.source = refresher.app.console.source ∧
        ∃ other ∈ refresher.consoleReads.eraseIdx index,
          other.retry = true ∧ other.source = refresher.app.console.source
  | _ => False

/-- The number of retries of the console list on their way that count. -/
def consoleRetries (refresher : Refresher Version Rails) : Nat :=
  refresher.consoleReads.countP fun read =>
    read.retry && read.source == refresher.app.console.source

theorem consolesFailed_of_consoleMove
    {refresher : Refresher Version Rails}
    {step : RefreshStep Version Rails}
    {index : Nat}
    (fails : refresher.consoleMove step = .fail index) :
    ∃ error, step = .consolesFailed index error := by
  unfold consoleMove at fails
  split at fails
  case h_1 =>
      split at fails
      case isTrue => cases fails
      case isFalse => cases fails
  case h_2 =>
      split at fails
      case isTrue => cases fails
      case isFalse => cases fails
  case h_3 => cases fails
  case h_4 =>
      split at fails
      case h_1 => cases fails
      case h_2 notice feed waiting =>
          split at fails
          case isTrue resumed => cases fails
          case isFalse ordinary =>
              split at fails
              case isTrue => cases fails
              case isFalse => cases fails
  case h_5 => cases fails
  case h_6 failed error =>
      cases fails
      exact ⟨error, rfl⟩
  case h_7 => cases fails

theorem doublesConsoles_of_doubles
    {refresher : Refresher Version Rails}
    {step : RefreshStep Version Rails}
    (doubles : refresher.consoleChain.Doubles (refresher.consoleMove step)) :
    refresher.DoublesConsoles step := by
  cases moved : refresher.consoleMove step with
  | stay =>
      rw [moved] at doubles
      exact doubles.elim
  | load =>
      rw [moved] at doubles
      exact doubles.elim
  | retire loads =>
      rw [moved] at doubles
      exact doubles.elim
  | succeed index =>
      rw [moved] at doubles
      exact doubles.elim
  | fail index =>
      rw [moved] at doubles
      obtain ⟨error, rfl⟩ := consolesFailed_of_consoleMove moved
      obtain ⟨read, found, counts, other, member, repeated⟩ := doubles
      have parts := Bool.and_eq_true_iff.mp repeated
      exact ⟨read, found, counts, other, member, parts.1,
        beq_iff_eq.mp parts.2⟩

theorem catalogAnswered_of_catalogMove
    {refresher : Refresher Version Rails}
    {step : RefreshStep Version Rails}
    {index : Nat}
    (answers : refresher.catalogMove step = .succeed index) :
    step = .catalogAnswered index := by
  unfold catalogMove at answers
  split at answers
  case h_7 =>
      cases answers
      rfl
  all_goals first | cases answers | (split at answers <;> cases answers) |
    (split at answers <;> first | cases answers |
      (split at answers <;> cases answers))

theorem railsAnswered_of_railsMove
    {refresher : Refresher Version Rails}
    {step : RefreshStep Version Rails}
    {index : Nat}
    (answers : refresher.railsMove step = .succeed index) :
    step = .railsAnswered index := by
  unfold railsMove at answers
  split at answers
  case h_9 =>
      cases answers
      rfl
  all_goals first | cases answers | (split at answers <;> cases answers) |
    (split at answers <;> first | cases answers |
      (split at answers <;> cases answers))

/-- The reads at start. -/
theorem single_start
    (config : AppLibraryConfig)
    (catalog : List LibraryItem)
    (nothing rails : Rails) :
    (start config catalog nothing rails :
      Refresher Version Rails).consoleChain.Single where
  bounded := by
    intro read member
    rw [List.mem_singleton.mp member]
    exact Nat.le_refl 0
  one := Nat.zero_le 1
  waits := by
    intro retrying
    cases retrying

/-- One chain of retries for each of the three.  In every run in which no
console list read fails while another one is repeated:  of the catalog reads
on their way, and of the collection reads, at most one counts;  of the console
list reads at most one retry counts;  a flag is set only while a read that
counts is on its way;  and only the answer of the latest read replaces the
catalog or the collections. -/
theorem one_retry_chain
    (language : Language)
    (config : AppLibraryConfig)
    (catalog : List LibraryItem)
    (nothing rails : Rails)
    (steps : List (RefreshStep Version Rails))
    (along : (machine language config catalog nothing rails).Along
      (fun refresher step => ¬ refresher.DoublesConsoles step) steps) :
    let refresher := (machine language config catalog nothing rails).run steps
    ((refresher.catalogReads.map Flight.request).count
        refresher.app.catalogRequest ≤ 1 ∧
      (refresher.collectionReads.map Flight.request).count
        refresher.collectionsRequest ≤ 1 ∧
      refresher.consoleRetries ≤ 1) ∧
    ((refresher.app.retryCatalog = true → refresher.app.catalogRequest ∈
        refresher.catalogReads.map Flight.request) ∧
      (refresher.retryCollections = true → refresher.collectionsRequest ∈
        refresher.collectionReads.map Flight.request) ∧
      (refresher.retryConsoles = true → ∃ read ∈ refresher.consoleReads,
        read.source = refresher.app.console.source)) ∧
    ∀ step,
      ((refresher.step language step).app.catalog.source ≠
          refresher.app.catalog.source →
        ∃ index age, step = .catalogAnswered index ∧
          refresher.catalogReads[index]? =
            some ⟨refresher.app.catalogRequest, some
              ((refresher.step language step).app.catalog.source, age)⟩) ∧
      ((refresher.step language step).collections ≠ refresher.collections →
        ∃ index age, step = .railsAnswered index ∧
          refresher.collectionReads[index]? =
            some ⟨refresher.collectionsRequest, some
              ((refresher.step language step).collections, age)⟩) := by
  intro refresher
  obtain ⟨first, second, single⟩ : refresher.catalogMirror.Chained ∧
      refresher.railsMirror.Chained ∧ refresher.consoleChain.Single := by
    apply (machine language config catalog nothing rails).run_induction_along
      _ (fun refresher => refresher.catalogMirror.Chained ∧
        refresher.railsMirror.Chained ∧ refresher.consoleChain.Single)
      _ _ steps along
    · exact ⟨(current_first catalog _).chained,
        (current_first rails nothing).chained,
        single_start config catalog nothing rails⟩
    · intro refresher step kept alone
      change (refresher.step language step).catalogMirror.Chained ∧
        (refresher.step language step).railsMirror.Chained ∧
        (refresher.step language step).consoleChain.Single
      rw [catalogMirror_step, railsMirror_step, consoleChain_step]
      exact ⟨kept.1.move _, kept.2.1.move _, kept.2.2.move _ fun doubles =>
        alone (doublesConsoles_of_doubles doubles)⟩
  refine ⟨⟨first.count_le_one _, second.count_le_one _, single.one⟩,
    ⟨first.waits, second.waits, ?_⟩, ?_⟩
  · intro retrying
    obtain ⟨read, member, repeated⟩ := single.waits retrying
    exact ⟨read, member, beq_iff_eq.mp (Bool.and_eq_true_iff.mp repeated).2⟩
  · intro step
    constructor
    · intro replaced
      have simulated := catalogMirror_step language refresher step
      obtain ⟨index, entries, age, answers, found, held⟩ :=
        refresher.catalogMirror.held_move (refresher.catalogMove step) (by
          rw [← simulated]
          exact replaced)
      refine ⟨index, age, catalogAnswered_of_catalogMove answers, ?_⟩
      rw [← simulated] at held
      rw [show (refresher.step language step).app.catalog.source = entries
        from held]
      exact found
    · intro replaced
      have simulated := railsMirror_step language refresher step
      obtain ⟨index, collections, age, answers, found, held⟩ :=
        refresher.railsMirror.held_move (refresher.railsMove step) (by
          rw [← simulated]
          exact replaced)
      refine ⟨index, age, railsAnswered_of_railsMove answers, ?_⟩
      rw [← simulated] at held
      rw [show (refresher.step language step).collections = collections
        from held]
      exact found

/-- The first reads of all three fail, and so do the first retries. -/
def failingStart : List (RefreshStep Unit Nat) :=
  [.catalogFailed 0 "refused",
    .railsFailed 0 "refused",
    .consolesFailed 0 "refused",
    .dashboardTick,
    .message .restoreDashboard,
    .announce (.changed .libraryChanged),
    .hear,
    .catalogFailed 0 "refused",
    .consolesFailed 0 "refused"]

theorem one_retry_chain_failing :
    plain.Along (fun refresher step => ¬ refresher.DoublesConsoles step)
        failingStart ∧
      let refresher := plain.run failingStart
      ((refresher.catalogReads.map Flight.request).count
          refresher.app.catalogRequest ≤ 1 ∧
        (refresher.collectionReads.map Flight.request).count
          refresher.collectionsRequest ≤ 1 ∧
        refresher.consoleRetries ≤ 1) ∧
      ((refresher.app.retryCatalog = true → refresher.app.catalogRequest ∈
          refresher.catalogReads.map Flight.request) ∧
        (refresher.retryCollections = true → refresher.collectionsRequest ∈
          refresher.collectionReads.map Flight.request) ∧
        (refresher.retryConsoles = true → ∃ read ∈ refresher.consoleReads,
          read.source = refresher.app.console.source)) := by
  have along : plain.Along
      (fun refresher step => ¬ refresher.DoublesConsoles step)
      failingStart := by
    apply Machine.along_of_alongFrom
    refine ⟨id, id, ?_, id, id, id, id, id, ?_, trivial⟩
    · rintro ⟨read, -, -, other, member, -⟩
      cases member
    · rintro ⟨read, -, -, other, member, -⟩
      cases member
  have chains := one_retry_chain .ascii _ [] 0 1 _ along
  exact ⟨along, chains.1, chains.2.1⟩

/-- Before the first read of the console list is answered, an event begins
another; both fail, and both are repeated. -/
theorem consoles_have_two_retry_chains :
    let refresher := plain.run
      [.announce (.changed .libraryChanged),
        .hear,
        .consolesFailed 0 "refused",
        .consolesFailed 0 "refused"]
    refresher.consoleReads = [⟨0, true⟩, ⟨0, true⟩] ∧
      refresher.app.console.source = 0 ∧
      refresher.consoleRetries = 2 := by
  refine ⟨?_, ?_, ?_⟩
  all_goals rfl

end Refresher

end Frontend
end Hearthdeck
