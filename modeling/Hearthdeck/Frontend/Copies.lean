import Hearthdeck.Frontend.Refresh

/-!
# The shell's copies of the daemon's data

The catalog and the collections are each kept as a copy by notices and
numbered reads.  Every step of the shell is, for either of them, one operation
on such a copy.
-/

namespace Hearthdeck
namespace Frontend

open Foundation

variable {Version Rails : Type}

theorem FeedEvent.stalesCollections_of_stalesCatalog
    (event : FeedEvent)
    (stale : event.stalesCatalog = true) :
    event.stalesCollections = true := by
  cases event with
  | resumed => rfl
  | changed event =>
      cases event with
      | libraryChanged => rfl
      | metadataChanged => rfl
      | categorizationChanged => rfl
      | applicationSessionChanged => rfl
      | unknown => cases stale

namespace Refresher

/-- The notices among the events of a feed, by the age they tell of. -/
def noticesOf
    (stales : FeedEvent → Bool)
    (age : FeedNotice → Nat)
    (feed : List FeedNotice) : List Nat :=
  (feed.filter fun notice => stales notice.event).map age

theorem noticesOf_cons
    (stales : FeedEvent → Bool)
    (age : FeedNotice → Nat)
    (notice : FeedNotice)
    (feed : List FeedNotice) :
    noticesOf stales age (notice :: feed) =
      if stales notice.event then age notice :: noticesOf stales age feed
      else noticesOf stales age feed := by
  unfold noticesOf
  rw [List.filter_cons]
  split
  case isTrue stale => rw [List.map_cons]
  case isFalse fresh => rfl

theorem noticesOf_concat
    (stales : FeedEvent → Bool)
    (age : FeedNotice → Nat)
    (feed : List FeedNotice)
    (notice : FeedNotice) :
    noticesOf stales age (feed ++ [notice]) =
      if stales notice.event then noticesOf stales age feed ++ [age notice]
      else noticesOf stales age feed := by
  induction feed with
  | nil => exact noticesOf_cons stales age notice []
  | cons first feed inductionHypothesis =>
      rw [List.cons_append, noticesOf_cons, noticesOf_cons,
        inductionHypothesis]
      split
      case isTrue stale =>
          split
          case isTrue staleLast => rw [List.cons_append]
          case isFalse freshLast => rfl
      case isFalse fresh => rfl

/-- The first notice is the first event's, if that makes the copy stale. -/
theorem notice_of_waiting
    {stales : FeedEvent → Bool}
    {age : FeedNotice → Nat}
    {feed later : List FeedNotice}
    {notice : FeedNotice}
    (waiting : feed = notice :: later)
    (stale : stales notice.event = true)
    {told : Nat}
    {ages : List Nat}
    (notices : noticesOf stales age feed = told :: ages) :
    told = age notice := by
  rw [waiting, noticesOf_cons, if_pos stale] at notices
  exact (List.cons.inj notices).1.symm

/-! ## The catalog -/

/-- The catalog as a copy. -/
def catalogMirror
    (refresher : Refresher Version Rails) : Mirror (List LibraryItem) where
  value := refresher.catalog
  age := refresher.catalogAge
  notices := noticesOf FeedEvent.stalesCatalog FeedNotice.catalogAge
    refresher.feed
  heard := refresher.heardCatalog
  latest := refresher.app.reads.request
  retrying := refresher.app.reads.retrying
  flights := refresher.catalogReads
  held := refresher.app.reads.records
  heldAge := refresher.catalogHeldAge

/-- What a step is for the catalog. -/
def catalogMove
    (refresher : Refresher Version Rails) :
    RefreshStep Version Rails → Mirror.Move (List LibraryItem)
  | .message .restoreDashboard => .refresh
  | .changeCatalog entries event =>
      if event.stalesCatalog then .change entries else .stay
  | .changeRails _ event =>
      if event.stalesCatalog then .announce else .stay
  | .announce event => if event.stalesCatalog then .announce else .stay
  | .hear =>
      match refresher.feed with
      | [] => .stay
      | notice :: _ => if notice.event.stalesCatalog then .hear else .stay
  | .readCatalog index => .readAt index
  | .catalogAnswered index => .succeed index
  | .catalogFailed index _ => .fail index
  | _ => .stay

theorem catalogMirror_refreshCollections
    (refresher : Refresher Version Rails) :
    refresher.refreshCollections.catalogMirror = refresher.catalogMirror := by
  unfold refreshCollections
  split
  case isTrue retrying => rfl
  case isFalse free => rfl

theorem catalogMirror_loadMissingConsoles
    (refresher : Refresher Version Rails) :
    refresher.loadMissingConsoles.catalogMirror =
      refresher.catalogMirror := by
  unfold loadMissingConsoles
  split
  case isTrue missing => rfl
  case isFalse there => rfl

/-- What the library does to the copy, once its effect on the reads is
known. -/
theorem catalogMirror_stepApp
    (language : Language)
    (refresher : Refresher Version Rails)
    (message : Message Version)
    {reads : Reads}
    (stepped : (refresher.app.update language message).reads = reads) :
    (refresher.stepApp language message).catalogMirror =
      { refresher.catalogMirror with
        latest := reads.request
        retrying := reads.retrying
        held := reads.records } := by
  subst stepped
  rfl

theorem catalogMirror_stepApp_of_ordinary
    (language : Language)
    (refresher : Refresher Version Rails)
    (message : Message Version)
    (ordinary : message.isOrdinary = true) :
    (refresher.stepApp language message).catalogMirror =
      refresher.catalogMirror :=
  catalogMirror_stepApp language refresher message
    (App.reads_update_of_ordinary language refresher.app message ordinary)

/-- A read of the catalog unless one is repeated: the library numbers it, and
it is sent. -/
theorem catalogMirror_refresh
    (refresher stepped : Refresher Version Rails)
    (numbered : stepped.catalogMirror =
      { refresher.catalogMirror with
        latest := if refresher.app.retryCatalog then
            refresher.app.catalogRequest
          else refresher.app.catalogRequest + 1 }) :
    (if refresher.app.retryCatalog then stepped
      else stepped.sendCatalog).catalogMirror =
      refresher.catalogMirror.refresh := by
  unfold Mirror.refresh
  change _ = if refresher.app.retryCatalog = true then _ else _
  split at numbered
  case isTrue retrying =>
      rw [if_pos retrying, if_pos retrying]
      exact numbered
  case isFalse free =>
      rw [if_neg free, if_neg free]
      have flights : stepped.catalogReads = refresher.catalogReads :=
        congrArg Mirror.flights numbered
      have latest : stepped.app.catalogRequest =
          refresher.app.catalogRequest + 1 :=
        congrArg Mirror.latest numbered
      change { stepped.catalogMirror with
        flights := stepped.catalogReads ++
          [Flight.sent stepped.app.catalogRequest] } = _
      rw [numbered, flights, latest]
      rfl

theorem catalogMirror_daemonChanged
    (language : Language)
    (refresher : Refresher Version Rails)
    (event : FeedEvent) :
    (refresher.daemonChanged language event).catalogMirror =
      if event.stalesCatalog then refresher.catalogMirror.refresh
      else refresher.catalogMirror := by
  -- Everything after the read of the catalog leaves it alone.
  have later : ∀ catalog : Refresher Version Rails,
      (if event = .resumed then
          { (if event.stalesCollections then catalog.refreshCollections
            else catalog) with retryConsoles := false }.loadConsoles false
        else if event.stalesCatalog then
          (if event.stalesCollections then catalog.refreshCollections
            else catalog).loadMissingConsoles
        else
          (if event.stalesCollections then catalog.refreshCollections
            else catalog)).catalogMirror = catalog.catalogMirror := by
    intro catalog
    have rails : (if event.stalesCollections then catalog.refreshCollections
        else catalog).catalogMirror = catalog.catalogMirror := by
      split
      case isTrue stale => exact catalogMirror_refreshCollections catalog
      case isFalse fresh => rfl
    split
    case isTrue resumed => exact rails
    case isFalse ordinary =>
        split
        case isTrue stale =>
            exact (catalogMirror_loadMissingConsoles _).trans rails
        case isFalse fresh => exact rails
  have stepped := catalogMirror_stepApp language refresher
    (.daemonChanged event)
    (App.reads_update_daemonChanged language refresher.app event)
  refine (later _).trans ?_
  cases stale : event.stalesCatalog with
  | false =>
      simp only [stale, Bool.false_and, Bool.false_eq_true, if_false]
        at stepped ⊢
      exact stepped
  | true =>
      rw [if_pos rfl, ← catalogMirror_refresh refresher
        (refresher.stepApp language (.daemonChanged event))]
      · cases refresher.app.retryCatalog with
        | false => rfl
        | true => rfl
      · rw [stepped, stale]
        cases refresher.app.retryCatalog with
        | false => rfl
        | true => rfl

theorem catalogMirror_restoreDashboard
    (language : Language)
    (refresher : Refresher Version Rails) :
    (refresher.restoreDashboard language).catalogMirror =
      refresher.catalogMirror.refresh := by
  rw [← catalogMirror_refresh refresher
    (refresher.stepApp language .restoreDashboard)
    (catalogMirror_stepApp language refresher .restoreDashboard
      (App.reads_update_restoreDashboard language refresher.app))]
  unfold restoreDashboard
  dsimp only
  generalize (if refresher.app.retryCatalog then
    refresher.stepApp language .restoreDashboard else
    (refresher.stepApp language .restoreDashboard).sendCatalog) = catalog
  split
  case isTrue retrying => rfl
  case isFalse free => rfl

theorem catalogMirror_rommConnectionChanged
    (language : Language)
    (refresher : Refresher Version Rails) :
    (refresher.rommConnectionChanged language).catalogMirror =
      refresher.catalogMirror := by
  have stepped := catalogMirror_stepApp language refresher
    .rommConnectionChanged
    (App.reads_update_rommConnectionChanged language refresher.app)
  unfold rommConnectionChanged
  dsimp only
  split
  case isTrue connected => exact stepped
  case isFalse alone => exact stepped

theorem catalogMirror_consolesLoaded
    (language : Language)
    (refresher : Refresher Version Rails)
    (source : Nat)
    (result : Except String (List (Int × String))) :
    (refresher.consolesLoaded language source result).catalogMirror =
      refresher.catalogMirror := by
  have stepped := catalogMirror_stepApp_of_ordinary language refresher
    (.consolesLoaded source result) rfl
  unfold consolesLoaded
  dsimp only
  split
  case isTrue old => exact stepped
  case isFalse current =>
      cases result with
      | ok platforms => exact stepped
      | error message => exact stepped

theorem catalogMirror_settleConsoles
    (language : Language)
    (refresher : Refresher Version Rails)
    (index : Nat)
    (result : Except String (List (Int × String))) :
    (refresher.settleConsoles language index result).catalogMirror =
      refresher.catalogMirror := by
  unfold settleConsoles
  split
  case h_1 read found =>
      exact catalogMirror_consolesLoaded language _ read.source result
  case h_2 => rfl

theorem catalogMirror_collectionsLoaded
    (refresher : Refresher Version Rails)
    (request : Nat)
    (result : Except String Rails) :
    (refresher.collectionsLoaded request result).catalogMirror =
      refresher.catalogMirror := by
  unfold collectionsLoaded
  split
  case isTrue old => rfl
  case isFalse current =>
      cases result with
      | ok collections => rfl
      | error message => rfl

theorem catalogMirror_message
    (language : Language)
    (refresher : Refresher Version Rails)
    (message : Message Version) :
    (refresher.message language message).catalogMirror =
      refresher.catalogMirror.move
        (refresher.catalogMove (.message message)) := by
  cases message with
  | catalogLoaded request result => rfl
  | consolesLoaded source result => rfl
  | daemonChanged event => rfl
  | openDashboard =>
      refine (catalogMirror_loadMissingConsoles _).trans ?_
      refine (catalogMirror_refreshCollections _).trans ?_
      exact catalogMirror_stepApp_of_ordinary language refresher _ rfl
  | restoreDashboard =>
      exact catalogMirror_restoreDashboard language refresher
  | rommConnectionChanged =>
      exact catalogMirror_rommConnectionChanged language refresher
  | _ => exact catalogMirror_stepApp_of_ordinary language refresher _ rfl

theorem catalogMirror_notify
    (refresher : Refresher Version Rails)
    (event : FeedEvent) :
    (refresher.notify event).catalogMirror =
      if event.stalesCatalog then refresher.catalogMirror.announce
      else refresher.catalogMirror := by
  have notices := noticesOf_concat FeedEvent.stalesCatalog
    FeedNotice.catalogAge refresher.feed
    ⟨event, refresher.catalogAge, refresher.railsAge⟩
  change { refresher.catalogMirror with
    notices := (refresher.notify event).catalogMirror.notices } = _
  rw [show (refresher.notify event).catalogMirror.notices = _ from notices]
  dsimp only
  split
  case isTrue stale => rfl
  case isFalse fresh => rfl

theorem catalogMirror_hear
    (language : Language)
    (refresher : Refresher Version Rails) :
    (refresher.hear language).catalogMirror =
      refresher.catalogMirror.move (refresher.catalogMove .hear) := by
  unfold hear catalogMove
  cases waiting : refresher.feed with
  | nil => rfl
  | cons notice feed =>
      have notices : refresher.catalogMirror.notices =
          noticesOf FeedEvent.stalesCatalog FeedNotice.catalogAge
            (notice :: feed) := by
        change noticesOf _ _ refresher.feed = _
        rw [waiting]
      rw [noticesOf_cons] at notices
      dsimp only
      rw [catalogMirror_daemonChanged]
      split
      case isFalse fresh =>
          rw [if_neg fresh] at notices
          change { refresher.catalogMirror with
            notices := noticesOf FeedEvent.stalesCatalog
              FeedNotice.catalogAge feed } = refresher.catalogMirror
          rw [← notices]
      case isTrue stale =>
          rw [if_pos stale] at notices
          change _ = refresher.catalogMirror.hear
          unfold Mirror.hear
          rw [notices]
          rfl

theorem catalogMirror_answerCatalog
    (language : Language)
    (refresher : Refresher Version Rails)
    (index : Nat) :
    (refresher.answerCatalog language index).catalogMirror =
      refresher.catalogMirror.succeed index := by
  unfold answerCatalog Mirror.succeed
  rcases found : refresher.catalogReads[index]? with
    _ | ⟨request, _ | ⟨entries, age⟩⟩
  · rw [show refresher.catalogMirror.flights[index]? = none from found]
  · rw [show refresher.catalogMirror.flights[index]? = some _ from found]
  · rw [show refresher.catalogMirror.flights[index]? = some _ from found]
    dsimp only
    by_cases latest : request = refresher.app.catalogRequest
    · subst latest
      refine (catalogMirror_stepApp language _ _ (by
        exact App.reads_update_catalogLoaded_ok language refresher.app
          entries)).trans ?_
      rw [if_pos rfl, if_pos (by rfl)]
      rfl
    · refine (catalogMirror_stepApp language _ _ (by
        exact App.reads_update_catalogLoaded_old language refresher.app
          request (.ok entries) latest)).trans ?_
      rw [if_neg latest, if_neg (by exact latest)]
      rfl

theorem catalogMirror_failCatalog
    (language : Language)
    (refresher : Refresher Version Rails)
    (index : Nat)
    (error : String) :
    (refresher.failCatalog language index error).catalogMirror =
      refresher.catalogMirror.fail index := by
  unfold failCatalog Mirror.fail
  cases found : refresher.catalogReads[index]? with
  | none =>
      rw [show refresher.catalogMirror.flights[index]? = none from found]
  | some flight =>
      rw [show refresher.catalogMirror.flights[index]? = some _ from found]
      dsimp only
      unfold catalogFailed
      dsimp only
      by_cases latest : flight.request = refresher.app.catalogRequest
      · have reads := App.reads_update_catalogLoaded_error language
          refresher.app error
        have numbered : (refresher.app.update language (.catalogLoaded
            refresher.app.catalogRequest (.error error))).catalogRequest =
              refresher.app.catalogRequest + 1 :=
          congrArg Reads.request reads
        have stepped := catalogMirror_stepApp language
          { refresher with
            catalogReads := refresher.catalogReads.eraseIdx index } _ reads
        rw [if_pos latest, if_pos (by exact latest), latest]
        refine Eq.trans (congrArg (fun mirror => { mirror with
          flights := refresher.catalogReads.eraseIdx index ++
            [Flight.sent (refresher.app.update language (.catalogLoaded
              refresher.app.catalogRequest (.error error))).catalogRequest]
          }) stepped) ?_
        rw [numbered]
        rfl
      · rw [if_neg latest, if_neg (by exact latest)]
        exact catalogMirror_stepApp language _ _ (by
          exact App.reads_update_catalogLoaded_old language refresher.app
            flight.request (.error error) latest)

/-- Every step is one operation on the copy of the catalog. -/
theorem catalogMirror_step
    (language : Language)
    (refresher : Refresher Version Rails)
    (step : RefreshStep Version Rails) :
    (refresher.step language step).catalogMirror =
      refresher.catalogMirror.move (refresher.catalogMove step) := by
  cases step with
  | message message => exact catalogMirror_message language refresher message
  | dashboardTick =>
      change (if _ then _ else _ : Refresher Version Rails).catalogMirror = _
      split
      case isTrue onDashboard =>
          exact catalogMirror_refreshCollections refresher
      case isFalse elsewhere => rfl
  | reloadCollections => rfl
  | rommLoaded connected => rfl
  | changeCatalog entries event =>
      change (if _ then _ else _ : Refresher Version Rails).catalogMirror =
        refresher.catalogMirror.move (if _ then _ else _)
      split
      case isTrue stale =>
          rw [catalogMirror_notify, if_pos stale]
          rfl
      case isFalse fresh => rfl
  | changeRails rails event =>
      change (if _ then _ else _ : Refresher Version Rails).catalogMirror =
        refresher.catalogMirror.move (if _ then _ else _)
      by_cases stale : event.stalesCatalog = true
      · rw [if_pos (event.stalesCollections_of_stalesCatalog stale),
          if_pos stale, catalogMirror_notify, if_pos stale]
        rfl
      · rw [if_neg stale]
        split
        case isTrue moved =>
            rw [catalogMirror_notify, if_neg stale]
            rfl
        case isFalse still => rfl
  | announce event =>
      refine (catalogMirror_notify refresher event).trans ?_
      change _ = refresher.catalogMirror.move (if _ then _ else _)
      split
      case isTrue stale => rfl
      case isFalse fresh => rfl
  | hear => exact catalogMirror_hear language refresher
  | readCatalog index => rfl
  | readRails index => rfl
  | catalogAnswered index =>
      exact catalogMirror_answerCatalog language refresher index
  | catalogFailed index error =>
      exact catalogMirror_failCatalog language refresher index error
  | railsAnswered index =>
      change (refresher.answerRails index).catalogMirror = _
      unfold answerRails
      split
      case h_1 request rails age found =>
          exact catalogMirror_collectionsLoaded _ request (.ok rails)
      case h_2 => rfl
  | railsFailed index error =>
      change (refresher.failRails index error).catalogMirror = _
      unfold failRails
      split
      case h_1 read found =>
          exact catalogMirror_collectionsLoaded _ read.request (.error error)
      case h_2 => rfl
  | consolesAnswered index platforms =>
      exact catalogMirror_settleConsoles language refresher index _
  | consolesFailed index error =>
      exact catalogMirror_settleConsoles language refresher index _

/-! ## The collections -/

/-- The collections as a copy. -/
def railsMirror
    (refresher : Refresher Version Rails) : Mirror Rails where
  value := refresher.rails
  age := refresher.railsAge
  notices := noticesOf FeedEvent.stalesCollections FeedNotice.railsAge
    refresher.feed
  heard := refresher.heardRails
  latest := refresher.collectionsRequest
  retrying := refresher.retryCollections
  flights := refresher.collectionReads
  held := refresher.collections
  heldAge := refresher.railsHeldAge

/-- What a step is for the collections. -/
def railsMove
    (refresher : Refresher Version Rails) :
    RefreshStep Version Rails → Mirror.Move Rails
  | .message .openDashboard => .refresh
  | .dashboardTick =>
      if refresher.app.page = .dashboard then .refresh else .stay
  | .reloadCollections => .begin
  | .changeCatalog _ event =>
      if event.stalesCatalog then .announce else .stay
  | .changeRails rails event =>
      if event.stalesCollections then .change rails else .stay
  | .announce event => if event.stalesCollections then .announce else .stay
  | .hear =>
      match refresher.feed with
      | [] => .stay
      | notice :: _ =>
          if notice.event.stalesCollections then .hear else .stay
  | .readRails index => .readAt index
  | .railsAnswered index => .succeed index
  | .railsFailed index _ => .fail index
  | _ => .stay

theorem railsMirror_refreshCollections
    (refresher : Refresher Version Rails) :
    refresher.refreshCollections.railsMirror =
      refresher.railsMirror.refresh := by
  unfold refreshCollections Mirror.refresh
  change _ = if refresher.retryCollections = true then _ else _
  split
  case isTrue retrying => rfl
  case isFalse free => rfl

theorem railsMirror_loadMissingConsoles
    (refresher : Refresher Version Rails) :
    refresher.loadMissingConsoles.railsMirror = refresher.railsMirror := by
  unfold loadMissingConsoles
  split
  case isTrue missing => rfl
  case isFalse there => rfl

theorem railsMirror_daemonChanged
    (language : Language)
    (refresher : Refresher Version Rails)
    (event : FeedEvent) :
    (refresher.daemonChanged language event).railsMirror =
      if event.stalesCollections then refresher.railsMirror.refresh
      else refresher.railsMirror := by
  -- The read of the catalog comes first and leaves the collections alone.
  have catalog : ∀ guard : Bool,
      (if guard then
          (refresher.stepApp language (.daemonChanged event)).sendCatalog
        else
          refresher.stepApp language (.daemonChanged event)).railsMirror =
        refresher.railsMirror := by
    intro guard
    cases guard with
    | false => rfl
    | true => rfl
  have rails : ∀ guard : Bool,
      (if event.stalesCollections then
          (if guard then
            (refresher.stepApp language (.daemonChanged event)).sendCatalog
          else
            refresher.stepApp language
              (.daemonChanged event)).refreshCollections
        else
          (if guard then
            (refresher.stepApp language (.daemonChanged event)).sendCatalog
          else
            refresher.stepApp language
              (.daemonChanged event))).railsMirror =
        if event.stalesCollections then refresher.railsMirror.refresh
        else refresher.railsMirror := by
    intro guard
    split
    case isTrue stale => rw [railsMirror_refreshCollections, catalog guard]
    case isFalse fresh => exact catalog guard
  unfold daemonChanged
  dsimp only
  split
  case isTrue resumed => exact rails _
  case isFalse ordinary =>
      split
      case isTrue stale =>
          exact (railsMirror_loadMissingConsoles _).trans (rails _)
      case isFalse fresh => exact rails _

theorem railsMirror_restoreDashboard
    (language : Language)
    (refresher : Refresher Version Rails) :
    (refresher.restoreDashboard language).railsMirror =
      refresher.railsMirror := by
  have catalog : (if refresher.app.retryCatalog then
        refresher.stepApp language .restoreDashboard
      else
        (refresher.stepApp language .restoreDashboard).sendCatalog
      ).railsMirror = refresher.railsMirror := by
    split
    case isTrue retrying => rfl
    case isFalse free => rfl
  unfold restoreDashboard
  dsimp only
  rw [← catalog]
  generalize (if refresher.app.retryCatalog then
    refresher.stepApp language .restoreDashboard else
    (refresher.stepApp language .restoreDashboard).sendCatalog) = stepped
  split
  case isTrue retrying => rfl
  case isFalse free => rfl

theorem railsMirror_rommConnectionChanged
    (language : Language)
    (refresher : Refresher Version Rails) :
    (refresher.rommConnectionChanged language).railsMirror =
      refresher.railsMirror := by
  unfold rommConnectionChanged
  dsimp only
  split
  case isTrue connected => rfl
  case isFalse alone => rfl

theorem railsMirror_settleConsoles
    (language : Language)
    (refresher : Refresher Version Rails)
    (index : Nat)
    (result : Except String (List (Int × String))) :
    (refresher.settleConsoles language index result).railsMirror =
      refresher.railsMirror := by
  unfold settleConsoles
  split
  case h_2 => rfl
  case h_1 read found =>
      unfold consolesLoaded
      dsimp only
      split
      case isTrue old => rfl
      case isFalse current =>
          cases result with
          | ok platforms => rfl
          | error message => rfl

theorem railsMirror_stepApp
    (language : Language)
    (refresher : Refresher Version Rails)
    (message : Message Version) :
    (refresher.stepApp language message).railsMirror =
      refresher.railsMirror := rfl

theorem railsMirror_message
    (language : Language)
    (refresher : Refresher Version Rails)
    (message : Message Version) :
    (refresher.message language message).railsMirror =
      refresher.railsMirror.move (refresher.railsMove (.message message)) := by
  cases message with
  | openDashboard =>
      refine (railsMirror_loadMissingConsoles _).trans ?_
      exact railsMirror_refreshCollections _
  | restoreDashboard => exact railsMirror_restoreDashboard language refresher
  | rommConnectionChanged =>
      exact railsMirror_rommConnectionChanged language refresher
  | catalogLoaded request result => rfl
  | consolesLoaded source result => rfl
  | daemonChanged event => rfl
  | _ => exact railsMirror_stepApp language refresher _

theorem railsMirror_notify
    (refresher : Refresher Version Rails)
    (event : FeedEvent) :
    (refresher.notify event).railsMirror =
      if event.stalesCollections then refresher.railsMirror.announce
      else refresher.railsMirror := by
  have notices := noticesOf_concat FeedEvent.stalesCollections
    FeedNotice.railsAge refresher.feed
    ⟨event, refresher.catalogAge, refresher.railsAge⟩
  change { refresher.railsMirror with
    notices := (refresher.notify event).railsMirror.notices } = _
  rw [show (refresher.notify event).railsMirror.notices = _ from notices]
  dsimp only
  split
  case isTrue stale => rfl
  case isFalse fresh => rfl

theorem railsMirror_hear
    (language : Language)
    (refresher : Refresher Version Rails) :
    (refresher.hear language).railsMirror =
      refresher.railsMirror.move (refresher.railsMove .hear) := by
  unfold hear railsMove
  cases waiting : refresher.feed with
  | nil => rfl
  | cons notice feed =>
      have notices : refresher.railsMirror.notices =
          noticesOf FeedEvent.stalesCollections FeedNotice.railsAge
            (notice :: feed) := by
        change noticesOf _ _ refresher.feed = _
        rw [waiting]
      rw [noticesOf_cons] at notices
      dsimp only
      rw [railsMirror_daemonChanged]
      split
      case isFalse fresh =>
          rw [if_neg fresh] at notices
          change { refresher.railsMirror with
            notices := noticesOf FeedEvent.stalesCollections
              FeedNotice.railsAge feed } = refresher.railsMirror
          rw [← notices]
      case isTrue stale =>
          rw [if_pos stale] at notices
          change _ = refresher.railsMirror.hear
          unfold Mirror.hear
          rw [notices]
          rfl

theorem railsMirror_answerRails
    (refresher : Refresher Version Rails)
    (index : Nat) :
    (refresher.answerRails index).railsMirror =
      refresher.railsMirror.succeed index := by
  unfold answerRails Mirror.succeed
  rcases found : refresher.collectionReads[index]? with
    _ | ⟨request, _ | ⟨rails, age⟩⟩
  · rw [show refresher.railsMirror.flights[index]? = none from found]
  · rw [show refresher.railsMirror.flights[index]? = some _ from found]
  · rw [show refresher.railsMirror.flights[index]? = some _ from found]
    dsimp only
    unfold collectionsLoaded
    by_cases latest : request = refresher.collectionsRequest
    · rw [if_neg (not_not.mpr latest), if_pos latest,
        if_pos (by exact latest)]
      rfl
    · rw [if_pos latest, if_neg latest, if_neg (by exact latest)]
      rfl

theorem railsMirror_failRails
    (refresher : Refresher Version Rails)
    (index : Nat)
    (error : String) :
    (refresher.failRails index error).railsMirror =
      refresher.railsMirror.fail index := by
  unfold failRails Mirror.fail
  cases found : refresher.collectionReads[index]? with
  | none => rw [show refresher.railsMirror.flights[index]? = none from found]
  | some flight =>
      rw [show refresher.railsMirror.flights[index]? = some _ from found]
      dsimp only
      unfold collectionsLoaded
      by_cases latest : flight.request = refresher.collectionsRequest
      · rw [if_neg (not_not.mpr latest), if_pos (by exact latest)]
        rfl
      · rw [if_pos latest, if_neg (by exact latest)]
        rfl

theorem railsMirror_failCatalog
    (language : Language)
    (refresher : Refresher Version Rails)
    (index : Nat)
    (error : String) :
    (refresher.failCatalog language index error).railsMirror =
      refresher.railsMirror := by
  unfold failCatalog
  split
  case h_2 => rfl
  case h_1 read found =>
      unfold catalogFailed
      dsimp only
      split
      case isTrue latest => rfl
      case isFalse old => rfl

/-- Every step is one operation on the copy of the collections. -/
theorem railsMirror_step
    (language : Language)
    (refresher : Refresher Version Rails)
    (step : RefreshStep Version Rails) :
    (refresher.step language step).railsMirror =
      refresher.railsMirror.move (refresher.railsMove step) := by
  cases step with
  | message message => exact railsMirror_message language refresher message
  | dashboardTick =>
      change (if _ then _ else _ : Refresher Version Rails).railsMirror =
        refresher.railsMirror.move (if _ then _ else _)
      split
      case isTrue onDashboard =>
          exact railsMirror_refreshCollections refresher
      case isFalse elsewhere => rfl
  | reloadCollections => rfl
  | rommLoaded connected => rfl
  | changeCatalog entries event =>
      change (if _ then _ else _ : Refresher Version Rails).railsMirror =
        refresher.railsMirror.move (if _ then _ else _)
      split
      case isTrue stale =>
          rw [railsMirror_notify,
            if_pos (event.stalesCollections_of_stalesCatalog stale)]
          rfl
      case isFalse fresh => rfl
  | changeRails rails event =>
      change (if _ then _ else _ : Refresher Version Rails).railsMirror =
        refresher.railsMirror.move (if _ then _ else _)
      split
      case isTrue stale =>
          rw [railsMirror_notify, if_pos stale]
          rfl
      case isFalse fresh => rfl
  | announce event =>
      refine (railsMirror_notify refresher event).trans ?_
      change _ = refresher.railsMirror.move (if _ then _ else _)
      split
      case isTrue stale => rfl
      case isFalse fresh => rfl
  | hear => exact railsMirror_hear language refresher
  | readCatalog index => rfl
  | readRails index => rfl
  | catalogAnswered index =>
      change (refresher.answerCatalog language index).railsMirror = _
      unfold answerCatalog
      split
      case h_1 request entries age found => rfl
      case h_2 => rfl
  | catalogFailed index error =>
      exact railsMirror_failCatalog language refresher index error
  | railsAnswered index => exact railsMirror_answerRails refresher index
  | railsFailed index error =>
      exact railsMirror_failRails refresher index error
  | consolesAnswered index platforms =>
      exact railsMirror_settleConsoles language refresher index _
  | consolesFailed index error =>
      exact railsMirror_settleConsoles language refresher index _

/-! ## No event is lost -/

/-- An event that makes the catalog stale arrives while a read of it is
repeated, and that read has already found the catalog as it was before the
change the event tells of. -/
def MissesCatalog
    (refresher : Refresher Version Rails) : RefreshStep Version Rails → Prop
  | .hear =>
      refresher.app.retryCatalog = true ∧
        ∃ notice feed, refresher.feed = notice :: feed ∧
          notice.event.stalesCatalog = true ∧
          ∃ read ∈ refresher.catalogReads,
            read.request = refresher.app.catalogRequest ∧
              ∃ entries age, read.reading = some (entries, age) ∧
                age < notice.catalogAge
  | _ => False

/-- The same for the collections. -/
def MissesRails
    (refresher : Refresher Version Rails) : RefreshStep Version Rails → Prop
  | .hear =>
      refresher.retryCollections = true ∧
        ∃ notice feed, refresher.feed = notice :: feed ∧
          notice.event.stalesCollections = true ∧
          ∃ read ∈ refresher.collectionReads,
            read.request = refresher.collectionsRequest ∧
              ∃ rails age, read.reading = some (rails, age) ∧
                age < notice.railsAge
  | _ => False

theorem hear_of_catalogMove
    {refresher : Refresher Version Rails}
    {step : RefreshStep Version Rails}
    (hears : refresher.catalogMove step = .hear) :
    step = .hear ∧ ∃ notice feed, refresher.feed = notice :: feed ∧
      notice.event.stalesCatalog = true := by
  unfold catalogMove at hears
  split at hears
  case h_5 =>
      split at hears
      case h_1 empty => cases hears
      case h_2 notice feed waiting =>
          split at hears
          case isTrue stale => exact ⟨rfl, notice, feed, waiting, stale⟩
          case isFalse fresh => cases hears
  all_goals first | cases hears | (split at hears <;> cases hears)

theorem hear_of_railsMove
    {refresher : Refresher Version Rails}
    {step : RefreshStep Version Rails}
    (hears : refresher.railsMove step = .hear) :
    step = .hear ∧ ∃ notice feed, refresher.feed = notice :: feed ∧
      notice.event.stalesCollections = true := by
  unfold railsMove at hears
  split at hears
  case h_7 =>
      split at hears
      case h_1 empty => cases hears
      case h_2 notice feed waiting =>
          split at hears
          case isTrue stale => exact ⟨rfl, notice, feed, waiting, stale⟩
          case isFalse fresh => cases hears
  all_goals first | cases hears | (split at hears <;> cases hears)

/-- A notice of the copy is an event of the feed. -/
theorem missesCatalog_of_misses
    {refresher : Refresher Version Rails}
    {step : RefreshStep Version Rails}
    (hears : refresher.catalogMove step = .hear)
    (misses : refresher.catalogMirror.Misses) :
    refresher.MissesCatalog step := by
  obtain ⟨rfl, notice, feed, waiting, stale⟩ := hear_of_catalogMove hears
  obtain ⟨retrying, told, ages, notices, read, member, latest, entries, age,
    reading, older⟩ := misses
  rw [notice_of_waiting waiting stale notices] at older
  exact ⟨retrying, notice, feed, waiting, stale, read, member, latest, entries,
    age, reading, older⟩

theorem missesRails_of_misses
    {refresher : Refresher Version Rails}
    {step : RefreshStep Version Rails}
    (hears : refresher.railsMove step = .hear)
    (misses : refresher.railsMirror.Misses) :
    refresher.MissesRails step := by
  obtain ⟨rfl, notice, feed, waiting, stale⟩ := hear_of_railsMove hears
  obtain ⟨retrying, told, ages, notices, read, member, latest, rails, age,
    reading, older⟩ := misses
  rw [notice_of_waiting waiting stale notices] at older
  exact ⟨retrying, notice, feed, waiting, stale, read, member, latest, rails,
    age, reading, older⟩

/-- A copy nothing was read into yet, whose first read is on its way. -/
theorem current_first
    {Value : Type}
    (value held : Value) :
    ({ value := value
       age := 0
       notices := []
       heard := 0
       latest := 1
       retrying := false
       flights := [.sent 1]
       held := held
       heldAge := 0 } : Mirror Value).Current where
  chained :=
    { bounded := by
        intro flight member
        rw [List.mem_singleton.mp member]
        exact Nat.le_refl 1
      distinct := List.nodup_singleton 1
      waits := by
        intro retrying
        cases retrying }
  informed :=
    { told := Or.inl rfl
      early := Nat.le_refl 0
      sent := by
        intro notice member
        cases member
      readings := by
        intro flight member value age reading
        rw [List.mem_singleton.mp member] at reading
        cases reading }
  coming := Or.inl
    { waits := List.mem_singleton.mpr rfl
      finds := by
        intro flight member latest value age reading
        rw [List.mem_singleton.mp member] at reading
        cases reading }

/-- No change of the daemon's data is lost.  In every run in which no event is
left to a repeated read that was taken before the event's change, whenever
every event has arrived and every read is answered, the shell holds the
daemon's catalog, and the daemon's collections. -/
theorem copies_are_current
    (language : Language)
    (config : AppLibraryConfig)
    (catalog : List LibraryItem)
    (nothing rails : Rails)
    (steps : List (RefreshStep Version Rails))
    (along : (machine language config catalog nothing rails).Along
      (fun refresher step =>
        ¬ refresher.MissesCatalog step ∧ ¬ refresher.MissesRails step)
      steps) :
    let refresher := (machine language config catalog nothing rails).run steps
    refresher.feed = [] →
      (refresher.catalogReads = [] →
        refresher.app.catalog.source = refresher.catalog) ∧
      (refresher.collectionReads = [] →
        refresher.collections = refresher.rails) := by
  intro refresher heard
  have current : refresher.catalogMirror.Current ∧
      refresher.railsMirror.Current := by
    apply (machine language config catalog nothing rails).run_induction_along
      _ (fun refresher => refresher.catalogMirror.Current ∧
        refresher.railsMirror.Current) _ _ steps along
    · exact ⟨current_first catalog _, current_first rails nothing⟩
    · intro refresher step current kept
      change (refresher.step language step).catalogMirror.Current ∧
        (refresher.step language step).railsMirror.Current
      rw [catalogMirror_step, railsMirror_step]
      exact ⟨current.1.move _ fun hears misses =>
          kept.1 (missesCatalog_of_misses hears misses),
        current.2.move _ fun hears misses =>
          kept.2 (missesRails_of_misses hears misses)⟩
  constructor
  · intro answered
    apply current.1.held_eq answered
    change noticesOf _ _ refresher.feed = []
    rw [heard]
    rfl
  · intro answered
    apply current.2.held_eq answered
    change noticesOf _ _ refresher.feed = []
    rw [heard]
    rfl

/-- A shell without settings, and a daemon with an empty catalog. -/
def plain :
    Machine (Refresher Unit Nat) (RefreshStep Unit Nat) Unit :=
  machine .ascii
    { desktopInputApps := []
      formOverrides := ∅ } [] 0 1

/-- The first read of the catalog fails, a game is installed, and only then
the repeated read is taken. -/
def retriedAfterChange : List (RefreshStep Unit Nat) :=
  [.catalogFailed 0 "refused",
    .changeCatalog [.default] (.changed .libraryChanged),
    .hear,
    .readCatalog 0,
    .catalogAnswered 0,
    .readRails 0,
    .railsAnswered 0,
    .readRails 0,
    .railsAnswered 0]

theorem copies_are_current_retried :
    plain.Along
        (fun refresher step =>
          ¬ refresher.MissesCatalog step ∧ ¬ refresher.MissesRails step)
        retriedAfterChange ∧
      let refresher := plain.run retriedAfterChange
      refresher.feed = [] →
        (refresher.catalogReads = [] →
          refresher.app.catalog.source = refresher.catalog) ∧
        (refresher.collectionReads = [] →
          refresher.collections = refresher.rails) := by
  have along : plain.Along
      (fun refresher step =>
        ¬ refresher.MissesCatalog step ∧ ¬ refresher.MissesRails step)
      retriedAfterChange := by
    apply Machine.along_of_alongFrom
    refine ⟨⟨id, id⟩, ⟨id, id⟩, ⟨?_, ?_⟩, ⟨id, id⟩, ⟨id, id⟩, ⟨id, id⟩,
      ⟨id, id⟩, ⟨id, id⟩, ⟨id, id⟩, trivial⟩
    · rintro ⟨-, notice, feed, -, -, read, member, -, entries, age, reading,
        -⟩
      rw [List.mem_singleton.mp member] at reading
      cases reading
    · rintro ⟨retrying, -⟩
      cases retrying
  exact ⟨along, copies_are_current .ascii _ [] 0 1 _ along⟩

/-- The repeated read is taken, a game is installed, its event arrives while
the answer is on its way, and then everything is answered. -/
def changedAfterRead : List (RefreshStep Unit Nat) :=
  [.catalogFailed 0 "refused",
    .readCatalog 0,
    .changeCatalog [.default] (.changed .libraryChanged),
    .hear,
    .readRails 0,
    .railsAnswered 0,
    .readRails 0,
    .railsAnswered 0,
    .consolesAnswered 0 [],
    .consolesAnswered 0 [],
    .catalogAnswered 0]

/-- With every event delivered, every read answered and the last answer a
success, the shell holds a catalog without the game. -/
theorem event_is_lost :
    let refresher := plain.run changedAfterRead
    refresher.feed = [] ∧ refresher.catalogReads = [] ∧
      refresher.collectionReads = [] ∧ refresher.consoleReads = [] ∧
      refresher.app.catalog.source = [] ∧
      refresher.catalog = [.default] := by
  refine ⟨?_, ?_, ?_, ?_, ?_, ?_⟩
  all_goals rfl

end Refresher
end Frontend
end Hearthdeck
