import Hearthdeck.Daemon.Serving
import Hearthdeck.Foundation.Parts
import Mathlib.Data.List.MinMax
import Mathlib.Data.Prod.Lex
import Mathlib.Data.String.Basic

/-!
# Enrichments

Discovery providers publish records, and metadata providers publish what they
know of applications, each replacing all of its own in one transaction.  The
catalog serves a record with the best enrichment of its launch id.

Providers refresh in any order, and a refresh may fail at any statement.  What
is served depends only on the latest refresh of every provider that did not
fail.
-/

namespace Hearthdeck
namespace Daemon

open Foundation Frontend

/-- A record of a metadata provider, with a payload that is text. -/
structure EnrichmentRecord where
  applicationIds : List String
  priority : Int
  payload : String
  updatedAt : String
  deriving DecidableEq, Repr

/-- A row of `catalog_enrichments`, below its key. -/
structure EnrichmentRow where
  priority : Int
  payloadJson : String
  updatedAt : String
  deriving DecidableEq, Repr

/-- The table `catalog_enrichments`, under provider and application. -/
abbrev Enrichments := Table (String × String) EnrichmentRow

namespace Enrichments

/-- The rows of records, one for each application id, in the order of the
loops. -/
def aliases (records : List EnrichmentRecord) :
    List (String × EnrichmentRow) :=
  records.flatMap fun record =>
    record.applicationIds.map fun applicationId =>
      (applicationId,
        { priority := record.priority
          payloadJson := record.payload
          updatedAt := record.updatedAt })

/-- `DELETE FROM catalog_enrichments WHERE provider_id = ?`. -/
def deleteProvider
    (providerId : String)
    (enrichments : Enrichments) : Enrichments :=
  enrichments.filter fun key _ => key.1 != providerId

/-- `INSERT INTO catalog_enrichments … ON CONFLICT … DO UPDATE`. -/
def upsert
    (providerId : String)
    (enrichments : Enrichments)
    (entry : String × EnrichmentRow) : Enrichments :=
  enrichments.insert (providerId, entry.1) entry.2

/-- `CatalogStore::replace_enrichment_source`. -/
def replaceEnrichmentSource
    (providerId : String)
    (records : List EnrichmentRecord) :
    Query SqlError Enrichments PUnit :=
  Query.transaction id id do
    Query.execute id fun enrichments =>
      .ok (deleteProvider providerId enrichments)
    (aliases records).forM fun entry =>
      Query.execute id fun enrichments =>
        .ok (upsert providerId enrichments entry)

/-- Statements of one replacement. -/
def statementCount (records : List EnrichmentRecord) : Nat :=
  (aliases records).length + 3

/-- The row that records ask for under an application id: the last one. -/
def published
    (records : List EnrichmentRecord)
    (applicationId : String) : Option EnrichmentRow :=
  ((aliases records).reverse.find? fun entry =>
    entry.1 == applicationId).map Prod.snd

/-- What enrichments are ordered by: the priority, then the time. -/
def rank (row : EnrichmentRow) : Int ×ₗ String :=
  toLex (row.priority, row.updatedAt)

/-- A choice among the enrichments of applications, as `ORDER BY priority DESC,
updated_at DESC LIMIT 1` makes it: of equals any may come first. -/
structure Chooses
    (rows : String × String → Option EnrichmentRow)
    (choice : String → Option Enrichment) : Prop where
  found : ∀ applicationId enrichment,
    choice applicationId = some enrichment →
      ∃ row, rows (enrichment.providerId, applicationId) = some row ∧
        row.payloadJson = enrichment.payloadJson ∧
        ∀ providerId other,
          rows (providerId, applicationId) = some other →
            rank other ≤ rank row
  missing : ∀ applicationId, choice applicationId = none →
    ∀ providerId, rows (providerId, applicationId) = none

/-- The rows of an application, each with its provider. -/
def candidates
    (enrichments : Enrichments)
    (applicationId : String) : List (String × EnrichmentRow) :=
  enrichments.entries.filterMap fun ⟨key, row⟩ =>
    if key.2 = applicationId then some (key.1, row) else none

-- The order that computes: the one of the complete lattice does not.
local instance : Preorder Int := Int.instLinearOrder.toPreorder

/-- The first of the best in the order of the table. -/
def choose
    (enrichments : Enrichments)
    (applicationId : String) : Option Enrichment :=
  ((enrichments.candidates applicationId).argmax fun candidate =>
    rank candidate.2).map fun candidate =>
      { providerId := candidate.1
        payloadJson := candidate.2.payloadJson }

theorem mem_candidates
    (enrichments : Enrichments)
    (providerId applicationId : String)
    (row : EnrichmentRow) :
    (providerId, row) ∈ enrichments.candidates applicationId ↔
      enrichments.lookup (providerId, applicationId) = some row := by
  rw [← Option.mem_def, AList.mem_lookup_iff, candidates, List.mem_filterMap]
  constructor
  · rintro ⟨⟨⟨provider, application⟩, found⟩, member, same⟩
    dsimp only at same
    split at same
    case isTrue own =>
        cases same
        cases own
        exact member
    case isFalse other => cases same
  · intro member
    exact ⟨⟨(providerId, applicationId), row⟩, member, if_pos rfl⟩

theorem chooses_choose (enrichments : Enrichments) :
    Chooses enrichments.lookup enrichments.choose where
  found := by
    intro applicationId enrichment chosen
    obtain ⟨⟨providerId, row⟩, best, rfl⟩ :=
      Option.map_eq_some_iff.mp chosen
    refine ⟨row, (mem_candidates _ _ _ _).mp (List.argmax_mem best), rfl, ?_⟩
    intro other otherRow found
    exact List.le_of_mem_argmax
      (f := fun candidate : String × EnrichmentRow => rank candidate.2)
      ((mem_candidates _ _ _ _).mpr found) best
  missing := by
    intro applicationId unchosen providerId
    rw [choose, Option.map_eq_none_iff, List.argmax_eq_none] at unchosen
    rw [Option.eq_none_iff_forall_ne_some]
    intro row found
    have member := (mem_candidates _ _ _ _).mpr found
    rw [unchosen] at member
    exact List.not_mem_nil member

/-! ## One replacement -/

theorem lookup_deleteProvider
    (providerId : String)
    (enrichments : Enrichments)
    (key : String × String) :
    (deleteProvider providerId enrichments).lookup key =
      if key.1 = providerId then none else enrichments.lookup key := by
  rw [deleteProvider, Table.lookup_filter]
  by_cases own : key.1 = providerId
  · rw [if_pos own]
    simp [own]
  · rw [if_neg own]
    cases enrichments.lookup key with
    | none => rfl
    | some row => rw [Option.filter_some, if_pos (by simpa using own)]

theorem lookup_foldl_upsert
    (providerId : String)
    (entries : List (String × EnrichmentRow))
    (enrichments : Enrichments)
    (key : String × String) :
    (entries.foldl (upsert providerId) enrichments).lookup key =
      if key.1 = providerId then
        ((entries.reverse.find? fun entry => entry.1 == key.2).map
          Prod.snd).or (enrichments.lookup key)
      else
        enrichments.lookup key := by
  induction entries generalizing enrichments with
  | nil => split <;> rfl
  | cons entry later inductionHypothesis =>
      rw [List.foldl_cons, inductionHypothesis, upsert,
        Table.lookup_insert_eq_ite, List.reverse_cons, List.find?_append]
      by_cases own : key.1 = providerId
      · rw [if_pos own, if_pos own]
        cases later.reverse.find? fun entry => entry.1 == key.2 with
        | some last => rfl
        | none =>
            by_cases same : key.2 = entry.1
            · have whole : key = (providerId, entry.1) :=
                Prod.ext own same
              simp [whole]
            · have whole : key ≠ (providerId, entry.1) :=
                fun equal => same (congrArg Prod.snd equal)
              have different : entry.1 ≠ key.2 := Ne.symm same
              simp [whole, different]
      · have whole : key ≠ (providerId, entry.1) :=
          fun equal => own (congrArg Prod.fst equal)
        rw [if_neg own, if_neg own, if_neg whole]

/-- The rows after a replacement that meets no fault: those of the provider are
its records, and the others stay. -/
theorem lookup_replaced
    (providerId : String)
    (records : List EnrichmentRecord)
    (enrichments : Enrichments)
    (key : String × String) :
    ((aliases records).foldl (upsert providerId)
        (deleteProvider providerId enrichments)).lookup key =
      if key.1 = providerId then published records key.2
      else enrichments.lookup key := by
  rw [lookup_foldl_upsert, lookup_deleteProvider]
  split
  · rw [Option.or_none]
    rfl
  · rfl

theorem performs_replaceEnrichmentSource
    (providerId : String)
    (records : List EnrichmentRecord) :
    Query.Performs
      (do
        Query.execute id fun enrichments =>
          .ok (deleteProvider providerId enrichments)
        (aliases records).forM fun entry =>
          Query.execute id fun enrichments =>
            .ok (upsert providerId enrichments entry))
      ((aliases records).length + 1)
      (fun enrichments => .ok ((aliases records).foldl (upsert providerId)
        (deleteProvider providerId enrichments))) := by
  have deletes := Query.performs_execute id fun enrichments : Enrichments =>
    .ok (deleteProvider providerId enrichments)
  have inserts := Query.performs_forM (fun _ => id) (aliases records)
    fun entry enrichments => .ok (upsert providerId enrichments entry)
  have folded : ∀ enrichments : Enrichments,
      (aliases records).foldlM (fun enrichments entry =>
          (.ok (upsert providerId enrichments entry) :
            Except SqlError _)) enrichments =
        .ok ((aliases records).foldl (upsert providerId) enrichments) :=
    fun enrichments => List.foldlM_pure
  simp only [folded] at inserts
  have performed := deletes.bind inserts
  rw [Nat.add_comm] at performed
  exact performed

theorem replaceEnrichmentSource_of_not_faulty
    (providerId : String)
    (records : List EnrichmentRecord)
    (connection : Connection Enrichments)
    (calm : ¬ Query.Faulty (statementCount records) connection) :
    (replaceEnrichmentSource providerId records).storeAfter connection =
      (aliases records).foldl (upsert providerId)
        (deleteProvider providerId connection.store) := by
  have ran := (performs_replaceEnrichmentSource providerId records)
    |>.run_transaction_of_ok id id connection _ calm rfl
  rw [Query.storeAfter, replaceEnrichmentSource, ran]

theorem replaceEnrichmentSource_of_faulty
    (providerId : String)
    (records : List EnrichmentRecord)
    (connection : Connection Enrichments)
    (faulty : Query.Faulty (statementCount records) connection) :
    (replaceEnrichmentSource providerId records).storeAfter connection =
      connection.store := by
  obtain ⟨error, next, ran, same⟩ :=
    (performs_replaceEnrichmentSource providerId records)
      |>.run_transaction_of_error id id connection (Or.inl faulty)
  rw [Query.storeAfter, replaceEnrichmentSource, ran]
  exact same

end Enrichments

/-! ## Refreshes -/

/-- What the catalog keeps. -/
structure CatalogStore where
  items : LibraryItems
  enrichments : Enrichments

/-- A refresh of a provider: its answer, if it gave one, and the faults its
replacement meets. -/
inductive Refresh (Payload : Type)
  | discovered
      (sourceId : String)
      (answer : Option (List (CatalogRecord Payload)))
      (faults : List Bool)
  | enriched
      (providerId : String)
      (answer : Option (List EnrichmentRecord))
      (faults : List Bool)

namespace CatalogStore

variable {Payload : Type} [ToString Payload]

/-- `discover_source` and `enrich_source`. -/
def refresh (store : CatalogStore) : Refresh Payload → CatalogStore
  | .discovered sourceId (some records) faults =>
      { store with
        items := (Catalog.replaceSource sourceId records).storeAfter
          { store := store.items, faults := faults } }
  | .enriched providerId (some records) faults =>
      { store with
        enrichments :=
          (Enrichments.replaceEnrichmentSource providerId records).storeAfter
            { store := store.enrichments, faults := faults } }
  | .discovered _ none _ => store
  | .enriched _ none _ => store

/-- The catalog after refreshes, from an empty one. -/
def after (refreshes : List (Refresh Payload)) : CatalogStore :=
  refreshes.foldl refresh { items := ∅, enrichments := ∅ }

/-- What a refresh that does not fail puts in the place of a source's items. -/
def discovers :
    Refresh Payload → Option (Parts.Replacement String String LibraryItem)
  | .discovered sourceId (some records) faults =>
      if true ∈ faults.take (Catalog.statementCount records) then none
      else some
        { owner := sourceId
          rows := Catalog.published sourceId records }
  | _ => none

/-- What a refresh that does not fail puts in the place of a provider's
enrichments. -/
def enriches :
    Refresh Payload →
      Option (Parts.Replacement String (String × String) EnrichmentRow)
  | .enriched providerId (some records) faults =>
      if true ∈ faults.take (Enrichments.statementCount records) then none
      else some
        { owner := providerId
          rows := fun key => Enrichments.published records key.2 }
  | _ => none

/-- A source publishes only ids that are its own. -/
def OwnIds (owner : String → String) : Refresh Payload → Prop
  | .discovered sourceId (some records) _ =>
      ∀ record ∈ records, owner record.id = sourceId
  | _ => True

theorem rowOfOthers_of_owned
    {owner : String → String}
    {items : LibraryItems}
    (proper : ∀ id item, items.lookup id = some item →
      item.sourceId = owner id)
    (sourceId id : String) :
    Catalog.rowOfOthers sourceId items id =
      if owner id = sourceId then none else items.lookup id := by
  unfold Catalog.rowOfOthers
  cases found : items.lookup id with
  | none => rw [Option.filter_none, ite_self]
  | some item =>
      rw [Option.filter_some, proper id item found]
      by_cases own : owner id = sourceId
      · simp [own]
      · simp [own]

theorem keeps_items (owner : String → String) :
    Parts.Kept owner (fun store => store.items.lookup)
      refresh (discovers : Refresh Payload → _) (OwnIds owner)
      (fun id item => item.sourceId = owner id) where
  quiet := by
    intro store move _ fails
    cases move with
    | discovered sourceId answer faults =>
        cases answer with
        | none => rfl
        | some records =>
            rw [discovers] at fails
            split at fails
            case isTrue faulty =>
                have same := (Catalog.replaceSource_of_faulty sourceId records
                  { store := store.items, faults := faults } faulty).2
                funext id
                exact congrArg (AList.lookup id) same
            case isFalse calm => cases fails
    | enriched providerId answer faults =>
        cases answer with
        | none => rfl
        | some records => rfl
  replaced := by
    intro store move replacement owned made proper id
    cases move with
    | discovered sourceId answer faults =>
        cases answer with
        | none => cases made
        | some records =>
            rw [discovers, Option.ite_none_left_eq_some] at made
            obtain ⟨calm, made⟩ := made
            cases made
            have replaced := (Catalog.replaceSource_of_not_faulty sourceId
              records { store := store.items, faults := faults } calm).2
            change AList.lookup id (Query.storeAfter _ _) = _
            rw [replaced, Catalog.lookup_replaced,
              rowOfOthers_of_owned proper]
            dsimp only
            by_cases own : owner id = sourceId
            · rw [if_pos own, if_pos own, Option.or_none]
            · have foreign : Catalog.published sourceId records id = none := by
                rw [Catalog.published_eq_none_iff]
                rintro record member rfl
                exact own (owned record member)
              rw [if_neg own, if_neg own, foreign, Option.none_or]
    | enriched providerId answer faults => cases made
  proper := by
    intro move replacement _ made id item own published
    cases move with
    | discovered sourceId answer faults =>
        cases answer with
        | none => cases made
        | some records =>
            rw [discovers, Option.ite_none_left_eq_some] at made
            obtain ⟨_, made⟩ := made
            cases made
            rw [Catalog.sourceId_of_published sourceId records id item
              published]
            exact own.symm
    | enriched providerId answer faults => cases made

theorem keeps_enrichments :
    Parts.Kept Prod.fst (fun store => store.enrichments.lookup)
      refresh (enriches : Refresh Payload → _) (fun _ => True)
      (fun _ _ => True) where
  quiet := by
    intro store move _ fails
    cases move with
    | discovered sourceId answer faults =>
        cases answer with
        | none => rfl
        | some records => rfl
    | enriched providerId answer faults =>
        cases answer with
        | none => rfl
        | some records =>
            rw [enriches] at fails
            split at fails
            case isTrue faulty =>
                have same := Enrichments.replaceEnrichmentSource_of_faulty
                  providerId records
                  { store := store.enrichments, faults := faults } faulty
                funext key
                exact congrArg (AList.lookup key) same
            case isFalse calm => cases fails
  replaced := by
    intro store move replacement _ made _ key
    cases move with
    | discovered sourceId answer faults => cases made
    | enriched providerId answer faults =>
        cases answer with
        | none => cases made
        | some records =>
            rw [enriches, Option.ite_none_left_eq_some] at made
            obtain ⟨calm, made⟩ := made
            cases made
            have replaced := Enrichments.replaceEnrichmentSource_of_not_faulty
              providerId records
              { store := store.enrichments, faults := faults } calm
            change AList.lookup key (Query.storeAfter _ _) = _
            rw [replaced, Enrichments.lookup_replaced]
  proper := fun _ _ _ _ _ _ _ _ => trivial

section Serving

variable
  (read : String → Option Json)
  (language : Language)
  (form : String → Option String)

/-- What may be served under an id, of rows and enrichments. -/
def ServedOf
    (item : String → Option LibraryItem)
    (enrichment : String × String → Option EnrichmentRow)
    (id : String)
    (served : Option CatalogItem) : Prop :=
  ∃ choice, Enrichments.Chooses enrichment choice ∧
    served = (item id).map
      (catalogItemFromRow read language
        { enrichment := choice, form := form } id)

/-- `CatalogStore::get`, with the forms a model gave. -/
def get (store : CatalogStore) (id : String) : Option CatalogItem :=
  (store.items.lookup id).map
    (catalogItemFromRow read language
      { enrichment := store.enrichments.choose, form := form } id)

/-- The row that the latest refresh of the owner of an id published. -/
def latestItem
    (owner : String → String)
    (refreshes : List (Refresh Payload))
    (id : String) : Option LibraryItem :=
  (Parts.latest discovers refreshes (owner id)).bind fun replacement =>
    replacement.rows id

/-- The row that the latest refresh of a provider published. -/
def latestEnrichment
    (refreshes : List (Refresh Payload))
    (key : String × String) : Option EnrichmentRow :=
  (Parts.latest enriches refreshes key.1).bind fun replacement =>
    replacement.rows key

/-- However refreshes of providers follow each other and fail, the catalog keeps
under an id what the latest refresh of its source that did not fail published,
and of each application what the latest such refresh of each metadata provider
knew; and it serves the one with a best of the others. -/
theorem served_by_latest_refreshes
    {owner : String → String}
    (refreshes : List (Refresh Payload))
    (owned : ∀ refresh ∈ refreshes, OwnIds owner refresh)
    (id : String) :
    (after refreshes).items.lookup id = latestItem owner refreshes id ∧
      (∀ key, (after refreshes).enrichments.lookup key =
        latestEnrichment refreshes key) ∧
      ServedOf read language form (latestItem owner refreshes)
        (latestEnrichment refreshes) id
        (get read language form (after refreshes) id) := by
  have items : ∀ id, (after refreshes).items.lookup id =
      latestItem owner refreshes id :=
    ((keeps_items owner).look_foldl
      (fun _ => AList.lookup_empty _) refreshes owned).1
  have enrichments : ∀ key, (after refreshes).enrichments.lookup key =
      latestEnrichment refreshes key :=
    (keeps_enrichments.look_foldl
      (fun _ => AList.lookup_empty _) refreshes fun _ _ => trivial).1
  have known : (fun key => (after refreshes).enrichments.lookup key) =
      latestEnrichment refreshes := funext enrichments
  refine ⟨items id, enrichments, (after refreshes).enrichments.choose, ?_, ?_⟩
  · rw [← known]
    exact Enrichments.chooses_choose _
  · rw [get]
    exact congrArg (Option.map _) (items id)

end Serving

/-- A game, a failed refresh of its source, and one of another source. -/
def refreshed : List (Refresh String) :=
  [.discovered "heroic" (some [Catalog.heroicGame]) [],
    .discovered "heroic" (some []) [false, true],
    .discovered "desktop-apps"
      (some [{ Catalog.heroicGame with id := "org.app" }]) []]

theorem served_by_latest_refreshes_failed :
    (after refreshed).items.lookup "game:1" =
      some (Catalog.row "heroic" Catalog.heroicGame) := by
  have owned : ∀ refresh ∈ refreshed, OwnIds
      (fun id => if id = "game:1" then "heroic" else "desktop-apps")
      refresh := by
    simp [refreshed, OwnIds, Catalog.heroicGame]
  refine (served_by_latest_refreshes (fun _ => none) ⟨id, id⟩ (fun _ => none)
    refreshed owned "game:1").1.trans ?_
  decide +kernel

end CatalogStore
end Daemon
end Hearthdeck
