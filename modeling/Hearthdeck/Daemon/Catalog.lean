import Hearthdeck.Foundation.Database
import Hearthdeck.Foundation.Table

/-!
# The catalog

Discovery providers publish records into one table, `library_items`, whose
key is the record's id alone.  A provider replaces everything it owns in one
transaction.  The deletion is limited to the provider's own rows, while the
insertion resolves a conflict of ids by taking the row over; what this means
for the rows of the other sources is the subject of the module.
-/

namespace Hearthdeck
namespace Daemon

open Foundation

/-- A record as a provider publishes it, with metadata that can be written as
text. -/
structure CatalogRecord (Metadata : Type) where
  id : String
  title : String
  kind : String
  launchId : Option String
  icon : Option String
  metadata : Metadata
  updatedAt : String

/-- A row of `library_items`, below its `id`. -/
structure LibraryItem where
  sourceId : String
  title : String
  kind : String
  launchId : Option String
  icon : Option String
  metadataJson : String
  updatedAt : String
  deriving DecidableEq, Repr

/-- The table `library_items`. -/
abbrev LibraryItems := Table String LibraryItem

namespace Catalog

variable {Metadata : Type} [ToString Metadata]

/-- The row a record becomes under the source that publishes it. -/
def row
    (sourceId : String)
    (record : CatalogRecord Metadata) : LibraryItem where
  sourceId := sourceId
  title := record.title
  kind := record.kind
  launchId := record.launchId
  icon := record.icon
  metadataJson := toString record.metadata
  updatedAt := record.updatedAt

/-- `DELETE FROM library_items WHERE source_id = ?`. -/
def deleteSource
    (sourceId : String)
    (items : LibraryItems) : LibraryItems :=
  items.filter fun _ item => item.sourceId != sourceId

/-- `INSERT INTO library_items … ON CONFLICT(id) DO UPDATE`, which sets every
column of the conflicting row, its `source_id` included. -/
def upsert
    (sourceId : String)
    (items : LibraryItems)
    (record : CatalogRecord Metadata) : LibraryItems :=
  items.insert record.id (row sourceId record)

/-- `CatalogStore::replace_source`. -/
def replaceSource
    (sourceId : String)
    (records : List (CatalogRecord Metadata)) :
    Query SqlError LibraryItems PUnit :=
  Query.transaction id id do
    Query.execute id fun items => .ok (deleteSource sourceId items)
    records.forM fun record =>
      Query.execute id fun items => .ok (upsert sourceId items record)

/-- The row a source has under an id. -/
def rowOf
    (sourceId : String)
    (items : LibraryItems)
    (id : String) : Option LibraryItem :=
  (items.lookup id).filter fun item => item.sourceId == sourceId

/-- The row a source other than the given one has under an id. -/
def rowOfOthers
    (sourceId : String)
    (items : LibraryItems)
    (id : String) : Option LibraryItem :=
  (items.lookup id).filter fun item => item.sourceId != sourceId

/-- The row a list of records asks for under an id: that of the last record
with this id. -/
def published
    (sourceId : String)
    (records : List (CatalogRecord Metadata))
    (id : String) : Option LibraryItem :=
  (records.reverse.find? fun record => record.id == id).map (row sourceId)

/-- Statements of one replacement: the beginning, the deletion, one insertion
for each record and the commit. -/
def statementCount (records : List (CatalogRecord Metadata)) : Nat :=
  records.length + 3

/-- What the isolation of sources promises of one replacement, made over a
connection with its faults. -/
structure Isolated
    (sourceId : String)
    (records : List (CatalogRecord Metadata))
    (connection : Connection LibraryItems) : Prop where
  /-- The rows of the other sources are exactly those from before. -/
  others : ∀ id,
    rowOfOthers sourceId
        ((replaceSource sourceId records).storeAfter connection) id =
      rowOfOthers sourceId connection.store id
  /-- After success the source owns exactly its records. -/
  own : (replaceSource sourceId records).succeeds connection = true →
    ∀ id,
      rowOf sourceId
          ((replaceSource sourceId records).storeAfter connection) id =
        published sourceId records id
  /-- A failing statement fails the replacement. -/
  reported : Query.Faulty (statementCount records) connection →
    (replaceSource sourceId records).succeeds connection = false
  /-- A failed replacement changes nothing. -/
  rolledBack :
    (replaceSource sourceId records).succeeds connection = false →
    (replaceSource sourceId records).storeAfter connection =
      connection.store

/-- No record asks for an id that another source owns. -/
def Disjoint
    (sourceId : String)
    (records : List (CatalogRecord Metadata))
    (items : LibraryItems) : Prop :=
  ∀ record ∈ records, rowOfOthers sourceId items record.id = none

theorem lookup_deleteSource
    (sourceId : String)
    (items : LibraryItems)
    (id : String) :
    (deleteSource sourceId items).lookup id =
      rowOfOthers sourceId items id :=
  Table.lookup_filter _ items id

/-- What the insertions of a replacement leave under an id: the last record
with this id, or else the row that was there. -/
theorem lookup_foldl_upsert
    (sourceId : String)
    (records : List (CatalogRecord Metadata))
    (items : LibraryItems)
    (id : String) :
    (records.foldl (upsert sourceId) items).lookup id =
      (published sourceId records id).or (items.lookup id) := by
  induction records generalizing items with
  | nil => rfl
  | cons record records inductionHypothesis =>
      rw [List.foldl_cons, inductionHypothesis, published, published,
        List.reverse_cons, List.find?_append, upsert,
        Table.lookup_insert_eq_ite]
      cases records.reverse.find? fun record => record.id == id with
      | some last => rfl
      | none =>
          by_cases same : id = record.id
          · subst same
            simp
          · have different : record.id ≠ id := Ne.symm same
            simp [same, different]

/-- The statements of a replacement, taken together. -/
theorem performs_replaceSource
    (sourceId : String)
    (records : List (CatalogRecord Metadata)) :
    Query.Performs
      (do
        Query.execute id fun items => .ok (deleteSource sourceId items)
        records.forM fun record =>
          Query.execute id fun items => .ok (upsert sourceId items record))
      (records.length + 1)
      (fun items => .ok (records.foldl (upsert sourceId)
        (deleteSource sourceId items))) := by
  have deletes := Query.performs_execute id fun items : LibraryItems =>
    .ok (deleteSource sourceId items)
  have inserts := Query.performs_forM (fun _ => id) records fun record items =>
    .ok (upsert sourceId items record)
  have folded : ∀ items : LibraryItems,
      records.foldlM (fun items record =>
          (.ok (upsert sourceId items record) : Except SqlError _)) items =
        .ok (records.foldl (upsert sourceId) items) :=
    fun items => List.foldlM_pure
  simp only [folded] at inserts
  have performed := deletes.bind inserts
  rw [Nat.add_comm] at performed
  exact performed

/-- The rows under one id after a replacement that meets no fault. -/
theorem lookup_replaced
    (sourceId : String)
    (records : List (CatalogRecord Metadata))
    (items : LibraryItems)
    (id : String) :
    (records.foldl (upsert sourceId)
        (deleteSource sourceId items)).lookup id =
      (published sourceId records id).or (rowOfOthers sourceId items id) := by
  rw [lookup_foldl_upsert, lookup_deleteSource]

/-- A replacement that meets no fault succeeds. -/
theorem replaceSource_of_not_faulty
    (sourceId : String)
    (records : List (CatalogRecord Metadata))
    (connection : Connection LibraryItems)
    (calm : ¬ Query.Faulty (statementCount records) connection) :
    (replaceSource sourceId records).succeeds connection = true ∧
      (replaceSource sourceId records).storeAfter connection =
        records.foldl (upsert sourceId)
          (deleteSource sourceId connection.store) := by
  have ran := (performs_replaceSource sourceId records).run_transaction_of_ok
    id id connection _ calm rfl
  constructor
  · rw [Query.succeeds, replaceSource, ran]
  · rw [Query.storeAfter, replaceSource, ran]

/-- A replacement that meets a fault fails and is taken back. -/
theorem replaceSource_of_faulty
    (sourceId : String)
    (records : List (CatalogRecord Metadata))
    (connection : Connection LibraryItems)
    (faulty : Query.Faulty (statementCount records) connection) :
    (replaceSource sourceId records).succeeds connection = false ∧
      (replaceSource sourceId records).storeAfter connection =
        connection.store := by
  obtain ⟨error, next, ran, kept⟩ :=
    (performs_replaceSource sourceId records).run_transaction_of_error
      id id connection (Or.inl faulty)
  constructor
  · rw [Query.succeeds, replaceSource, ran]
  · rw [Query.storeAfter, replaceSource, ran]
    exact kept

theorem sourceId_of_published
    (sourceId : String)
    (records : List (CatalogRecord Metadata))
    (id : String)
    (item : LibraryItem)
    (found : published sourceId records id = some item) :
    item.sourceId = sourceId := by
  rw [published, Option.map_eq_some_iff] at found
  obtain ⟨record, _, rfl⟩ := found
  rfl

theorem sourceId_of_rowOfOthers
    (sourceId : String)
    (items : LibraryItems)
    (id : String)
    (item : LibraryItem)
    (found : rowOfOthers sourceId items id = some item) :
    item.sourceId ≠ sourceId := by
  rw [rowOfOthers, Option.filter_eq_some_iff] at found
  simpa using found.2

theorem published_eq_none_iff
    (sourceId : String)
    (records : List (CatalogRecord Metadata))
    (id : String) :
    published sourceId records id = none ↔
      ∀ record ∈ records, record.id ≠ id := by
  simp [published]

/-- After a replacement without a fault the source owns exactly its
records, whatever the other sources own. -/
theorem rowOf_replaced
    (sourceId : String)
    (records : List (CatalogRecord Metadata))
    (items : LibraryItems)
    (id : String) :
    rowOf sourceId
        (records.foldl (upsert sourceId) (deleteSource sourceId items)) id =
      published sourceId records id := by
  rw [rowOf, lookup_replaced]
  cases asked : published sourceId records id with
  | some item =>
      simp [sourceId_of_published sourceId records id item asked]
  | none =>
      rw [Option.none_or]
      cases kept : rowOfOthers sourceId items id with
      | none => rfl
      | some item =>
          simp [sourceId_of_rowOfOthers sourceId items id item kept]

/-- After a replacement without a fault another source has the row it had,
unless a record asked for its id: then it has none. -/
theorem rowOfOthers_replaced
    (sourceId : String)
    (records : List (CatalogRecord Metadata))
    (items : LibraryItems)
    (id : String) :
    rowOfOthers sourceId
        (records.foldl (upsert sourceId) (deleteSource sourceId items)) id =
      if published sourceId records id = none then
        rowOfOthers sourceId items id
      else
        none := by
  rw [rowOfOthers, lookup_replaced]
  cases asked : published sourceId records id with
  | some item =>
      simp [sourceId_of_published sourceId records id item asked]
  | none =>
      rw [Option.none_or, if_pos rfl]
      cases kept : rowOfOthers sourceId items id with
      | none => rfl
      | some item =>
          simp [sourceId_of_rowOfOthers sourceId items id item kept]

/-- Without a fault the other sources keep their rows exactly when no record
asks for an id that one of them owns. -/
theorem others_kept_iff
    (sourceId : String)
    (records : List (CatalogRecord Metadata))
    (items : LibraryItems) :
    (∀ id,
      rowOfOthers sourceId
          (records.foldl (upsert sourceId)
            (deleteSource sourceId items)) id =
        rowOfOthers sourceId items id) ↔
      Disjoint sourceId records items := by
  constructor
  · intro kept record member
    have asked : published sourceId records record.id ≠ none := by
      intro unasked
      rw [published_eq_none_iff] at unasked
      exact unasked record member rfl
    have same := kept record.id
    rw [rowOfOthers_replaced, if_neg asked] at same
    exact same.symm
  · intro disjoint id
    rw [rowOfOthers_replaced]
    split
    · rfl
    · rename_i asked
      rw [published_eq_none_iff] at asked
      simp only [not_forall, not_not] at asked
      obtain ⟨record, member, rfl⟩ := asked
      exact (disjoint record member).symm

/-- A replacement keeps the sources apart exactly when it is taken back by a
failing statement or no record asks for an id that another source owns. -/
theorem replaceSource_isolated_iff
    (sourceId : String)
    (records : List (CatalogRecord Metadata))
    (connection : Connection LibraryItems) :
    Isolated sourceId records connection ↔
      Query.Faulty (statementCount records) connection ∨
        Disjoint sourceId records connection.store := by
  by_cases faulty : Query.Faulty (statementCount records) connection
  · obtain ⟨failed, kept⟩ :=
      replaceSource_of_faulty sourceId records connection faulty
    refine ⟨fun _ => Or.inl faulty, fun _ => ?_⟩
    constructor
    · intro id
      rw [kept]
    · intro succeeded
      rw [failed] at succeeded
      cases succeeded
    · exact fun _ => failed
    · exact fun _ => kept
  · obtain ⟨succeeded, replaced⟩ :=
      replaceSource_of_not_faulty sourceId records connection faulty
    constructor
    · intro isolated
      refine Or.inr ((others_kept_iff sourceId records _).mp ?_)
      intro id
      rw [← replaced]
      exact isolated.others id
    · intro condition
      have disjoint := condition.resolve_left faulty
      constructor
      · intro id
        rw [replaced]
        exact (others_kept_iff sourceId records _).mpr disjoint id
      · intro _ id
        rw [replaced]
        exact rowOf_replaced sourceId records _ id
      · exact fun found => absurd found faulty
      · intro failed
        rw [succeeded] at failed
        cases failed

/-- The Heroic record of a game. -/
def heroicGame : CatalogRecord String where
  id := "game:1"
  title := "Game"
  kind := "game"
  launchId := some "1"
  icon := none
  metadata := "\x7b\x7d"
  updatedAt := "2026-01-01"

/-- A row of another source under a published id is taken over. -/
theorem upsert_takes_over_foreign_row :
    ¬ Isolated "heroic" [heroicGame]
      ⟨(∅ : LibraryItems).insert "game:1" (row "desktop-apps" heroicGame),
        []⟩ := by
  intro isolated
  have kept := isolated.others "game:1"
  revert kept
  decide

end Catalog
end Daemon
end Hearthdeck
