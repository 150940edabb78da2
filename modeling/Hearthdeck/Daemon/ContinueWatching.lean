import Hearthdeck.Daemon.Serving
import Hearthdeck.Foundation.KeySort
import Mathlib.Data.Prod.Lex
import Mathlib.Algebra.Order.Ring.Unbundled.Rat
import Mathlib.Data.String.Basic
import Mathlib.Order.WithBot

/-!
# The rail of unfinished titles

The Stremio provider publishes the unfinished titles of an account, newest
change first, as a row of at most ten.  The catalog does not store the order
of a provider's records.  It reads them back in the order of a text they
carry, which for these records is the time of the change as the account
spells it.

The provider compares times as instants and the catalog compares their
spellings.  Reading a time of RFC 3339 is the work of a library; what it
reads is an argument here.
-/

namespace Hearthdeck
namespace Daemon

open Foundation Frontend

/-! ## JSON numbers and flags -/

/-- A number of decimal digits that fits into 64 bits. -/
def naturalOf (digits : List Char) : Option Nat :=
  (parseDigits digits).filter (· < 2 ^ 64)

/-- `str::parse::<u64>`, which takes a sign in front. -/
def parseU64 (text : List Char) : Option Nat :=
  match text with
  | '+' :: digits => naturalOf digits
  | digits => naturalOf digits

/-- `Value::as_u64`. -/
def Json.asU64 : Json → Option Nat
  | .number text => naturalOf text.toList
  | _ => none

/-- `Value::as_bool`. -/
def Json.asBool : Json → Option Bool
  | .bool value => some value
  | _ => none

namespace Stremio

/-- `SOURCE_ID`. -/
def sourceId : String := "stremio"

/-- `CONTINUE_WATCHING_LIMIT`. -/
def continueWatchingLimit : Nat := 10

/-! ## Titles -/

/-- `state`. -/
def state (item : Json) : Json :=
  (item.get "state").getD .null

/-- `flag`. -/
def flag (item : Json) (field : String) : Bool :=
  ((item.get field).bind Json.asBool).getD false

/-- `time_offset`. -/
def timeOffset (item : Json) : Nat :=
  (((state item).get "timeOffset").bind Json.asU64).getD 0

/-- `duration`. -/
def duration (item : Json) : Nat :=
  (((state item).get "duration").bind Json.asU64).getD 0

/-- `progress`, before it is rounded to a double. -/
def progress (offset duration : Nat) : ℚ :=
  if duration = 0 then 0 else min 1 (offset / duration)

/-- `minutes_left`. -/
def minutesLeft (offset duration : Nat) : Nat :=
  (duration - offset) / 60000

/-- `in_continue_watching`. -/
def inContinueWatching (item : Json) : Bool :=
  if (item.get "type").bind Json.asStr = some "other" then
    false
  else if flag item "removed" && !flag item "temp" then
    false
  else
    0 < timeOffset item

/-- `season_episode`. -/
def seasonEpisode (item : Json) (id : String) : Option (Nat × Nat) := do
  let videoId ← ((state item).get "video_id").bind Json.asStr
  let rest ← stripped id videoId
  let (season, others) ←
    splitOnce ':' (rest.toList.dropWhile (· == ':'))
  let episode := others.takeWhile (· != ':')
  pure (← parseU64 season, ← parseU64 episode)

/-- `poster`. -/
def poster (item : Json) : Option String := do
  let text ← (item.get "poster").bind Json.asStr
  let poster := trimmed text
  if poster.isEmpty then
    none
  else
    some (poster.replace "/poster/small/" "/poster/medium/")

/-- The `metadata` of a record. -/
structure Metadata where
  kind : String
  progress : ℚ
  timeOffsetMs : Nat
  durationMs : Nat
  minutesLeft : Nat
  videoId : Json
  lastWatched : Json
  timesWatched : Json
  year : Json
  seasonEpisode : Option (Nat × Nat)

/-- The `type` of a title. -/
def kind (item : Json) : String :=
  ((item.get "type").bind Json.asStr).getD "other"

/-- `_mtime` as it is spelled. -/
def spelled (item : Json) : String :=
  ((item.get "_mtime").bind Json.asStr).getD ""

/-- `catalog_record`. -/
def catalogRecord (item : Json) : Option (CatalogRecord Metadata) := do
  let text ← (item.get "_id").bind Json.asStr
  let id := trimmed text
  if id.isEmpty then
    none
  else
    let offset := timeOffset item
    let duration := duration item
    let field (key : String) := ((state item).get key).getD .null
    some
      { id := sourceId ++ ":" ++ id
        title :=
          ((((item.get "name").bind Json.asStr).map trimmed).filter
            fun name => !name.isEmpty).getD id
        kind := kind item
        launchId := none
        icon := poster item
        metadata :=
          { kind := kind item
            progress := progress offset duration
            timeOffsetMs := offset
            durationMs := duration
            minutesLeft := minutesLeft offset duration
            videoId := field "video_id"
            lastWatched := field "lastWatched"
            timesWatched := field "timesWatched"
            year := (item.get "year").getD .null
            seasonEpisode := seasonEpisode item id }
        updatedAt := spelled item }

section Row

/- How a time of RFC 3339 is read, as an instant. -/
variable (parse : String → Option Int)

/-- `mtime`: an unreadable time is below all others. -/
def mtime (item : Json) : WithBot Int :=
  ((item.get "_mtime").bind Json.asStr).bind parse

/-- The key of the provider's order: `Reverse(mtime(item))`. -/
def newestFirst (item : Json) : (WithBot Int)ᵒᵈ :=
  OrderDual.toDual (mtime parse item)

/-- The unfinished titles of a library, in the order of the answer. -/
def unfinished (items : List Json) : List Json :=
  items.filter inContinueWatching

/-- `continue_watching`. -/
def continueWatching
    (library : Json) : Except String (List (CatalogRecord Metadata)) :=
  match (library.get "result").bind Json.asArray with
  | none =>
      .error "the Stremio datastore answered without a result list"
  | some items =>
      .ok (((sortByKey (newestFirst parse) (unfinished items)).take
        continueWatchingLimit).filterMap catalogRecord)

end Row
end Stremio

/-! ## Reading one source back -/

namespace Catalog

/-- `ORDER BY item.updated_at DESC, item.id`. -/
def listingKey
    (entry : Σ _ : String, LibraryItem) : Stringᵒᵈ ×ₗ String :=
  toLex (OrderDual.toDual entry.2.updatedAt, entry.1)

/-- The rows of one source in the order of the listing. -/
def sourceRows
    (sourceId : String)
    (items : LibraryItems) : List (Σ _ : String, LibraryItem) :=
  sortByKey listingKey
    (items.entries.filter fun entry => entry.2.sourceId == sourceId)

/-- `LIMIT ?` with the limit cast to 64 signed bits, where a negative one does
not limit. -/
def limited {Row : Type} (limit : UInt64) (rows : List Row) : List Row :=
  if limit.toNat < 2 ^ 63 then rows.take limit.toNat else rows

/-- `CatalogStore::list_source`. -/
def listSource
    (read : String → Option Json)
    (language : Language)
    (joined : Joined)
    (sourceId : String)
    (limit : UInt64)
    (items : LibraryItems) : List CatalogItem :=
  (limited limit (sourceRows sourceId items)).map fun entry =>
    catalogItemFromRow read language joined entry.1 entry.2

/-! ## Records and rows -/

variable {Metadata : Type} [ToString Metadata]

/-- The listing reads one record strictly before another. -/
def Listed (left right : CatalogRecord Metadata) : Prop :=
  left.id ≠ right.id ∧
    (right.updatedAt < left.updatedAt ∨
      left.updatedAt = right.updatedAt ∧ left.id < right.id)

instance (left right : CatalogRecord Metadata) :
    Decidable (Listed left right) :=
  inferInstanceAs (Decidable (_ ∧ _))

/-- The entry a record becomes. -/
def entryOf
    (sourceId : String)
    (record : CatalogRecord Metadata) : Σ _ : String, LibraryItem :=
  ⟨record.id, row sourceId record⟩

theorem listed_iff
    (sourceId : String)
    (left right : CatalogRecord Metadata) :
    Listed left right ↔
      left.id ≠ right.id ∧
        listingKey (entryOf sourceId left) <
          listingKey (entryOf sourceId right) := by
  unfold Listed listingKey entryOf row
  rw [Prod.Lex.toLex_lt_toLex]
  simp only [OrderDual.toDual_lt_toDual, EmbeddingLike.apply_eq_iff_eq]

/-- The rows of a source after a replacement without a fault. -/
def replaced
    (sourceId : String)
    (records : List (CatalogRecord Metadata))
    (items : LibraryItems) : LibraryItems :=
  (replaceSource sourceId records).storeAfter ⟨items, []⟩

theorem replaced_eq
    (sourceId : String)
    (records : List (CatalogRecord Metadata))
    (items : LibraryItems) :
    replaced sourceId records items =
      records.foldl (upsert sourceId) (deleteSource sourceId items) :=
  (replaceSource_of_not_faulty sourceId records ⟨items, []⟩
    (by simp [Query.Faulty])).2

theorem mem_sourceRows
    {sourceId : String}
    {items : LibraryItems}
    {entry : Σ _ : String, LibraryItem} :
    entry ∈ sourceRows sourceId items ↔
      rowOf sourceId items entry.1 = some entry.2 := by
  unfold sourceRows rowOf
  rw [(perm_sortByKey _ _).mem_iff, List.mem_filter,
    Option.filter_eq_some_iff, ← Option.mem_def, AList.mem_lookup_iff]

theorem nodup_sourceRows
    (sourceId : String)
    (items : LibraryItems) :
    ((sourceRows sourceId items).map Sigma.fst).Nodup := by
  unfold sourceRows
  rw [((perm_sortByKey _ _).map Sigma.fst).nodup_iff]
  have distinct : (items.entries.map Sigma.fst).Nodup := items.nodupKeys
  exact distinct.sublist (List.Sublist.map Sigma.fst List.filter_sublist)

/-- Where ids are not repeated, every record is the last with its id. -/
theorem published_of_nodup
    {sourceId : String}
    {records : List (CatalogRecord Metadata)}
    (distinct : (records.map CatalogRecord.id).Nodup)
    {record : CatalogRecord Metadata}
    (member : record ∈ records) :
    published sourceId records record.id = some (row sourceId record) := by
  have found : (records.reverse.find? fun other =>
      other.id == record.id).isSome := by
    rw [List.find?_isSome]
    exact ⟨record, List.mem_reverse.mpr member, beq_self_eq_true _⟩
  obtain ⟨last, finds⟩ := Option.isSome_iff_exists.mp found
  have same : last.id = record.id := by
    simpa using List.find?_some finds
  have listed := List.mem_reverse.mp (List.mem_of_find?_eq_some finds)
  unfold published
  rw [finds, List.inj_on_of_nodup_map distinct listed member same]
  rfl

/-- The rows of the source are the records, where ids are not repeated. -/
theorem perm_sourceRows
    {sourceId : String}
    {records : List (CatalogRecord Metadata)}
    (distinct : (records.map CatalogRecord.id).Nodup)
    (items : LibraryItems) :
    (sourceRows sourceId (replaced sourceId records items)).Perm
      (records.map (entryOf sourceId)) := by
  apply (List.perm_ext_iff_of_nodup
    (List.Nodup.of_map Sigma.fst (nodup_sourceRows _ _)) ?_).mpr
  · intro entry
    rw [mem_sourceRows, replaced_eq, rowOf_replaced, List.mem_map]
    constructor
    · intro asked
      unfold published at asked
      obtain ⟨record, finds, same⟩ := Option.map_eq_some_iff.mp asked
      have named : record.id = entry.1 := by
        simpa using List.find?_some finds
      refine ⟨record,
        List.mem_reverse.mp (List.mem_of_find?_eq_some finds), ?_⟩
      unfold entryOf
      rw [named, same]
    · rintro ⟨record, member, rfl⟩
      exact published_of_nodup distinct member
  · apply List.Nodup.of_map Sigma.fst
    rw [List.map_map]
    exact distinct

/-- The listing reads the records in the order they were published in exactly
if it reads each of them strictly before the next. -/
theorem map_fst_sourceRows_iff
    (sourceId : String)
    (records : List (CatalogRecord Metadata))
    (items : LibraryItems) :
    (sourceRows sourceId (replaced sourceId records items)).map Sigma.fst =
        records.map CatalogRecord.id ↔
      records.Pairwise Listed := by
  constructor
  · intro same
    have distinct := nodup_sourceRows sourceId
      (replaced sourceId records items)
    rw [same] at distinct
    have total : Std.Total fun left right : Σ _ : String, LibraryItem =>
        listingKey left ≤ listingKey right :=
      ⟨fun left right => le_total (listingKey left) (listingKey right)⟩
    have trans : IsTrans (Σ _ : String, LibraryItem) fun left right =>
        listingKey left ≤ listingKey right := ⟨fun _ _ _ => le_trans⟩
    have sorted : (sourceRows sourceId
        (replaced sourceId records items)).Pairwise fun left right =>
          listingKey left ≤ listingKey right :=
      List.pairwise_insertionSort _ _
    have byId : ((sourceRows sourceId
        (replaced sourceId records items)).map Sigma.fst).Pairwise
          fun left right => ∀ first second,
            rowOf sourceId (replaced sourceId records items) left =
              some first →
            rowOf sourceId (replaced sourceId records items) right =
              some second →
            listingKey ⟨left, first⟩ ≤ listingKey ⟨right, second⟩ := by
      rw [List.pairwise_map]
      apply sorted.imp_of_mem
      intro left right inLeft inRight le first second atFirst atSecond
      rw [mem_sourceRows.mp inLeft] at atFirst
      rw [mem_sourceRows.mp inRight] at atSecond
      cases atFirst
      cases atSecond
      exact le
    rw [same, List.pairwise_map] at byId
    have apart := List.pairwise_map.mp distinct
    apply (byId.and apart).imp_of_mem
    rintro left right inLeft inRight ⟨ordered, different⟩
    rw [listed_iff sourceId]
    refine ⟨different, lt_of_le_of_ne ?_ ?_⟩
    · apply ordered
      · rw [replaced_eq, rowOf_replaced]
        exact published_of_nodup distinct inLeft
      · rw [replaced_eq, rowOf_replaced]
        exact published_of_nodup distinct inRight
    · intro equal
      exact different (congrArg (fun key => (ofLex key).2) equal)
  · intro listed
    have distinct : (records.map CatalogRecord.id).Nodup :=
      List.pairwise_map.mpr (listed.imp And.left)
    have ordered : (records.map (entryOf sourceId)).Pairwise
        fun left right => listingKey left < listingKey right := by
      rw [List.pairwise_map]
      exact listed.imp fun before => ((listed_iff sourceId _ _).mp before).2
    have same : sourceRows sourceId (replaced sourceId records items) =
        records.map (entryOf sourceId) :=
      sortByKey_eq_of_perm listingKey
        ((perm_sortByKey _ _).symm.trans (perm_sourceRows distinct items))
        ordered
    rw [same, List.map_map]
    rfl

/-- The listing of a source serves the records in the order they were
published in, up to any limit. -/
def KeepsOrder
    (read : String → Option Json)
    (language : Language)
    (joined : Joined)
    (sourceId : String)
    (records : List (CatalogRecord Metadata))
    (items : LibraryItems) : Prop :=
  ∀ limit,
    (listSource read language joined sourceId limit
        (replaced sourceId records items)).map CatalogItem.id =
      (records.take limit.toNat).map CatalogRecord.id

theorem keepsOrder_iff
    (read : String → Option Json)
    (language : Language)
    (joined : Joined)
    (sourceId : String)
    {records : List (CatalogRecord Metadata)}
    (few : records.length < 2 ^ 63)
    (items : LibraryItems) :
    KeepsOrder read language joined sourceId records items ↔
      records.Pairwise Listed := by
  rw [← map_fst_sourceRows_iff sourceId records items]
  have served : ∀ rows : List (Σ _ : String, LibraryItem),
      (rows.map fun entry =>
        catalogItemFromRow read language joined entry.1 entry.2).map
          CatalogItem.id = rows.map Sigma.fst := by
    intro rows
    rw [List.map_map]
    rfl
  constructor
  · intro keeps
    have whole := keeps (UInt64.ofNat (2 ^ 63))
    unfold listSource at whole
    rw [served] at whole
    have large : (UInt64.ofNat (2 ^ 63)).toNat = 2 ^ 63 := by decide
    unfold limited at whole
    rw [large, if_neg (Nat.lt_irrefl _),
      List.take_of_length_le (Nat.le_of_lt few)] at whole
    exact whole
  · intro same limit
    unfold listSource
    rw [served]
    unfold limited
    split
    case isTrue within => rw [List.map_take, same, List.map_take]
    case isFalse beyond =>
        rw [same, List.take_of_length_le (by omega)]

end Catalog

/-! ## The row of Stremio -/

namespace Stremio

section Row

variable (parse : String → Option Int)

/-- A title of the library, by its place, is among the first ten of the row:
fewer than ten unfinished titles were changed later, or at the same time and
stand before it. -/
def Shown (items : List Json) (entry : Json × Nat) : Prop :=
  entry ∈ (unfinished items).zipIdx ∧
    ((unfinished items).zipIdx.countP fun other =>
      Precedes (newestFirst parse) other entry) < continueWatchingLimit

/-- Two shown titles are spelled in the order of their times: where one comes
before the other in the row, and both have an id, the ids are different, and
its time is spelled greater, or the same with a lower id. -/
def SpelledInOrder (items : List Json) : Prop :=
  ∀ first second, Shown parse items first → Shown parse items second →
    Precedes (newestFirst parse) first second →
      ∀ left ∈ catalogRecord first.1, ∀ right ∈ catalogRecord second.1,
        left.id ≠ right.id ∧
          (spelled second.1 < spelled first.1 ∨
            spelled first.1 = spelled second.1 ∧ left.id < right.id)

theorem updatedAt_catalogRecord
    {item : Json}
    {record : CatalogRecord Metadata}
    (made : record ∈ catalogRecord item) :
    record.updatedAt = spelled item := by
  unfold catalogRecord at made
  obtain ⟨text, _, made⟩ := Option.bind_eq_some_iff.mp made
  dsimp only at made
  split at made
  case isTrue nameless => cases made
  case isFalse named =>
      cases made
      rfl

theorem mem_shown
    (items : List Json)
    (entry : Json × Nat) :
    entry ∈ (ranked (newestFirst parse) (unfinished items)).take
        continueWatchingLimit ↔
      Shown parse items entry := by
  rw [mem_take_iff_countP (fun _ _ => Precedes.asymm)
    (pairwise_ranked (newestFirst parse) (unfinished items))]
  unfold Shown
  rw [(perm_ranked _ _).mem_iff, (perm_ranked _ _).countP_eq]

/-- What the provider publishes is listed in its order exactly if the times of
the row are spelled in their order. -/
theorem pairwise_listed_iff (items : List Json) :
    (((sortByKey (newestFirst parse) (unfinished items)).take
        continueWatchingLimit).filterMap catalogRecord).Pairwise
          Catalog.Listed ↔
      SpelledInOrder parse items := by
  have ordered := (pairwise_ranked (newestFirst parse)
    (unfinished items)).sublist (List.take_sublist continueWatchingLimit _)
  rw [← map_fst_ranked, ← List.map_take, List.pairwise_filterMap,
    List.pairwise_map, pairwise_iff_of_ordered (fun _ _ => Precedes.asymm)
      ordered]
  simp only [mem_shown]
  unfold SpelledInOrder Catalog.Listed
  constructor
  · intro holds first second inFirst inSecond precedes left made right makes
    have listed := holds first inFirst second inSecond precedes left made
      right makes
    rw [updatedAt_catalogRecord made, updatedAt_catalogRecord makes] at listed
    exact listed
  · intro holds first inFirst second inSecond precedes left made right makes
    rw [updatedAt_catalogRecord made, updatedAt_catalogRecord makes]
    exact holds first second inFirst inSecond precedes left made right makes

variable [ToString Metadata]

/-- The catalog reads the row of an account back in its order, up to any limit
and over every earlier catalog, exactly if the times of its titles are spelled
in their order. -/
theorem continueWatching_keepsOrder_iff
    (read : String → Option Json)
    (language : Language)
    (joined : Joined)
    (earlier : LibraryItems)
    {library : Json}
    {items : List Json}
    (answered : (library.get "result").bind Json.asArray = some items) :
    (∃ records, continueWatching parse library = .ok records ∧
      Catalog.KeepsOrder read language joined sourceId records earlier) ↔
        SpelledInOrder parse items := by
  unfold continueWatching
  rw [answered, ← pairwise_listed_iff]
  have few : (((sortByKey (newestFirst parse) (unfinished items)).take
      continueWatchingLimit).filterMap catalogRecord).length < 2 ^ 63 := by
    refine lt_of_le_of_lt (List.length_filterMap_le _ _) ?_
    refine lt_of_le_of_lt (List.length_take_le _ _) ?_
    decide
  rw [← Catalog.keepsOrder_iff read language joined sourceId few earlier]
  constructor
  · rintro ⟨records, published, keeps⟩
    cases published
    exact keeps
  · intro keeps
    exact ⟨_, rfl, keeps⟩

end Row

/-- An unfinished title. -/
def title (id changed : String) : Json :=
  .object
    [("_id", .string id), ("_mtime", .string changed),
      ("state", .object [("timeOffset", .number "1000")])]

/-- An account's library. -/
def libraryOf (items : List Json) : Json :=
  .object [("result", .array items)]

/-- How the times of the examples are read, in nanoseconds. -/
def readTimes (text : String) : Option Int :=
  [("2026-01-01T00:00:00.1005Z", 1767225600100500000),
    ("2026-01-01T00:00:00.1000Z", 1767225600100000000),
    ("2026-01-01T00:00:00.100Z", 1767225600100000000)].lookup text

/-- Nothing is read of texts. -/
def untold : Joined where
  enrichment := fun _ => none
  form := fun _ => none

/-- A text for metadata that nothing is read of. -/
@[reducible] def untexted : ToString Metadata :=
  ⟨fun _ => ""⟩

/-- Two titles whose times are spelled alike. -/
def alike : List Json :=
  [title "tt2" "2026-01-01T00:00:00.1000Z",
    title "tt1" "2026-01-01T00:00:00.1005Z"]

/-- Two titles whose times are spelled with three and with four digits. -/
def mixed : List Json :=
  [title "tt2" "2026-01-01T00:00:00.100Z",
    title "tt1" "2026-01-01T00:00:00.1005Z"]

theorem continueWatching_keepsOrder_iff_alike :
    ∃ records,
      continueWatching readTimes (libraryOf alike) = .ok records ∧
        @Catalog.KeepsOrder Metadata untexted (fun _ => none)
          Language.ascii untold sourceId records ∅ := by
  refine (@continueWatching_keepsOrder_iff readTimes untexted
    (fun _ => none) Language.ascii untold ∅ (libraryOf alike) alike
    rfl).mpr ?_
  intro first second inFirst inSecond precedes left made right makes
  have members : ∀ entry, Shown readTimes alike entry →
      entry = (title "tt2" "2026-01-01T00:00:00.1000Z", 0) ∨
        entry = (title "tt1" "2026-01-01T00:00:00.1005Z", 1) := by
    intro entry shown
    have member := shown.1
    change entry ∈ alike.zipIdx at member
    simpa [alike, List.zipIdx_cons] using member
  rcases members first inFirst with rfl | rfl
  · rcases members second inSecond with rfl | rfl
    · exact absurd precedes (by decide)
    · exact absurd precedes (by decide)
  · rcases members second inSecond with rfl | rfl
    · cases made
      cases makes
      decide
    · exact absurd precedes (by decide)

/-- The title that was changed last is listed last: its time is spelled with
one digit more, and every digit is below the letter that ends the other. -/
theorem mixed_precision_swaps_the_row :
    ∃ records,
      continueWatching readTimes (libraryOf mixed) = .ok records ∧
        records.map CatalogRecord.id = ["stremio:tt1", "stremio:tt2"] ∧
        ¬ @Catalog.KeepsOrder Metadata untexted (fun _ => none)
          Language.ascii untold sourceId records ∅ := by
  refine ⟨_, rfl, rfl, ?_⟩
  rw [@Catalog.keepsOrder_iff Metadata untexted _ _ _ _ _ (by decide)]
  intro listed
  have first := List.rel_of_pairwise_cons listed (List.mem_singleton_self _)
  revert first
  decide

end Stremio
end Daemon
end Hearthdeck
