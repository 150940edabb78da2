import Hearthdeck.Ai.Profile
import Hearthdeck.Daemon.Categorizer
import Hearthdeck.Daemon.ContinueWatching

/-!
# The profiles of the applications of the catalog

A row of the catalog is served with its own metadata, with what was found out
about its launch id, and with the form a model gave it.  A profile is made of
what is served, and a hash of the profile says what a verdict was made from.
The form is served under a key that no profile is made of.
-/

namespace Hearthdeck
namespace Daemon

open Foundation Frontend
open Ai (AppKind AppProfile)

/-! ## The metadata that is served -/

/-- An optional text as JSON. -/
def Json.ofText (text : Option String) : Json :=
  (text.map .string).getD .null

/-- A list of texts as JSON. -/
def Json.ofTexts (texts : List String) : Json :=
  .array (texts.map .string)

/-- `merged_metadata`, in full. -/
def mergedMetadataJson
    (title : String)
    (discovery : Json)
    (enrichment : Option Json)
    (provider : Option String) : List (String × Json) :=
  let discovered := metadataString (some discovery)
  let enriched := metadataString enrichment
  let merged := mergedMetadata discovery enrichment
  [("summary", .string ((((enriched "description").or
      (enriched "summary")).or (discovered "comment")).or
        (discovered "description") |>.getD title)),
    ("description",
      .ofText ((enriched "description").or (discovered "description"))),
    ("categories", .ofTexts merged.categories),
    ("developer", .ofText ((enriched "developer").or (discovered "developer"))),
    ("project_license", .ofText (enriched "project_license")),
    ("store", .ofText merged.store),
    ("runner", .ofText (discovered "runner")),
    ("source", .ofText merged.source),
    ("version", .ofText (discovered "version")),
    ("platform", .ofText (discovered "platform")),
    ("cloud_saves",
      (((discovery.get "cloud_saves").bind Json.asBool).map .bool).getD .null),
    ("install_size_bytes",
      (((discovery.get "install_size_bytes").bind Json.asU64).map
        fun size => .number (toString size)).getD .null),
    ("requirements", (discovery.get "requirements").getD (.array [])),
    ("memory_compatibility",
      (discovery.get "memory_compatibility").getD .null),
    ("urls",
      match enrichment.bind fun enrichment => enrichment.get "urls" with
      | some (.object urls) => .object urls
      | _ => .object []),
    ("screenshots",
      .ofTexts ((metadataStringList enrichment "screenshots").getD [])),
    ("provenance", .string ((provider.or (discovered "provenance")).getD
      "desktop-entry")),
    ("discovery", discovery),
    ("enrichment", enrichment.getD .null),
    ("enrichment_provider", .ofText provider)]

/-- Setting a field of an object. -/
def setField
    (fields : List (String × Json))
    (key : String)
    (value : Json) : List (String × Json) :=
  (key, value) :: fields.filter fun field => field.1 != key

/-- The metadata of a row in full, with the form a model gave it. -/
def servedMetadata
    (read : String → Option Json)
    (joined : Joined)
    (id : String)
    (row : LibraryItem) : List (String × Json) :=
  let merged := mergedMetadataJson row.title
    ((read row.metadataJson).getD .null) (enrichmentOf read joined row)
    ((row.launchId.bind joined.enrichment).map Enrichment.providerId)
  match joined.form id with
  | some form => setField merged "form_factor" (.string form)
  | none => merged

/-- What is read of a `CatalogItem` to make a profile. -/
structure ServedItem where
  id : String
  title : String
  kind : String
  launchId : Option String
  metadata : Json

/-- The part of `catalog_item_from_row` that profiles are made of. -/
def servedItem
    (read : String → Option Json)
    (joined : Joined)
    (id : String)
    (row : LibraryItem) : ServedItem where
  id := id
  title := row.title
  kind := servedKind row.sourceId row.kind
  launchId := row.launchId
  metadata := .object (servedMetadata read joined id row)

/-- `profile_from_item`. -/
def profileFromItem (item : ServedItem) : AppProfile :=
  let profile := AppProfile.fromMetadata item.id item.title
    (some (AppKind.parse item.kind)) item.metadata
  match item.launchId with
  | some launchId => { profile with exec := some launchId }
  | none => profile

/-- `application_hashes`, where `hash` is `traits::input_hash`. -/
def applicationHashes
    (hash : AppProfile → String)
    (items : List ServedItem) : Hashes :=
  (items.filter fun item => item.kind = applicationKind).map fun item =>
    (item.id, hash (profileFromItem item))

/-- The items of `CatalogStore::list`. -/
def servedItems
    (read : String → Option Json)
    (joined : Joined)
    (items : LibraryItems) : List ServedItem :=
  (items.entries.insertionSort fun left right =>
    left.2.title.toList ≤ right.2.title.toList).map fun entry =>
      servedItem read joined entry.1 entry.2

/-! ## What a form changes -/

section Serving

variable (read : String → Option Json)

theorem lookup_setField_of_ne
    {fields : List (String × Json)}
    {key other : String}
    {value : Json}
    (different : other ≠ key) :
    (setField fields key value).lookup other = fields.lookup other := by
  unfold setField
  rw [List.lookup_cons, beq_false_of_ne different]
  dsimp only
  induction fields with
  | nil => rfl
  | cons field fields inductionHypothesis =>
      obtain ⟨name, stored⟩ := field
      rw [List.filter_cons]
      split
      case isTrue kept =>
          rw [List.lookup_cons, List.lookup_cons, inductionHypothesis]
      case isFalse replaced =>
          have named : name = key := by simpa using replaced
          rw [List.lookup_cons, inductionHypothesis, named,
            beq_false_of_ne different]

/-- The enrichments of a catalog without the forms. -/
def Joined.formless (joined : Joined) : Joined :=
  { joined with form := fun _ => none }

/-- A profile is made of a row and its enrichment alone. -/
theorem profileFromItem_formless
    (joined : Joined)
    (id : String)
    (row : LibraryItem) :
    profileFromItem (servedItem read joined id row) =
      profileFromItem (servedItem read joined.formless id row) := by
  have same : ∀ key ∈ Ai.profileKeys,
      Json.get (.object (servedMetadata read joined id row)) key =
        Json.get (.object (servedMetadata read joined.formless id row))
          key := by
    intro key member
    have different : key ≠ "form_factor" := by
      rintro rfl
      exact absurd member (by decide)
    unfold servedMetadata
    cases formed : joined.form id with
    | none => rfl
    | some form => exact lookup_setField_of_ne different
  unfold profileFromItem servedItem
  dsimp only
  rw [Ai.fromMetadata_congr same]

end Serving
end Daemon
end Hearthdeck
