import Hearthdeck.Daemon.Serving

/-!
# What a decision may read about an application

The metadata of a record is flattened into a profile: texts without the space
around them, lists of such texts, and a map of texts.  Only the keys named
here are read.
-/

namespace Hearthdeck
namespace Ai

open Daemon (Json)
open Frontend

/-- `AppKind`. -/
inductive AppKind
  | game
  | application
  | other
  deriving DecidableEq, Repr

/-- `AppKind::parse`. -/
def AppKind.parse (value : String) : AppKind :=
  if value = "game" then .game
  else if value = "application" then .application
  else .other

/-- `AppProfile`. -/
structure AppProfile where
  id : String
  title : String
  kind : Option AppKind
  summary : Option String
  description : Option String
  developer : Option String
  exec : Option String
  store : Option String
  platform : Option String
  sourceId : Option String
  categories : List String
  keywords : List String
  /-- In the order of the object they are read from. -/
  urls : List (String × String)
  deriving DecidableEq

/-- `string_at`. -/
def stringAt (value : Json) (key : String) : Option String :=
  (((value.get key).bind Json.asStr).map trimmed).filter
    fun text => !text.isEmpty

/-- `string_list_at`. -/
def stringListAt (value : Json) (key : String) : List String :=
  (((value.get key).bind Json.asArray).map fun items =>
    ((items.filterMap Json.asStr).map trimmed).filter
      fun text => !text.isEmpty).getD []

/-- `string_map_at`. -/
def stringMapAt (value : Json) (key : String) : List (String × String) :=
  match value.get key with
  | some (.object fields) =>
      fields.filterMap fun (key, value) =>
        value.asStr.map fun text => (key, text)
  | _ => []

/-- `AppProfile::from_metadata`. -/
def AppProfile.fromMetadata
    (id title : String)
    (kind : Option AppKind)
    (metadata : Json) : AppProfile where
  id := id
  title := title
  kind := kind
  summary := (stringAt metadata "summary").or (stringAt metadata "comment")
  description := stringAt metadata "description"
  developer := stringAt metadata "developer"
  exec := stringAt metadata "exec"
  store := stringAt metadata "store"
  platform := stringAt metadata "platform"
  sourceId := stringAt metadata "source_id"
  categories := stringListAt metadata "categories"
  keywords := stringListAt metadata "keywords"
  urls := stringMapAt metadata "urls"

/-- The keys that are read of metadata. -/
def profileKeys : List String :=
  ["summary", "comment", "description", "developer", "exec", "store",
    "platform", "source_id", "categories", "keywords", "urls"]

/-- Metadata that has the same values at these keys has the same profile. -/
theorem fromMetadata_congr
    {id title : String}
    {kind : Option AppKind}
    {first second : Json}
    (same : ∀ key ∈ profileKeys, first.get key = second.get key) :
    AppProfile.fromMetadata id title kind first =
      AppProfile.fromMetadata id title kind second := by
  have text : ∀ key ∈ profileKeys,
      stringAt first key = stringAt second key := by
    intro key member
    unfold stringAt
    rw [same key member]
  have list : ∀ key ∈ profileKeys,
      stringListAt first key = stringListAt second key := by
    intro key member
    unfold stringListAt
    rw [same key member]
  have map : stringMapAt first "urls" = stringMapAt second "urls" := by
    unfold stringMapAt
    rw [same "urls" (by decide)]
  unfold AppProfile.fromMetadata
  rw [text "summary" (by decide), text "comment" (by decide),
    text "description" (by decide), text "developer" (by decide),
    text "exec" (by decide), text "store" (by decide),
    text "platform" (by decide), text "source_id" (by decide),
    list "categories" (by decide), list "keywords" (by decide), map]

end Ai
end Hearthdeck
