import Hearthdeck.Foundation.Table
import Mathlib.Data.Char
import Mathlib.Data.Finmap
import Mathlib.Data.List.Dedup
import Mathlib.Data.List.Infix
import Mathlib.Data.List.Lex
import Mathlib.Data.List.Sort

/-!
# The library and its filters

What a grid can be narrowed by: the section an entry belongs to, the tab of
the section, the facets of the filter drawer and the search box.  The tabs of
the two local sections follow from the catalog, those of the consoles from the
platforms the daemon reports.  What the user moved between the couch and the
desktop is laid over the records the daemon sends.

The words of the user's language and the case tables of Unicode come from
outside the program.
-/

namespace Hearthdeck
namespace Frontend

open Foundation

/-- What the shell takes from its surroundings to read and write text. -/
structure Language where
  /-- `fl!`: the message of an identifier in the user's language. -/
  text : String → String
  /-- `str::to_lowercase`. -/
  lowercase : String → String

/-- A language whose messages are their identifiers.  On ASCII text its lower
case is the one of Unicode. -/
def Language.ascii : Language where
  text := id
  lowercase text := .ofList (text.toList.map Char.toLower)

/-! ## Text -/

/-- What follows a head in a text that starts with it. -/
def stripped (head text : String) : Option String :=
  if head.toList.isPrefixOf text.toList then
    some (.ofList (text.toList.drop head.toList.length))
  else
    none

/-- `eq_ignore_ascii_case`. -/
def eqIgnoreAsciiCase (left right : String) : Bool :=
  left.toList.map Char.toLower == right.toList.map Char.toLower

/-- What follows a head in a text that starts with it in any case. -/
def strippedIgnoreCase (head text : String) : Option String :=
  if eqIgnoreAsciiCase
      (.ofList (text.toList.take head.toList.length)) head then
    some (.ofList (text.toList.drop head.toList.length))
  else
    none

/-- `split_once`, on characters. -/
def splitOnce (separator : Char) :
    List Char → Option (List Char × List Char)
  | [] => none
  | char :: chars =>
      if char = separator then
        some ([], chars)
      else
        (splitOnce separator chars).map fun parts =>
          (char :: parts.1, parts.2)

theorem splitOnce_append
    {separator : Char}
    {front : List Char}
    (plain : separator ∉ front)
    (back : List Char) :
    splitOnce separator (front ++ separator :: back) = some (front, back) := by
  induction front with
  | nil =>
      rw [List.nil_append, splitOnce, if_pos rfl]
  | cons head front inductionHypothesis =>
      rw [List.mem_cons, not_or] at plain
      rw [List.cons_append, splitOnce, if_neg (Ne.symm plain.1),
        inductionHypothesis plain.2]
      rfl

/-- What is split has no separator before the split. -/
theorem splitOnce_eq_some
    {separator : Char}
    {text front back : List Char}
    (cut : splitOnce separator text = some (front, back)) :
    text = front ++ separator :: back ∧ separator ∉ front := by
  induction text generalizing front with
  | nil => cases cut
  | cons head text inductionHypothesis =>
      rw [splitOnce] at cut
      split at cut
      case isTrue same =>
          cases cut
          exact ⟨by rw [same, List.nil_append], List.not_mem_nil⟩
      case isFalse different =>
          obtain ⟨parts, cuts, same⟩ := Option.map_eq_some_iff.mp cut
          cases same
          obtain ⟨whole, plain⟩ := inductionHypothesis cuts
          refine ⟨by rw [whole, List.cons_append], ?_⟩
          rw [List.mem_cons, not_or]
          exact ⟨Ne.symm different, plain⟩

/-- The number a nonempty list of digits writes. -/
def parseDigits (chars : List Char) : Option Nat :=
  if chars.isEmpty || !chars.all Char.isDigit then
    none
  else
    some (chars.foldl
      (fun value char => 10 * value + (char.toNat - '0'.toNat)) 0)

/-- `str::parse::<i64>`. -/
def parseI64 (text : String) : Option Int :=
  let value : Option Int :=
    match text.toList with
    | '+' :: digits => (parseDigits digits).map Int.ofNat
    | '-' :: digits => (parseDigits digits).map fun value => -Int.ofNat value
    | digits => (parseDigits digits).map Int.ofNat
  value.filter fun value => -2 ^ 63 ≤ value && value < 2 ^ 63

/-- The elements of a `BTreeSet` of texts, in its order. -/
def sortedTexts (values : List String) : List String :=
  values.dedup.insertionSort fun left right => left.toList ≤ right.toList

/-- The values of a `BTreeMap` collected from a list, in the order of their
keys.  Of two rows with one key the later stays. -/
def sortedValues (rows : List (String × String)) : List String :=
  let map := rows.foldl (fun map row => map.insert row.1 row.2)
    (∅ : Table String String)
  let ordered := map.entries.insertionSort fun left right =>
    left.1.toList ≤ right.1.toList
  ordered.map Sigma.snd

/-! ## Entries -/

/-- `Section`. -/
inductive Section
  | pcGames
  | consoleGames
  | applications
  deriving DecidableEq, Repr

/-- How many sections the sidebar offers. -/
def Section.count : Nat := 3

/-- `FormFactor`. -/
inductive FormFactor
  | couch
  | desktop
  deriving DecidableEq, Repr

namespace FormFactor

def categoryValue : FormFactor → String
  | couch => "hearthdeck-form:couch"
  | desktop => "hearthdeck-form:desktop"

def other : FormFactor → FormFactor
  | couch => desktop
  | desktop => couch

def fromCategory (category : String) : Option FormFactor :=
  [couch, desktop].find? fun form =>
    eqIgnoreAsciiCase category form.categoryValue

end FormFactor

/-- `IconSource`. -/
inductive IconSource
  | name (name : String)
  | path (path : String)
  deriving DecidableEq, Repr

structure ConsoleMetadata where
  platformId : Int
  genres : List String
  regions : List String
  deriving DecidableEq, Repr

/-- A library entry, as the daemon describes it. -/
structure LibraryItem where
  id : String
  name : String
  exec : Option String
  icon : IconSource
  categories : List String
  wmClass : Option String
  formFactor : Option FormFactor
  store : Option String
  sources : List String
  console : Option ConsoleMetadata
  inSection : Section
  deriving DecidableEq, Repr

def storeFilterHead : String := "hearthdeck-store:"

def sourceFilterHead : String := "hearthdeck-source:"

def consoleFilterHead : String := "hearthdeck-console:"

namespace LibraryItem

/-- `form_factor::of`. -/
def form (entry : LibraryItem) : FormFactor :=
  entry.formFactor.getD .desktop

/-- The typed metadata a category with a colon names, if it names any. -/
def matchesTyped
    (language : Language)
    (entry : LibraryItem)
    (category : String) : Option Bool :=
  (splitOnce ':' category.toList).bind fun parts =>
    let kind := String.ofList parts.1
    let value := String.ofList parts.2
    let named (values : List String) : Bool := values.any fun name =>
      language.lowercase name == language.lowercase value
    if eqIgnoreAsciiCase kind "hearthdeck-console" then
      some (entry.console.any fun console =>
        toString console.platformId == value)
    else if eqIgnoreAsciiCase kind "hearthdeck-genre" then
      some (entry.console.any fun console => named console.genres)
    else if eqIgnoreAsciiCase kind "hearthdeck-region" then
      some (entry.console.any fun console => named console.regions)
    else
      none

/-- `matches_category`. -/
def matchesCategory
    (language : Language)
    (entry : LibraryItem)
    (category : String) : Bool :=
  match entry.matchesTyped language category with
  | some answer => answer
  | none =>
      match strippedIgnoreCase storeFilterHead category with
      | some store => entry.store.any fun value =>
          language.lowercase value == language.lowercase store
      | none =>
          match strippedIgnoreCase sourceFilterHead category with
          | some source => entry.sources.any fun value =>
              language.lowercase value == language.lowercase source
          | none =>
              match FormFactor.fromCategory category with
              | some form => entry.formFactor == some form
              | none => entry.categories.any fun value =>
                  language.lowercase value == language.lowercase category

/-- `store_filter_value`. -/
def storeFilterValue (entry : LibraryItem) : Option String :=
  entry.store.map fun store => storeFilterHead ++ store

/-- `source_filter_values`. -/
def sourceFilterValues (entry : LibraryItem) : List String :=
  entry.sources.map fun source => sourceFilterHead ++ source

/-- `matches_facet`. -/
def matchesFacet
    (language : Language)
    (entry : LibraryItem)
    (value : String) : Bool :=
  match stripped consoleFilterHead value with
  | some platform => entry.console.any fun console =>
      toString console.platformId == platform
  | none =>
  match stripped "hearthdeck-genre:" value with
  | some genre => entry.console.any fun console =>
      console.genres.contains genre
  | none =>
  match stripped "hearthdeck-region:" value with
  | some region => entry.console.any fun console =>
      console.regions.contains region
  | none =>
  match stripped storeFilterHead value with
  | some store => entry.store == some store
  | none =>
  match stripped sourceFilterHead value with
  | some source => entry.sources.contains source
  | none =>
      if (FormFactor.fromCategory value).isSome then
        entry.matchesCategory language value
      else
        entry.categories.contains value

end LibraryItem

/-- `LibraryItem::default`. -/
def LibraryItem.default : LibraryItem where
  id := ""
  name := ""
  exec := none
  icon := .name ""
  categories := []
  wmClass := none
  formFactor := none
  store := none
  sources := []
  console := none
  inSection := .applications

/-! ## Tabs -/

/-- `FilterType`. -/
inductive FilterType
  | appIds (ids : List String)
  | categories (categories excludes includes : List String)
  | none
  deriving DecidableEq, Repr

/-- One tab of a section. -/
structure AppGroup where
  name : String
  icon : String
  filter : FilterType
  deriving DecidableEq, Repr

namespace AppGroup

/-- `AppGroup::matches`. -/
def matchesEntry
    (language : Language)
    (group : AppGroup)
    (entry : LibraryItem) : Bool :=
  match group.filter with
  | .appIds ids => ids.contains entry.id
  | .categories categories excludes includes =>
      categories.any (entry.matchesCategory language) &&
          !excludes.contains entry.id ||
        includes.contains entry.id
  | .none => true

/-- `romm_platform_id`. -/
def rommPlatformId (group : AppGroup) : Option Int :=
  match group.filter with
  | .categories categories _ _ => categories.findSome? fun category =>
      (stripped consoleFilterHead category).bind parseI64
  | _ => none

/-- A tab that shows the entries of one category. -/
def ofCategory (name category : String) : AppGroup where
  name := name
  icon := "folder-symbolic"
  filter := .categories [category] [] []

end AppGroup

/-- The name the Desktop tab is stored under. -/
def desktopTabName : String := "hearthdeck-desktop"

/-- `romm_console_category`. -/
def rommConsoleCategory (platformId : Int) : String :=
  consoleFilterHead ++ toString platformId

/-- The entries of a section. -/
def ofSection
    (inSection : Section)
    (entries : List LibraryItem) : List LibraryItem :=
  entries.filter fun entry => inSection = entry.inSection

/-- `derived_groups`: the tabs a section derives from the entries. -/
def derivedGroups
    (language : Language)
    (inSection : Section)
    (entries : List LibraryItem) : List AppGroup :=
  let shown := ofSection inSection entries
  match inSection with
  | .pcGames =>
      let stores := shown.filterMap LibraryItem.storeFilterValue
      (sortedValues (stores.map fun value =>
        (language.lowercase value, value))).map fun category =>
          .ofCategory ((stripped storeFilterHead category).getD category)
            category
  | .applications =>
      if shown.any fun entry => entry.form = .desktop then
        [.ofCategory desktopTabName FormFactor.desktop.categoryValue]
      else
        []
  | .consoleGames => []

/-- `Sections`: the tabs of each section. -/
structure Sections where
  pcGames : List AppGroup
  consoleGames : List AppGroup
  applications : List AppGroup
  deriving DecidableEq

namespace Sections

def empty : Sections where
  pcGames := []
  consoleGames := []
  applications := []

def get (tabs : Sections) : Section → List AppGroup
  | .pcGames => tabs.pcGames
  | .consoleGames => tabs.consoleGames
  | .applications => tabs.applications

/-- `sync_category_groups`. -/
def syncCategoryGroups
    (language : Language)
    (tabs : Sections)
    (entries : List LibraryItem) : Sections :=
  { tabs with
    pcGames := derivedGroups language .pcGames entries
    applications := derivedGroups language .applications entries }

/-- The tabs of the platforms the daemon reports. -/
def consoleGroups (platforms : List (Int × String)) : List AppGroup :=
  platforms.map fun platform =>
    .ofCategory platform.2 (rommConsoleCategory platform.1)

/-- `sync_console_groups`.  Whether the tabs changed is not used. -/
def syncConsoleGroups
    (tabs : Sections)
    (platforms : List (Int × String)) : Sections :=
  { tabs with consoleGames := consoleGroups platforms }

/-- `filtered_by_facets`: what one tab of one section shows. -/
def filteredByFacets
    (language : Language)
    (tabs : Sections)
    (inSection : Section)
    (tab : Option Nat)
    (input : String)
    (entries : List LibraryItem)
    (facets : Finmap fun _ : String => String) : List LibraryItem :=
  let group := tab.bind fun index => (tabs.get inSection)[index]?
  -- A search looks through both forms, the plain view through one.
  let couchOnly :=
    inSection = .applications && tab.isNone && input.isEmpty
  let named (entry : LibraryItem) : Bool :=
    (language.lowercase input).toList <:+:
      (language.lowercase entry.name).toList
  entries.filter fun entry =>
    inSection = entry.inSection &&
      !(couchOnly && entry.form ≠ .couch) &&
      group.all (fun group => group.matchesEntry language entry) &&
      facets.all (fun _ value => entry.matchesFacet language value) &&
      (input.isEmpty || named entry || entry.matchesCategory language input)

end Sections

/-! ## What the user moved -/

/-- `AppLibraryConfig`. -/
structure AppLibraryConfig where
  desktopInputApps : List String
  /-- The applications the user moved between the couch and the desktop. -/
  formOverrides : Finmap fun _ : String => FormFactor

namespace AppLibraryConfig

/-- `toggle_desktop_input`. -/
def toggleDesktopInput
    (config : AppLibraryConfig)
    (id : String) : AppLibraryConfig :=
  if config.desktopInputApps.contains id then
    { config with
      desktopInputApps := config.desktopInputApps.filter fun other =>
        other ≠ id }
  else
    { config with desktopInputApps := config.desktopInputApps ++ [id] }

/-- `set_form_override`. -/
def setFormOverride
    (config : AppLibraryConfig)
    (id : String)
    (form : FormFactor) : AppLibraryConfig :=
  { config with formOverrides := config.formOverrides.insert id form }

/-- `apply_form_overrides`. -/
def applyFormOverrides
    (config : AppLibraryConfig)
    (entries : List LibraryItem) : List LibraryItem :=
  entries.map fun entry =>
    match config.formOverrides.lookup entry.id with
    | some form =>
        if entry.form ≠ form then
          { entry with formFactor := some form }
        else
          entry
    | none => entry

end AppLibraryConfig

/-- `Catalog`: the daemon's records, and the records with the user's forms
laid over them. -/
structure Catalog where
  source : List LibraryItem
  entries : List LibraryItem

namespace Catalog

def empty : Catalog where
  source := []
  entries := []

/-- `project`, and whether the effective catalog changed. -/
def project
    (catalog : Catalog)
    (config : AppLibraryConfig) : Catalog × Bool :=
  let entries := config.applyFormOverrides catalog.source
  if entries = catalog.entries then
    (catalog, false)
  else
    ({ catalog with entries := entries }, true)

/-- `replace`: every update of the source is kept, also one that an override
hides. -/
def replace
    (catalog : Catalog)
    (source : List LibraryItem)
    (config : AppLibraryConfig) : Catalog × Bool :=
  { catalog with source := source }.project config

end Catalog

/-! ## The filter drawer -/

/-- One value of a facet. -/
structure FacetOption where
  value : String
  label : String
  deriving DecidableEq, Repr

/-- A dimension a source can be narrowed by. -/
structure Facet where
  id : String
  label : String
  options : List FacetOption
  deriving DecidableEq, Repr

/-- `cycle`: the value an arrow of a facet steps to. -/
def Facet.cycle
    (facet : Facet)
    (current : Option String)
    (delta : Int) : Option String :=
  let position := current.bind fun value =>
    facet.options.findIdx? fun option => option.value = value
  let index : Int := (position.map fun position => (position : Int) + 1).getD 0
  let next := (index + delta) % ((facet.options.length : Int) + 1)
  if next = 0 then
    none
  else
    (facet.options[(next - 1).toNat]?).map FacetOption.value

/-- `source_label`. -/
def sourceLabel : String → String
  | "system" => "System"
  | "local" => "Local"
  | "flatpak" => "Flatpak"
  | "snap" => "Snap"
  | "nix" => "Nix"
  | "streaming" => "Streaming"
  | other => other

/-- `facet_value_label`. -/
def facetValueLabel (value : String) : String :=
  match stripped sourceFilterHead value with
  | some source => sourceLabel source
  | none => (stripped storeFilterHead value).getD value

/-- `inSectionfacets`: a dimension with fewer than two values is no choice. -/
def sectionFacets
    (language : Language)
    (inSection : Section)
    (entries : List LibraryItem) : List Facet :=
  let shown := ofSection inSection entries
  let facet (id label : String) (values : List String) : List Facet :=
    let options := (sortedTexts values).map fun value =>
      { value := value
        label := facetValueLabel value : FacetOption }
    if options.length < 2 then
      []
    else
      [{ id := id, label := label, options := options }]
  match inSection with
  | .pcGames => facet "store" (language.text "filter-store")
      (shown.filterMap LibraryItem.storeFilterValue)
  | .applications => facet "source" (language.text "filter-source")
      (shown.flatMap LibraryItem.sourceFilterValues)
  | .consoleGames => []

/-- The message with the name of a facet of the consoles, if it has one. -/
def rommFacetName : String → Option String
  | "genre" => some "filter-genre"
  | "region" => some "filter-region"
  | _ => none

/-- `BTreeMap::retain`. -/
def retain
    (keep : String → String → Bool)
    (selected : Finmap fun _ : String => String) :
    Finmap fun _ : String => String :=
  selected.liftOn (fun table => (Table.filter keep table).toFinmap) (by
    intro left right same
    exact AList.toFinmap_eq.mpr (same.filter _))

/-- What the drawer reacts to. -/
inductive FilterMessage
  | select (facet : String) (value : Option String)
  | cycle (row : Nat) (delta : Int)
  | toggle
  | close
  | clear

/-- Whether a change of the drawer asks for the list to be filtered again. -/
inductive FilterEffect
  | none
  | refilter
  deriving DecidableEq, Repr

/-- `filters::State`. -/
structure Filters where
  facets : List Facet
  selected : Finmap fun _ : String => String
  isOpen : Bool

namespace Filters

def empty : Filters where
  facets := []
  selected := ∅
  isOpen := false

/-- The `Select` arm of `filters::State::update`. -/
def select
    (filters : Filters)
    (facet : String)
    (value : Option String) : Filters :=
  { filters with
    selected :=
      match value with
      | some value => filters.selected.insert facet value
      | none => filters.selected.erase facet }

/-- `filters::State::update`. -/
def update
    (filters : Filters) : FilterMessage → Filters × FilterEffect
  | .select facet value => (filters.select facet value, .refilter)
  | .cycle row delta =>
      match filters.facets[row]? with
      | none => (filters, .none)
      | some facet =>
          (filters.select facet.id
              (facet.cycle (filters.selected.lookup facet.id) delta),
            .refilter)
  | .clear => ({ filters with selected := ∅ }, .refilter)
  | .toggle => ({ filters with isOpen := !filters.isOpen }, .none)
  | .close => ({ filters with isOpen := false }, .none)

/-- `load_console_facets`. -/
def loadConsoleFacets
    (language : Language)
    (filters : Filters)
    (facets : List Facet) : Filters :=
  { filters with
    facets := facets.map fun facet =>
      match rommFacetName facet.id with
      | some message => { facet with label := language.text message }
      | none => facet }

/-- `load_local_facets`: a selection its facet no longer offers is dropped. -/
def loadLocalFacets
    (language : Language)
    (filters : Filters)
    (inSection : Section)
    (entries : List LibraryItem) : Filters :=
  if inSection ≠ .consoleGames then
    let facets := sectionFacets language inSection entries
    { filters with
      facets := facets
      selected := retain (fun id value => facets.any fun facet =>
        facet.id = id && facet.options.any fun option =>
          option.value = value) filters.selected }
  else
    filters

/-- `clear_source`. -/
def clearSource (filters : Filters) : Filters :=
  { filters with
    facets := []
    selected := ∅ }

end Filters
end Frontend
end Hearthdeck
