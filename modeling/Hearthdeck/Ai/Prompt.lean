import Hearthdeck.Ai.Profile
import Hearthdeck.Ai.Taxonomy
import Mathlib.Algebra.Order.Ring.Unbundled.Rat

/-!
# The questions and the answers

The model is asked four questions that it answers with a probability, and to
choose one of the labels of the taxonomy or the label of none of them.  The
label it returns is looked up in the taxonomy, and the category counts when it
belongs to the section the other answers imply.
-/

namespace Hearthdeck
namespace Ai

open Frontend
open Daemon (Json)

/-! ## Questions -/

/-- `Q_GAME`. -/
def qGame : String := "is_game"

/-- `Q_EMULATOR`. -/
def qEmulator : String := "is_emulator"

/-- `Q_WATCH`. -/
def qWatch : String := "is_watch_service"

/-- `Q_CATEGORY`. -/
def qCategory : String := "category"

/-- `Q_COUCH`. -/
def qCouch : String := "is_couch_friendly"

/-- The category that stands for no category. -/
def noneOfThese : CategoryDef where
  slug := ""
  name := "None of these"
  summary := "the app does not fit any of the listed categories"
  inSection := .applications
  rail := none

/-- `CATEGORY_NONE`. -/
def categoryNone : String :=
  "None of these - the app does not fit any of the listed categories"

/-- A question that is answered with a probability. -/
def noulQuestion (instructions no yes : String) : Json :=
  .object
    [("type", .string "noul"),
      ("instructions", .string instructions),
      ("criteria", .object [("false", .string no), ("true", .string yes)])]

def gameQuestion : Json :=
  noulQuestion
    ("The following application is a video game, i.e. software whose primary " ++
      "purpose is playing games. Emulators, game launchers and retro-game " ++
      "frontends count as games; media players, browsers and utilities do not.")
    "no, this is a general-purpose application, tool or media player"
    "yes, this is a video game or a game launcher"

def emulatorQuestion : Json :=
  noulQuestion
    ("The following application is a console or arcade emulator, or a " ++
      "retro-game frontend, i.e. software that runs ROM images of console and " ++
      "arcade games.")
    "no, this does not run console or arcade ROMs"
    "yes, this is a console or arcade emulator or a retro-game frontend"

def watchQuestion : Json :=
  noulQuestion
    ("The following application exists so that the user watches streaming, " ++
      "broadcast or on-demand video, such as Netflix, Disney+, Prime Video, " ++
      "Max, Crunchyroll, Hulu or a live-TV service. Local media players, games " ++
      "and video editors do not count.")
    "no, this is not a streaming or broadcast video service"
    "yes, this is a service for watching streaming or broadcast video"

def couchQuestion : Json :=
  noulQuestion
    ("The following application is used from a sofa, on a television, with " ++
      "only a gamepad or a remote: its interface is large and simple and it " ++
      "works without typing or precise pointing. Streaming clients, media " ++
      "centres, game launchers and console front-ends are made for that. Code " ++
      "editors, terminals, office suites, graphics tools, web browsers and " ++
      "system settings tools are not.")
    "no, this needs a keyboard and a mouse"
    "yes, this works comfortably with a gamepad on a television"

variable {lowercase : String → String}

/-- The criteria of the category question. -/
def criteria (taxonomy : Taxonomy lowercase) : List String :=
  taxonomy.categories.map CategoryDef.label ++ [categoryNone]

/-- `build_questions`. -/
def buildQuestions (taxonomy : Taxonomy lowercase) : List (String × Json) :=
  [(qGame, gameQuestion),
    (qEmulator, emulatorQuestion),
    (qWatch, watchQuestion),
    (qCouch, couchQuestion),
    (qCategory, .object
      [("type", .string "choice"),
        ("instructions", .string
          "Pick the single category that best describes this application."),
        ("criteria", .array ((criteria taxonomy).map .string))])]

/-! ## Answers -/

/-- `CategoryMatch`. -/
structure CategoryMatch where
  slug : String
  name : String
  confidence : ℚ

/-- `AppTraits`. -/
structure AppTraits where
  game : Option ℚ
  watchService : Option ℚ
  emulator : Option ℚ
  couch : Option ℚ

/-- `DecisionProvenance`. -/
inductive DecisionProvenance
  | laya
  | heuristic
  deriving DecidableEq

/-- `AppCategorization`. -/
structure AppCategorization where
  appId : String
  title : String
  inSection : Section
  sectionConfidence : ℚ
  categories : List CategoryMatch
  needsCategory : Bool
  traits : AppTraits
  provenance : DecisionProvenance
  rationale : Option String

/-- `section_from_traits`, before the confidence is rounded. -/
def sectionFromTraits
    (game emulator : Option ℚ)
    (threshold : ℚ) : Section × ℚ :=
  let game := game.getD 0
  let emulator := emulator.getD 0
  if threshold ≤ emulator then (.consoleGames, emulator)
  else if threshold ≤ game then (.pcGames, game)
  else (.applications, max 0 (min 1 (1 - game)))

section Answers

/- `Value::as_f64`. -/
variable (asF64 : Json → Option ℚ)

/- How a text is shown in a message (`{:?}`). -/
variable (debug : String → String)

/-- `noul`. -/
def noul (answer : Option Json) : Option ℚ :=
  (answer.bind fun answer => answer.get "noul").bind asF64

/-- `choice`. -/
def choice (answer : Option Json) : Option String :=
  (answer.bind fun answer => answer.get "choice").bind Json.asStr

/-- `probability`. -/
def probability (answer : Option Json) (label : String) : Option ℚ :=
  ((answer.bind fun answer => answer.get "probabilities").bind
    fun table => table.get label).bind asF64

/-- `confidence`. -/
def confidence (answer : Option Json) : ℚ :=
  ((answer.bind fun answer => answer.get "confidence").bind asF64).getD 0

/-- The match of `interpret`: the categories, whether one is missing, and
why. -/
def categorize
    (taxonomy : Taxonomy lowercase)
    (answer : Option Json)
    (inSection : Section) : List CategoryMatch × Bool × Option String :=
  match (choice answer).bind taxonomy.byLabel with
  | some category =>
      if category.inSection = inSection then
        ([⟨category.slug, category.name,
          (probability asF64 answer category.label).getD
            (confidence asF64 answer)⟩], false, none)
      else
        uncategorized
  | none => uncategorized
where
  /-- The arms of the match without a category. -/
  uncategorized : List CategoryMatch × Bool × Option String :=
    if inSection = .applications then
      ([], true, some
        (match choice answer with
        | some label =>
            "category answer " ++ debug label ++ " does not name a candidate"
        | none => "the model returned no category answer"))
    else
      ([], false, none)

/-- `interpret`. -/
def interpret
    (app : AppProfile)
    (answers : List (String × Json))
    (taxonomy : Taxonomy lowercase)
    (threshold : ℚ) : AppCategorization :=
  let game := noul asF64 (answers.lookup qGame)
  let emulator := noul asF64 (answers.lookup qEmulator)
  let (inSection, sectionConfidence) :=
    if game.isNone && emulator.isNone then (.applications, 0)
    else sectionFromTraits game emulator threshold
  let (categories, needsCategory, rationale) :=
    categorize asF64 debug taxonomy (answers.lookup qCategory) inSection
  { appId := app.id
    title := app.title
    inSection := inSection
    sectionConfidence := sectionConfidence
    categories := categories
    needsCategory := needsCategory
    traits :=
      { game := game
        watchService := noul asF64 (answers.lookup qWatch)
        emulator := emulator
        couch := noul asF64 (answers.lookup qCouch) }
    provenance := .laya
    rationale := rationale }

/-- What a match is about. -/
def CategoryMatch.named (found : CategoryMatch) : String × String :=
  (found.slug, found.name)

theorem categories_interpret
    (app : AppProfile)
    (answers : List (String × Json))
    (taxonomy : Taxonomy lowercase)
    (threshold : ℚ) :
    (interpret asF64 debug app answers taxonomy threshold).categories =
      (categorize asF64 debug taxonomy (answers.lookup qCategory)
        (interpret asF64 debug app answers taxonomy
          threshold).inSection).1 := rfl

theorem uncategorized_fst
    (answer : Option Json)
    (inSection : Section) :
    (categorize.uncategorized debug answer inSection).1 = [] := by
  unfold categorize.uncategorized
  split <;> rfl

/-- A category that is chosen is the match, where it is in the section. -/
theorem named_categories_interpret
    {app : AppProfile}
    {answers : List (String × Json)}
    {taxonomy : Taxonomy lowercase}
    {threshold : ℚ}
    {label : String}
    (chosen : choice (answers.lookup qCategory) = some label) :
    (interpret asF64 debug app answers taxonomy threshold).categories.map
        CategoryMatch.named =
      match taxonomy.byLabel label with
      | some category =>
          if category.inSection =
              (interpret asF64 debug app answers taxonomy threshold).inSection
          then [(category.slug, category.name)] else []
      | none => [] := by
  rw [categories_interpret]
  generalize (interpret asF64 debug app answers taxonomy
    threshold).inSection = inSection
  unfold categorize
  rw [chosen, Option.bind_some]
  cases taxonomy.byLabel label with
  | none =>
      dsimp only
      rw [uncategorized_fst, List.map_nil]
  | some category =>
      dsimp only
      split
      case isTrue => rfl
      case isFalse => rw [uncategorized_fst, List.map_nil]

end Answers

/-! ## What labels identify -/

/-- The label of none of the categories is the label of a category exactly if
the category has its two texts. -/
theorem label_eq_categoryNone_iff
    {category : CategoryDef} :
    category.label = categoryNone ↔
      category.name = noneOfThese.name ∧
        category.summary = noneOfThese.summary := by
  have isLabel : categoryNone = noneOfThese.label := by decide
  have plainName : ¬ labelSeparator.toList <:+: noneOfThese.name.toList := by
    decide
  have plainSummary :
      ¬ labelSeparator.toList <:+: noneOfThese.summary.toList := by
    decide +kernel
  rw [isLabel, label_eq_iff]
  constructor
  · rintro (alike | (⟨rest, name, _⟩ | ⟨name, _⟩) |
      (⟨rest, _, summary⟩ | ⟨_, summary⟩))
    · exact alike
    · refine absurd ⟨category.name.toList, rest.toList, ?_⟩ plainName
      rw [name, String.toList_append, String.toList_append]
    · have ends := congrArg (fun text => text.toList.getLast?) name
      simp [noneOfThese] at ends
    · refine absurd ⟨rest.toList, category.summary.toList, ?_⟩ plainSummary
      rw [summary, String.toList_append, String.toList_append]
    · have starts := congrArg (fun text => text.toList.head?) summary
      simp [noneOfThese] at starts
  · exact .inl

/-- No two categories have labels that can be cut at another place, and none
has the texts of the label of none of them. -/
def Unambiguous (categories : List CategoryDef) : Prop :=
  (∀ first ∈ categories, ∀ second ∈ categories, ¬ Clash first second) ∧
    ∀ category ∈ categories,
      ¬ (category.name = noneOfThese.name ∧
        category.summary = noneOfThese.summary)

/-- The criteria are different, every category is found by its label and by
its slug, and a choice is read as the category whose label it is. -/
def Identifies (taxonomy : Taxonomy lowercase) : Prop :=
  (criteria taxonomy).Nodup ∧
    (∀ category ∈ taxonomy.categories,
      taxonomy.byLabel category.label = some category ∧
        taxonomy.bySlug category.slug = some category) ∧
    ∀ asF64 debug app answers threshold,
      (∀ category ∈ taxonomy.categories,
        choice (answers.lookup qCategory) = some category.label →
        (interpret asF64 debug app answers taxonomy threshold).categories.map
            CategoryMatch.named =
          if category.inSection =
              (interpret asF64 debug app answers taxonomy threshold).inSection
          then [(category.slug, category.name)] else []) ∧
      (choice (answers.lookup qCategory) = some categoryNone →
        (interpret asF64 debug app answers taxonomy
          threshold).categories.map CategoryMatch.named = [])

theorem label_injective
    {taxonomy : Taxonomy lowercase}
    (clear : Unambiguous taxonomy.categories)
    {first second : CategoryDef}
    (inFirst : first ∈ taxonomy.categories)
    (inSecond : second ∈ taxonomy.categories)
    (same : first.label = second.label) :
    first = second := by
  rcases label_eq_iff.mp same with ⟨name, _⟩ | clash | clash
  · exact taxonomy.eq_of_name inFirst inSecond name
  · exact absurd clash (clear.1 first inFirst second inSecond)
  · exact absurd clash (clear.1 second inSecond first inFirst)

theorem byLabel_label
    {taxonomy : Taxonomy lowercase}
    (clear : Unambiguous taxonomy.categories)
    {category : CategoryDef}
    (member : category ∈ taxonomy.categories) :
    taxonomy.byLabel category.label = some category :=
  Foundation.find?_key_eq_some CategoryDef.label member fun _ isOther same =>
    label_injective clear isOther member same

theorem byLabel_categoryNone
    {taxonomy : Taxonomy lowercase}
    (clear : Unambiguous taxonomy.categories) :
    taxonomy.byLabel categoryNone = none := by
  unfold Taxonomy.byLabel
  rw [List.find?_eq_none]
  intro category member same
  exact clear.2 category member
    (label_eq_categoryNone_iff.mp (of_decide_eq_true same))

theorem nodup_criteria_iff
    {taxonomy : Taxonomy lowercase} :
    (criteria taxonomy).Nodup ↔ Unambiguous taxonomy.categories := by
  unfold criteria
  rw [List.nodup_append]
  constructor
  · rintro ⟨labels, _, others⟩
    refine ⟨fun first inFirst second inSecond clash => ?_,
      fun category member alike => ?_⟩
    · have same := List.inj_on_of_nodup_map labels inFirst inSecond
        (label_of_clash clash)
      subst same
      exact clash_irrefl first clash
    · exact others _ (List.mem_map_of_mem member) _ List.mem_cons_self
        (label_eq_categoryNone_iff.mpr alike)
  · intro clear
    refine ⟨?_, List.nodup_singleton _, ?_⟩
    · refine List.Nodup.map_on (fun first inFirst second inSecond =>
        label_injective clear inFirst inSecond) ?_
      exact List.Nodup.of_map _ taxonomy.accepted.names
    · intro label isLabel other isOther same
      obtain ⟨category, member, rfl⟩ := List.mem_map.mp isLabel
      rw [List.mem_singleton.mp isOther] at same
      exact clear.2 category member (label_eq_categoryNone_iff.mp same)

/-- The labels of a taxonomy identify its categories exactly if no two of them
can be cut at another place and none is the label of none of them. -/
theorem taxonomy_identifies_iff
    {debug : String → String}
    {categories : List CategoryDef}
    {taxonomy : Taxonomy lowercase}
    (made : Taxonomy.new lowercase debug categories = .ok taxonomy) :
    Identifies taxonomy ↔ Unambiguous categories := by
  rw [← Taxonomy.categories_new made]
  constructor
  · intro identifies
    exact nodup_criteria_iff.mp identifies.1
  · intro clear
    refine ⟨nodup_criteria_iff.mpr clear, fun category member =>
      ⟨byLabel_label clear member, taxonomy.bySlug_slug member⟩,
      fun asF64 debug app answers threshold => ⟨?_, ?_⟩⟩
    · intro category member chosen
      rw [named_categories_interpret asF64 debug chosen,
        byLabel_label clear member]
    · intro chosen
      rw [named_categories_interpret asF64 debug chosen,
        byLabel_categoryNone clear]

/-- The longer name of two categories that clash has a hyphen. -/
theorem hyphen_of_clash
    {shorter longer : CategoryDef}
    (clash : Clash shorter longer) :
    '-' ∈ longer.name.toList := by
  rcases clash with ⟨rest, name, _⟩ | ⟨name, _⟩
  · rw [name]
    simp [labelSeparator]
  · rw [name]
    simp

theorem taxonomy_identifies_iff_baseline :
    ∃ taxonomy : Taxonomy Language.ascii.lowercase,
      Taxonomy.new Language.ascii.lowercase id baselineCategories =
        .ok taxonomy ∧
      Identifies taxonomy := by
  have made : Taxonomy.new Language.ascii.lowercase id baselineCategories =
      .ok _ :=
    Taxonomy.new_of_accepted accepted_baseline
  refine ⟨_, made, (taxonomy_identifies_iff made).mpr ⟨?_, ?_⟩⟩
  · intro first _ second inSecond clash
    have plain : ∀ category ∈ baselineCategories,
        '-' ∉ category.name.toList := by decide +kernel
    exact plain second inSecond (hyphen_of_clash clash)
  · intro category member alike
    have other : ∀ category ∈ baselineCategories,
        category.name ≠ noneOfThese.name := by decide +kernel
    exact other category member alike.1

/-- Two categories with one label. -/
def comics : List CategoryDef :=
  [⟨"books", "Books", "Comics - Manga", .applications, none⟩,
    ⟨"comics", "Books - Comics", "Manga", .applications, none⟩]

theorem accepted_comics : Accepted Language.ascii.lowercase comics where
  named := by decide
  keyed := by decide
  names := by decide
  slugs := by decide

/-- They are accepted, their criteria repeat, and the label of the second one
is read as the first. -/
theorem comics_are_read_as_books :
    ∃ taxonomy : Taxonomy Language.ascii.lowercase,
      Taxonomy.new Language.ascii.lowercase id comics = .ok taxonomy ∧
      criteria taxonomy =
        ["Books - Comics - Manga", "Books - Comics - Manga", categoryNone] ∧
      (comics.map fun category =>
        (taxonomy.byLabel category.label).map CategoryDef.slug) =
          [some "books", some "books"] ∧
      ¬ Identifies taxonomy := by
  have repeated : ¬ (criteria (⟨comics, accepted_comics⟩ :
      Taxonomy Language.ascii.lowercase)).Nodup := by
    decide
  exact ⟨_, Taxonomy.new_of_accepted accepted_comics, by decide, by decide,
    fun identifies => repeated identifies.1⟩

end Ai
end Hearthdeck
