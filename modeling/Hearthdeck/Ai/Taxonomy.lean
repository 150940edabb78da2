import Hearthdeck.Foundation.KeySort
import Hearthdeck.Frontend.Library
import Hearthdeck.Frontend.RommForm

/-!
# The categories a scan chooses from

A category is offered to the model as one text, its name and its summary with
a separator between them, and what the model returns is looked up among these
texts.  A taxonomy has no two categories with one name or one slug, in any
case of letters.  That does not keep the texts apart: a name or a summary with
the separator in it can be cut at another place.
-/

namespace Hearthdeck
namespace Ai

open Frontend

/-! ## Categories -/

/-- `Rail`. -/
structure Rail where
  id : String
  name : String
  deriving DecidableEq

/-- `CategoryDef`. -/
structure CategoryDef where
  slug : String
  name : String
  summary : String
  inSection : Section
  rail : Option Rail
  deriving DecidableEq

/-- What stands between the name and the summary in a label. -/
def labelSeparator : String := " - "

/-- `CategoryDef::label`. -/
def CategoryDef.label (category : CategoryDef) : String :=
  category.name ++ labelSeparator ++ category.summary

/-- `Error`, as far as a taxonomy has one. -/
inductive Error
  | invalid (message : String)
  deriving DecidableEq

section Checks

/- `str::to_lowercase`. -/
variable (lowercase : String → String)

/- How a text is shown in a message (`{:?}`). -/
variable (debug : String → String)

/-- The loop of `Taxonomy::new`, told the names and slugs it has seen. -/
def check : List String → List String → List CategoryDef → Except Error Unit
  | _, _, [] => .ok ()
  | names, slugs, category :: categories =>
      if (trimmed category.name).isEmpty then
        .error (.invalid "category name is empty")
      else if (trimmed category.slug).isEmpty then
        .error (.invalid "category slug is empty")
      else if lowercase category.name ∈ names then
        .error (.invalid ("duplicate category name " ++ debug category.name))
      else if lowercase category.slug ∈ slugs then
        .error (.invalid ("duplicate category slug " ++ debug category.slug))
      else
        check (lowercase category.name :: names)
          (lowercase category.slug :: slugs) categories

/-- A list of categories that a taxonomy can have. -/
structure Accepted (categories : List CategoryDef) : Prop where
  named : ∀ category ∈ categories, (trimmed category.name).isEmpty = false
  keyed : ∀ category ∈ categories, (trimmed category.slug).isEmpty = false
  names : (categories.map fun category => lowercase category.name).Nodup
  slugs : (categories.map fun category => lowercase category.slug).Nodup

theorem accepted_cons_iff
    {category : CategoryDef}
    {categories : List CategoryDef} :
    Accepted lowercase (category :: categories) ↔
      (trimmed category.name).isEmpty = false ∧
        (trimmed category.slug).isEmpty = false ∧
        (∀ other ∈ categories,
          lowercase other.name ≠ lowercase category.name ∧
            lowercase other.slug ≠ lowercase category.slug) ∧
        Accepted lowercase categories := by
  constructor
  · intro accepted
    obtain ⟨newName, names⟩ := List.nodup_cons.mp accepted.names
    obtain ⟨newSlug, slugs⟩ := List.nodup_cons.mp accepted.slugs
    refine ⟨accepted.named _ List.mem_cons_self,
      accepted.keyed _ List.mem_cons_self, fun other member => ⟨?_, ?_⟩,
      ⟨fun other member => accepted.named _ (List.mem_cons_of_mem _ member),
        fun other member => accepted.keyed _ (List.mem_cons_of_mem _ member),
        names, slugs⟩⟩
    · intro same
      exact newName (List.mem_map.mpr ⟨other, member, same⟩)
    · intro same
      exact newSlug (List.mem_map.mpr ⟨other, member, same⟩)
  · rintro ⟨named, keyed, apart, accepted⟩
    refine ⟨List.forall_mem_cons.mpr ⟨named, accepted.named⟩,
      List.forall_mem_cons.mpr ⟨keyed, accepted.keyed⟩,
      List.nodup_cons.mpr ⟨?_, accepted.names⟩,
      List.nodup_cons.mpr ⟨?_, accepted.slugs⟩⟩
    · rintro inside
      obtain ⟨other, member, same⟩ := List.mem_map.mp inside
      exact (apart other member).1 same
    · rintro inside
      obtain ⟨other, member, same⟩ := List.mem_map.mp inside
      exact (apart other member).2 same

/-- The loop takes the categories that are accepted and have no name and no
slug it has seen. -/
theorem check_eq_ok_iff
    (names slugs : List String)
    (categories : List CategoryDef) :
    check lowercase debug names slugs categories = .ok () ↔
      Accepted lowercase categories ∧
        ∀ category ∈ categories,
          lowercase category.name ∉ names ∧
            lowercase category.slug ∉ slugs := by
  induction categories generalizing names slugs with
  | nil =>
      refine iff_of_true rfl ⟨⟨?_, ?_, ?_, ?_⟩, ?_⟩ <;> simp
  | cons category categories inductionHypothesis =>
      rw [check, accepted_cons_iff, List.forall_mem_cons]
      split
      case isTrue empty => simp [empty]
      case isFalse named =>
          split
          case isTrue empty => simp [empty]
          case isFalse keyed =>
              split
              case isTrue seen => simp [seen]
              case isFalse newName =>
                  split
                  case isTrue seen => simp [seen]
                  case isFalse newSlug =>
                      rw [inductionHypothesis]
                      constructor
                      · rintro ⟨accepted, unseen⟩
                        refine ⟨⟨Bool.eq_false_of_not_eq_true named,
                          Bool.eq_false_of_not_eq_true keyed,
                          fun other member => ?_, accepted⟩,
                          ⟨newName, newSlug⟩, fun other member => ?_⟩
                        · obtain ⟨name, slug⟩ := unseen other member
                          exact ⟨List.ne_of_not_mem_cons name,
                            List.ne_of_not_mem_cons slug⟩
                        · obtain ⟨name, slug⟩ := unseen other member
                          exact ⟨List.not_mem_of_not_mem_cons name,
                            List.not_mem_of_not_mem_cons slug⟩
                      · rintro ⟨⟨_, _, apart, accepted⟩, _, unseen⟩
                        refine ⟨accepted, fun other member => ?_⟩
                        obtain ⟨name, slug⟩ := apart other member
                        obtain ⟨newName, newSlug⟩ := unseen other member
                        exact ⟨List.not_mem_cons_of_ne_of_not_mem name newName,
                          List.not_mem_cons_of_ne_of_not_mem slug newSlug⟩

/-- `Taxonomy`: only what `Taxonomy::new` takes becomes one. -/
structure Taxonomy where
  categories : List CategoryDef
  accepted : Accepted lowercase categories

/-- `Taxonomy::new`. -/
def Taxonomy.new (categories : List CategoryDef) :
    Except Error (Taxonomy lowercase) :=
  match checked : check lowercase debug [] [] categories with
  | .error error => .error error
  | .ok () =>
      .ok ⟨categories, ((check_eq_ok_iff lowercase debug _ _ _).mp checked).1⟩

variable {lowercase debug}

theorem Taxonomy.categories_new
    {categories : List CategoryDef}
    {taxonomy : Taxonomy lowercase}
    (made : Taxonomy.new lowercase debug categories = .ok taxonomy) :
    taxonomy.categories = categories := by
  unfold Taxonomy.new at made
  split at made
  · cases made
  · cases made
    rfl

theorem Taxonomy.new_of_accepted
    {categories : List CategoryDef}
    (accepted : Accepted lowercase categories) :
    Taxonomy.new lowercase debug categories = .ok ⟨categories, accepted⟩ := by
  have checked : check lowercase debug [] [] categories = .ok () :=
    (check_eq_ok_iff lowercase debug _ _ _).mpr ⟨accepted, by simp⟩
  unfold Taxonomy.new
  split
  case h_1 error failed =>
      rw [checked] at failed
      cases failed
  case h_2 => rfl

end Checks

/-! ## Looking categories up -/

variable {lowercase : String → String}

/-- `Taxonomy::by_slug`. -/
def Taxonomy.bySlug
    (taxonomy : Taxonomy lowercase)
    (slug : String) : Option CategoryDef :=
  taxonomy.categories.find? fun category => category.slug = slug

/-- `Taxonomy::by_label`. -/
def Taxonomy.byLabel
    (taxonomy : Taxonomy lowercase)
    (label : String) : Option CategoryDef :=
  taxonomy.categories.find? fun category => category.label = label

theorem Taxonomy.eq_of_name
    (taxonomy : Taxonomy lowercase)
    {first second : CategoryDef}
    (inFirst : first ∈ taxonomy.categories)
    (inSecond : second ∈ taxonomy.categories)
    (same : first.name = second.name) :
    first = second :=
  List.inj_on_of_nodup_map taxonomy.accepted.names inFirst inSecond
    (congrArg lowercase same)

/-- Every category is found by its slug. -/
theorem Taxonomy.bySlug_slug
    (taxonomy : Taxonomy lowercase)
    {category : CategoryDef}
    (member : category ∈ taxonomy.categories) :
    taxonomy.bySlug category.slug = some category := by
  refine Foundation.find?_key_eq_some CategoryDef.slug member ?_
  intro other isOther same
  exact List.inj_on_of_nodup_map taxonomy.accepted.slugs isOther member
    (congrArg lowercase same)

/-! ## Labels -/

/-- The label of a category can be cut so that it is the label of another,
which has the longer name: what its name has more is a separator and some
more, or the first two characters of a separator whose last character is the
last of the next. -/
def Clash (shorter longer : CategoryDef) : Prop :=
  (∃ rest,
    longer.name = shorter.name ++ labelSeparator ++ rest ∧
      shorter.summary = rest ++ labelSeparator ++ longer.summary) ∨
    longer.name = shorter.name ++ " -" ∧
      shorter.summary = "- " ++ longer.summary

theorem label_of_clash
    {shorter longer : CategoryDef}
    (clash : Clash shorter longer) :
    shorter.label = longer.label := by
  unfold CategoryDef.label
  rcases clash with ⟨rest, name, summary⟩ | ⟨name, summary⟩
  · rw [name, summary]
    simp only [String.append_assoc]
  · rw [name, summary]
    simp only [String.append_assoc]
    rfl

/-- The label of a category with the shorter name is that of another. -/
theorem clash_of_label
    {shorter longer : CategoryDef}
    {more : List Char}
    (name : longer.name.toList = shorter.name.toList ++ more)
    (same : labelSeparator.toList ++ shorter.summary.toList =
      more ++ (labelSeparator.toList ++ longer.summary.toList)) :
    shorter.name = longer.name ∧ shorter.summary = longer.summary ∨
      Clash shorter longer := by
  change ' ' :: '-' :: ' ' :: shorter.summary.toList =
    more ++ ' ' :: '-' :: ' ' :: longer.summary.toList at same
  match more with
  | [] =>
      left
      simp only [List.nil_append, List.cons.injEq, true_and] at same
      rw [List.append_nil] at name
      exact ⟨String.ext name.symm, String.ext same⟩
  | [first] =>
      simp at same
  | [first, second] =>
      right
      right
      simp only [List.cons_append, List.nil_append, List.cons.injEq] at same
      obtain ⟨rfl, rfl, _, summary⟩ := same
      refine ⟨String.ext ?_, String.ext ?_⟩
      · rw [name, String.toList_append]
        rfl
      · rw [summary, String.toList_append]
        rfl
  | first :: second :: third :: rest =>
      right
      left
      simp only [List.cons_append, List.cons.injEq] at same
      obtain ⟨rfl, rfl, rfl, summary⟩ := same
      refine ⟨.ofList rest, String.ext ?_, String.ext ?_⟩
      · rw [name]
        simp [labelSeparator]
      · rw [summary]
        simp [labelSeparator]

/-- Two categories have one label exactly if they are named and described
alike or clash. -/
theorem label_eq_iff
    {first second : CategoryDef} :
    first.label = second.label ↔
      first.name = second.name ∧ first.summary = second.summary ∨
        Clash first second ∨ Clash second first := by
  constructor
  · intro same
    have texts := congrArg String.toList same
    unfold CategoryDef.label at texts
    simp only [String.toList_append, List.append_assoc] at texts
    rcases List.append_eq_append_iff.mp texts with
      ⟨more, name, rest⟩ | ⟨more, name, rest⟩
    · rcases clash_of_label name rest with alike | clash
      · exact .inl alike
      · exact .inr (.inl clash)
    · rcases clash_of_label name rest with alike | clash
      · exact .inl ⟨alike.1.symm, alike.2.symm⟩
      · exact .inr (.inr clash)
  · rintro (⟨name, summary⟩ | clash | clash)
    · unfold CategoryDef.label
      rw [name, summary]
    · exact label_of_clash clash
    · exact (label_of_clash clash).symm

/-- No category clashes with itself. -/
theorem clash_irrefl (category : CategoryDef) : ¬ Clash category category := by
  rintro (⟨rest, name, _⟩ | ⟨name, _⟩)
  · have lengths := congrArg String.length name
    have three : labelSeparator.length = 3 := by decide
    simp only [String.length_append] at lengths
    omega
  · have lengths := congrArg String.length name
    simp at lengths

/-! ## The categories of the project -/

/-- The rail for what there is to watch. -/
def watch : Rail := ⟨"watch", "Watch"⟩

/-- The categories of `Taxonomy::baseline`. -/
def baselineCategories : List CategoryDef :=
  [⟨"video_streaming", "Video & Streaming",
      "Apps for watching streaming services such as Netflix, Disney+, Prime " ++
        "Video, Max, Crunchyroll or Hulu.", .applications, some watch⟩,
    ⟨"media_center", "Media Center",
      "Local or self-hosted media libraries and players such as Plex, " ++
        "Jellyfin, Emby, Kodi, VLC or mpv.", .applications, some watch⟩,
    ⟨"music_audio", "Music & Audio",
      "Music players, podcast clients, audio editors, synthesisers and " ++
        "digital audio workstations.", .applications, none⟩,
    ⟨"photo_video", "Photo & Video",
      "Image viewers and editors, drawing and design tools, 3D and CAD, " ++
        "video editors and screen capture.", .applications, none⟩,
    ⟨"development", "Development",
      "Code editors and IDEs, compilers, terminals, version control, " ++
        "container and database tools.", .applications, none⟩,
    ⟨"productivity", "Productivity",
      "Office suites, notes, calendars, PDF and document tools, and task " ++
        "managers.", .applications, none⟩,
    ⟨"internet", "Internet",
      "Web browsers, email, chat and video-call clients, torrents and remote " ++
        "desktop clients.", .applications, none⟩,
    ⟨"system", "System",
      "Desktop settings, file managers, disk and system monitors, package " ++
        "managers and backup tools.", .applications, none⟩,
    ⟨"education", "Education & Reference",
      "Learning apps, dictionaries, e-book readers, calculators, mathematics " ++
        "and science tools.", .applications, none⟩,
    ⟨"desktop", "Desktop & Customization",
      "Themes, wallpapers, fonts, launchers, panels, widgets and other " ++
        "desktop appearance tools.", .applications, none⟩]

/-- They are accepted. -/
theorem accepted_baseline :
    Accepted Language.ascii.lowercase baselineCategories where
  named := by decide +kernel
  keyed := by decide +kernel
  names := by decide +kernel
  slugs := by decide +kernel

end Ai
end Hearthdeck
