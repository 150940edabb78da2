import Hearthdeck.Ai.Prompt

/-!
# Scanning a list of applications

A categorizer decides about one application at a time and names it in what it
decides.  A scan asks it about each application of a list and collects what
was decided and what failed.
-/

namespace Hearthdeck
namespace Ai

open Daemon (Json)

/-- `Categorizer`: what it decides is about the application it was asked. -/
structure Categorizer where
  id : String
  categorize : AppProfile → Except String AppCategorization
  about : ∀ app assignment,
    categorize app = .ok assignment → assignment.appId = app.id

/-- `TRAIT_THRESHOLD`. -/
def traitThreshold : ℚ := 1 / 2

/-- `LayaCategorizer`, for what a model answers about an application. -/
def layaCategorizer
    {lowercase : String → String}
    (asF64 : Json → Option ℚ)
    (debug : String → String)
    (taxonomy : Taxonomy lowercase)
    (predict : AppProfile → Except String (List (String × Json))) :
    Categorizer where
  id := "laya"
  categorize app :=
    match predict app with
    | .error error => .error error
    | .ok answers =>
        .ok (interpret asF64 debug app answers taxonomy traitThreshold)
  about app assignment decided := by
    split at decided
    · cases decided
    · cases decided
      rfl

/-- `ScanFailure`. -/
structure ScanFailure where
  appId : String
  error : String

/-- `decide`: what is decided about the applications, and what fails. -/
def decide (categorizer : Categorizer) :
    List AppProfile → List AppCategorization × List ScanFailure
  | [] => ([], [])
  | app :: apps =>
      let (assignments, failures) := decide categorizer apps
      match categorizer.categorize app with
      | .ok assignment => (assignment :: assignments, failures)
      | .error error => (assignments, ⟨app.id, error⟩ :: failures)

/-- Everything that is decided is about an application of the list. -/
theorem appId_mem_of_decide
    {categorizer : Categorizer}
    {apps : List AppProfile}
    {assignment : AppCategorization}
    (decided : assignment ∈ (decide categorizer apps).1) :
    assignment.appId ∈ apps.map AppProfile.id := by
  induction apps with
  | nil => cases decided
  | cons app apps inductionHypothesis =>
      rw [decide] at decided
      cases made : categorizer.categorize app with
      | error error =>
          rw [made] at decided
          exact List.mem_cons_of_mem _ (inductionHypothesis decided)
      | ok first =>
          rw [made] at decided
          rcases List.mem_cons.mp decided with rfl | later
          · rw [categorizer.about app _ made]
            exact List.mem_cons_self
          · exact List.mem_cons_of_mem _ (inductionHypothesis later)

/-- `LibraryScanner::scan`, up to what it proposes of what was decided. -/
def scan
    (categorizer : Categorizer)
    (apps : List AppProfile) : Except String (List AppCategorization) :=
  let (assignments, failures) := decide categorizer apps
  if apps ≠ [] ∧ assignments = [] then
    .error ("none of the " ++ toString failures.length ++
      " applications could be decided; the first error was: " ++
      (failures.head?.map ScanFailure.error).getD
        "no application was decided")
  else
    .ok assignments

end Ai
end Hearthdeck
