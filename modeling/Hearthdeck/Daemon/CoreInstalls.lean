import Hearthdeck.Bridge.CoreInstall
import Hearthdeck.Daemon.Readiness
import Mathlib.Data.List.Destutter

/-!
# Installing the missing cores

The daemon asks the bridge for the packages of the cores that the platforms
miss.  A client names none of them: they come from the report and from the
table of packages.  The bridge lets every name of the table pass, and after a
run of the helper the report misses only what the answer says has failed.
-/

namespace Hearthdeck
namespace Daemon

open Foundation TextPath Bridge

/-- `missing_core_packages`. -/
def missingCorePackages (report : List RetroSystemReadiness) : List String :=
  (sortByKey id
    (((report.filter fun entry => !entry.core.installed).map
      fun entry => entry.core.package).filter
        fun package => !package.isEmpty)).destutter (· ≠ ·)

section Request

variable {System : Type}

/-- `install_missing_cores`.  The first argument is what `bridge::request`
fails with, or what `pkexec` does. -/
def installMissingCores
    (request : Except String Pkexec)
    (pacman : System → Text → System × Bool)
    (isFile : System → String → Bool)
    (paths : ReadinessPaths)
    (platforms : List ListedPlatform)
    (system : System) :
    System × Except String RetroCoreInstallReport :=
  let packages :=
    missingCorePackages (readiness (isFile system) paths platforms)
  if packages.isEmpty then
    (system, .ok { installed := [], failed := [] })
  else
    match request with
    | .error message => (system, .error message)
    | .ok pkexec =>
        match answerInstall pkexec pacman system packages with
        | (system, .ok report) => (system, .ok report)
        | (system, .error (_, message)) =>
            (system, .error ("bridge rejected the core install: " ++ message))

/-- What is relied on of `pacman`. -/
structure Provides
    (pacman : System → Text → System × Bool)
    (isFile : System → String → Bool)
    (paths : ReadinessPaths) : Prop where
  /-- The cores that are installed stay installed. -/
  keeps : ∀ system package core,
    (findCore (isFile system) core
      [paths.coresDir, paths.userCoresDir]).isSome = true →
    (findCore (isFile (pacman system package).1) core
      [paths.coresDir, paths.userCoresDir]).isSome = true
  /-- After a success the cores of the package are in their directory. -/
  provides : ∀ system package core,
    corePackageFor core = some package →
    (pacman system package.toList).2 = true →
    isFile (pacman system package.toList).1
      (join paths.coresDir core) = true

end Request

/-! ## What is missing -/

/-- A platform with ROMs lacks the package of its core. -/
structure Lacks
    (isFile : String → Bool)
    (paths : ReadinessPaths)
    (platform : ListedPlatform)
    (package : String) : Prop where
  active : isActive platform = true
  lacks : ∃ core,
    coreOfPlatform (platformSlug platform.toRommPlatform) = some core ∧
      corePackageFor core = some package ∧
      (findCore isFile core
        [paths.coresDir, paths.userCoresDir]).isSome = false

/-- The bridge lets every name of the table pass. -/
theorem isInstallable_of_corePackageFor
    {core package : String}
    (packaged : corePackageFor core = some package) :
    isInstallable package = true := by
  unfold corePackageFor at packaged
  split at packaged
  all_goals first | cases packaged; decide +kernel | cases packaged

theorem corePackageFor_ne_empty
    {core package : String}
    (packaged : corePackageFor core = some package) :
    package ≠ "" := by
  rintro rfl
  exact absurd (isInstallable_of_corePackageFor packaged) (by decide)

theorem mem_readiness
    {isFile : String → Bool}
    {paths : ReadinessPaths}
    {platforms : List ListedPlatform}
    {row : RetroSystemReadiness} :
    row ∈ readiness isFile paths platforms ↔
      ∃ platform ∈ platforms, isActive platform = true ∧
        ∃ core,
          coreOfPlatform (platformSlug platform.toRommPlatform) = some core ∧
            row = readinessRow isFile paths platform core := by
  rw [readiness, (perm_sortByKey _ _).mem_iff, List.mem_filterMap]
  simp only [List.mem_filter, coreFilenameFor_bare, Option.map_eq_some_iff,
    and_assoc, eq_comm (a := row)]

/-- In a sorted list the repetitions stand side by side. -/
theorem missingCorePackages_eq_dedup (report : List RetroSystemReadiness) :
    missingCorePackages report =
      (sortByKey id
        (((report.filter fun entry => !entry.core.installed).map
          fun entry => entry.core.package).filter
            fun package => !package.isEmpty)).dedup := by
  have total : Std.Total fun left right : String => id left ≤ id right :=
    ⟨le_total⟩
  have trans : IsTrans String fun left right => id left ≤ id right :=
    ⟨fun _ _ _ => le_trans⟩
  have antisymm :
      Std.Antisymm fun left right : String => id left ≤ id right :=
    ⟨fun _ _ => le_antisymm⟩
  exact List.Pairwise.destutter_eq_dedup
    (List.pairwise_insertionSort
      (fun left right : String => id left ≤ id right) _)

theorem mem_missingCorePackages
    {report : List RetroSystemReadiness}
    {package : String} :
    package ∈ missingCorePackages report ↔
      (∃ row ∈ report, row.core.installed = false ∧
        row.core.package = package) ∧ package ≠ "" := by
  rw [missingCorePackages_eq_dedup, List.mem_dedup,
    (perm_sortByKey _ _).mem_iff]
  simp only [List.mem_filter, List.mem_map, Bool.not_eq_true',
    String.isEmpty_eq_false_iff, and_assoc]

theorem nodup_missingCorePackages
    (report : List RetroSystemReadiness) :
    (missingCorePackages report).Nodup := by
  rw [missingCorePackages_eq_dedup]
  exact List.nodup_dedup _

/-- The packages to install are those that the platforms lack. -/
theorem mem_missingCorePackages_readiness
    {isFile : String → Bool}
    {paths : ReadinessPaths}
    {platforms : List ListedPlatform}
    {package : String} :
    package ∈ missingCorePackages (readiness isFile paths platforms) ↔
      ∃ platform ∈ platforms, Lacks isFile paths platform package := by
  rw [mem_missingCorePackages]
  constructor
  · rintro ⟨⟨row, reported, missing, named⟩, some⟩
    obtain ⟨platform, listed, active, core, mapped, rfl⟩ :=
      mem_readiness.mp reported
    refine ⟨platform, listed, active, core, mapped, ?_, missing⟩
    change (corePackageFor core).getD "" = package at named
    cases packaged : corePackageFor core with
    | none =>
        rw [packaged, Option.getD_none] at named
        exact absurd named.symm some
    | some other =>
        rw [packaged, Option.getD_some] at named
        rw [named]
  · rintro ⟨platform, listed, active, core, mapped, packaged, missing⟩
    refine ⟨⟨readinessRow isFile paths platform core,
      mem_readiness.mpr ⟨platform, listed, active, core, mapped, rfl⟩,
      missing, ?_⟩, corePackageFor_ne_empty packaged⟩
    change (corePackageFor core).getD "" = package
    rw [packaged, Option.getD_some]

/-- The bridge lets every request of the daemon pass. -/
theorem installable_missingCorePackages
    {isFile : String → Bool}
    {paths : ReadinessPaths}
    {platforms : List ListedPlatform}
    (some :
      missingCorePackages (readiness isFile paths platforms) ≠ []) :
    Installable
      (missingCorePackages (readiness isFile paths platforms)) where
  some := some
  named package member := by
    obtain ⟨_, _, lacks⟩ := mem_missingCorePackages_readiness.mp member
    obtain ⟨_, _, packaged, _⟩ := lacks.lacks
    exact isInstallable_of_corePackageFor packaged

/-! ## After the calls -/

section Calls

variable
  {System : Type}
  {pacman : System → Text → System × Bool}
  {isFile : System → String → Bool}
  {paths : ReadinessPaths}
  (provides : Provides pacman isFile paths)

include provides

/-- The calls remove no core. -/
theorem Provides.keeps_calls
    {system : System}
    {core : String}
    (packages : List Text)
    (found : (findCore (isFile system) core
      [paths.coresDir, paths.userCoresDir]).isSome = true) :
    (findCore (isFile (InstallHelper.callsOf pacman system packages).1) core
      [paths.coresDir, paths.userCoresDir]).isSome = true := by
  induction packages generalizing system with
  | nil => exact found
  | cons package later inductionHypothesis =>
      exact inductionHypothesis (provides.keeps system package core found)

/-- The cores of a package whose call succeeded are found in the end. -/
theorem Provides.found_of_call
    {system : System}
    {core package : String}
    (packaged : corePackageFor core = some package)
    {packages : List Text}
    (succeeded : (package.toList, true) ∈
      (InstallHelper.callsOf pacman system packages).2) :
    (findCore (isFile (InstallHelper.callsOf pacman system packages).1) core
      [paths.coresDir, paths.userCoresDir]).isSome = true := by
  induction packages generalizing system with
  | nil => exact absurd succeeded List.not_mem_nil
  | cons called later inductionHypothesis =>
      rcases List.mem_cons.mp succeeded with now | after
      case inl =>
        obtain ⟨rfl, success⟩ := Prod.mk.inj now
        refine provides.keeps_calls later ?_
        have file := provides.provides system package core packaged
          success.symm
        unfold findCore
        rw [List.map_cons, List.find?_cons_of_pos file]
        rfl
      case inr => exact inductionHypothesis after

/-- What is missing after the calls is a package whose call failed. -/
theorem Provides.missing_after
    (system : System)
    (platforms : List ListedPlatform)
    (packages : List Text)
    {package : String}
    (missing : package ∈ missingCorePackages
      (readiness (isFile (InstallHelper.callsOf pacman system packages).1)
        paths platforms)) :
    package ∈ missingCorePackages
        (readiness (isFile system) paths platforms) ∧
      (package.toList, true) ∉
        (InstallHelper.callsOf pacman system packages).2 := by
  obtain ⟨platform, listed, active, core, mapped, packaged, absent⟩ :=
    mem_missingCorePackages_readiness.mp missing
  constructor
  · refine mem_missingCorePackages_readiness.mpr
      ⟨platform, listed, active, core, mapped, packaged, ?_⟩
    by_contra found
    rw [Bool.not_eq_false] at found
    rw [provides.keeps_calls packages found] at absent
    cases absent
  · intro succeeded
    rw [provides.found_of_call packaged succeeded] at absent
    cases absent

end Calls

/-! ## The report and the next one -/

/-- A report tells the packages apart into installed and failed ones. -/
theorem perm_reportOf
    (attempts : List (Text × Bool))
    (requested : List String) :
    ((reportOf attempts requested).installed ++
      (reportOf attempts requested).failed.map
        RetroCoreInstallFailure.package).Perm requested := by
  have named : (reportOf attempts requested).failed.map
      RetroCoreInstallFailure.package =
        requested.filter fun package =>
          !(firstAttempt attempts package.toList == some true) := by
    unfold reportOf
    rw [List.map_map]
    exact List.map_id _
  rw [named]
  exact List.filter_append_perm _ _

theorem mem_failed_reportOf
    {attempts : List (Text × Bool)}
    {requested : List String}
    {package : String}
    (asked : package ∈ requested)
    (never : (package.toList, true) ∉ attempts) :
    ∃ failure ∈ (reportOf attempts requested).failed,
      failure.package = package := by
  refine ⟨⟨package, "pacman-failed"⟩, ?_, rfl⟩
  refine List.mem_map_of_mem (List.mem_filter.mpr ⟨asked, ?_⟩)
  rw [bne_iff_ne]
  intro first
  obtain ⟨attempt, found, success⟩ := Option.map_eq_some_iff.mp first
  have same : attempt.1 = package.toList := by
    simpa using List.find?_some found
  refine never ?_
  rw [← same, ← success]
  exact List.mem_of_find?_eq_some found

section Request

variable
  {System : Type}
  (pacman : System → Text → System × Bool)
  {isFile : System → String → Bool}
  {paths : ReadinessPaths}
  {platforms : List ListedPlatform}
  {system : System}

theorem installMissingCores_of_nothing
    (request : Except String Pkexec)
    (nothing :
      missingCorePackages (readiness (isFile system) paths platforms) = []) :
    installMissingCores request pacman isFile paths platforms system =
      (system, .ok ⟨[], []⟩) := by
  unfold installMissingCores
  rw [nothing]
  rfl

/-- The answer is the report of the calls. -/
theorem installMissingCores_runs :
    let packages :=
      missingCorePackages (readiness (isFile system) paths platforms)
    let calls :=
      InstallHelper.callsOf pacman system (packages.map String.toList)
    installMissingCores (.ok .runs) pacman isFile paths platforms system =
      (calls.1, .ok (reportOf calls.2 packages)) := by
  intro packages calls
  by_cases some : packages = []
  case pos =>
    rw [installMissingCores_of_nothing pacman (.ok .runs) some]
    unfold calls
    rw [some]
    rfl
  case neg =>
    have answer := answerInstall_of_installable pacman system
      (installable_missingCorePackages some)
    unfold installMissingCores
    dsimp only at answer ⊢
    rw [if_neg (by simpa using some), answer]

/-- Where the helper does not run, nothing changes. -/
theorem fst_installMissingCores
    {request : Except String Pkexec}
    (other : request ≠ .ok .runs) :
    (installMissingCores request pacman isFile paths platforms system).1 =
      system := by
  unfold installMissingCores
  dsimp only
  split
  case isTrue nothing => rfl
  case isFalse some =>
    cases request with
    | error message => rfl
    | ok pkexec =>
        have stays : pkexec ≠ .runs := mt (congrArg Except.ok) other
        obtain ⟨refusal, answer⟩ :
            ∃ refusal, answerInstall pkexec pacman system
              (missingCorePackages
                (readiness (isFile system) paths platforms)) =
                (system, .error refusal) :=
          answerInstall_of_refused pacman system (Or.inr stays)
        dsimp only
        rw [answer]

end Request

/-- The daemon has the helper install the packages that the platforms lack,
each once.  The bridge never objects, what is missing afterwards is among the
packages that the answer says have failed, and when none has failed there is
nothing left to ask for.  Where the helper does not run, nothing changes. -/
theorem installs_leave_only_failures
    {System : Type}
    {pacman : System → Text → System × Bool}
    {isFile : System → String → Bool}
    {paths : ReadinessPaths}
    (provides : Provides pacman isFile paths)
    (platforms : List ListedPlatform)
    (system : System) :
    let missing := fun system =>
      missingCorePackages (readiness (isFile system) paths platforms)
    let install := fun request =>
      installMissingCores request pacman isFile paths platforms
    (missing system).Nodup ∧
    (∀ package, package ∈ missing system ↔
      ∃ platform ∈ platforms,
        Lacks (isFile system) paths platform package) ∧
    (∀ request, request ≠ .ok .runs → (install request system).1 = system) ∧
    ∃ last report,
      install (.ok .runs) system = (last, .ok report) ∧
      (report.installed ++
        report.failed.map RetroCoreInstallFailure.package).Perm
          (missing system) ∧
      (∀ package ∈ missing last,
        ∃ failure ∈ report.failed, failure.package = package) ∧
      (report.failed = [] → ∀ request,
        install request last = (last, .ok ⟨[], []⟩)) := by
  intro missing install
  let packages := (missing system).map String.toList
  let calls := InstallHelper.callsOf pacman system packages
  have fails : ∀ package ∈ missing calls.1,
      ∃ failure ∈ (reportOf calls.2 (missing system)).failed,
        failure.package = package := by
    intro package member
    obtain ⟨asked, never⟩ :=
      provides.missing_after system platforms packages member
    exact mem_failed_reportOf asked never
  refine ⟨nodup_missingCorePackages _,
    fun package => mem_missingCorePackages_readiness,
    fun request other => fst_installMissingCores pacman other,
    _, _, installMissingCores_runs pacman, perm_reportOf _ _, fails, ?_⟩
  intro none request
  refine installMissingCores_of_nothing pacman request ?_
  refine List.eq_nil_iff_forall_not_mem.mpr fun package member => ?_
  obtain ⟨failure, failed, _⟩ := fails package member
  rw [none] at failed
  exact List.not_mem_nil failed

/-! ## A run -/

/-- A machine of which the files are known, with a mirror that has one
package. -/
def oneCorePacman
    (files : List String)
    (package : Text) : List String × Bool :=
  if package = "libretro-snes9x".toList then
    ("/usr/lib/libretro/snes9x_libretro.so" :: files, true)
  else
    (files, false)

theorem provides_oneCorePacman :
    Provides oneCorePacman (fun files path => files.contains path)
      ⟨coreDirectory, "/home/deck/cores", fun _ => .missing⟩ := by
  have stays : ∀ files package path,
      List.contains files path = true →
        List.contains (oneCorePacman files package).1 path = true := by
    intro files package path found
    unfold oneCorePacman
    split
    · exact List.contains_iff_mem.mpr
        (List.mem_cons_of_mem _ (List.contains_iff_mem.mp found))
    · exact found
  refine ⟨fun files package core found => ?_,
    fun files package core packaged success => ?_⟩
  · obtain ⟨path, found⟩ := Option.isSome_iff_exists.mp found
    rw [findCore, List.find?_isSome]
    exact ⟨path, List.mem_of_find?_eq_some found,
      stays files package path (List.find?_some found)⟩
  · unfold oneCorePacman at success ⊢
    split at success
    case isFalse other => cases success
    case isTrue same =>
      obtain rfl := String.toList_injective same
      have named : core = "snes9x_libretro.so" := by
        unfold corePackageFor at packaged
        split at packaged
        all_goals first | rfl | exact absurd packaged (by decide)
      subst named
      exact List.contains_iff_mem.mpr List.mem_cons_self

/-- On a machine without cores the Mega Drive asks for a package that the
mirror does not have. -/
theorem installs_leave_only_failures_once :
    let isFile := fun (files : List String) path => files.contains path
    let paths : ReadinessPaths :=
      ⟨coreDirectory, "/home/deck/cores", fun _ => .missing⟩
    ∃ last report,
      installMissingCores (.ok .runs) oneCorePacman isFile paths
        [megaDrive] [] = (last, .ok report) ∧
      ∀ package ∈ missingCorePackages
          (readiness (isFile last) paths [megaDrive]),
        ∃ failure ∈ report.failed, failure.package = package := by
  obtain ⟨_, _, _, last, report, answer, _, fails, _⟩ :=
    installs_leave_only_failures provides_oneCorePacman [megaDrive] []
  exact ⟨last, report, answer, fails⟩

end Daemon
end Hearthdeck
