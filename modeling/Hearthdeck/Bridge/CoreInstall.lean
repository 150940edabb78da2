import Hearthdeck.Bridge.DesktopApps
import Hearthdeck.Protocol.Bridge
import Mathlib.Data.List.TakeWhile

/-!
# Installing core packages

The bridge checks the names of the packages it is asked for and has `pkexec`
run a helper as root.  The helper, a shell script, checks the names again, has
`pacman` install one package after the other, and prints a line for each; the
bridge reads the lines back into a report.

What `pacman` does to the system, and whether it succeeds, is an argument, and
so is whether `pkexec` runs the helper.
-/

namespace Hearthdeck
namespace Bridge

open Foundation Protocol
open Frontend (isWhitespace splitOnce splitOnce_append)

/-- A character of the names that may be installed. -/
def plainCharacter (character : Char) : Bool :=
  ('a' ≤ character && character ≤ 'z') ||
    ('0' ≤ character && character ≤ '9') || character == '-'

/-- What follows a head in a text that starts with it (`strip_prefix`). -/
def behind (head text : Text) : Option Text :=
  if head.isPrefixOf text then some (text.drop head.length) else none

/-- How the names start. -/
def libretro : Text := "libretro-".toList

/-! ## The helper -/

namespace InstallHelper

/-- A run of the script `hearthdeck-install-cores`. -/
structure Run (System : Type) where
  system : System
  /-- The lines it printed. -/
  printed : List Text := []
  /-- Its exit status is not zero. -/
  failed : Bool := false
  /-- The calls of `pacman`, and whether each succeeded.  Read by no code. -/
  attempts : List (Text × Bool) := []

variable {System : Type}

/-- `echo "fail …"`, with the status set. -/
def Run.fail (run : Run System) (package reason : Text) : Run System :=
  { run with
    printed := run.printed ++ ["fail ".toList ++ package ++ ' ' :: reason]
    failed := true }

/-- The pattern `libretro-?*`. -/
def looksLikeCore (package : Text) : Bool :=
  match behind libretro package with
  | some (_ :: _) => true
  | _ => false

/-- `${package#libretro-}`. -/
def nameOf (package : Text) : Text :=
  (behind libretro package).getD package

/-- The loop body of the script. -/
def install
    (pacman : System → Text → System × Bool)
    (run : Run System)
    (package : Text) : Run System :=
  if !looksLikeCore package then
    run.fail package "not-an-allowed-package-name".toList
  else if (nameOf package).any fun character => !plainCharacter character then
    run.fail package "not-an-allowed-package-name".toList
  else
    let (system, succeeded) := pacman run.system package
    let run :=
      { run with
        system := system
        attempts := run.attempts ++ [(package, succeeded)] }
    if succeeded then
      { run with printed := run.printed ++ ["ok ".toList ++ package] }
    else
      run.fail package "pacman-failed".toList

/-- The script, given its arguments. -/
def script
    (pacman : System → Text → System × Bool)
    (system : System)
    (packages : List Text) : Run System :=
  packages.foldl (install pacman) { system := system }

/-- The standard output. -/
def Run.stdout (run : Run System) : Text :=
  run.printed.flatMap fun line => line ++ ['\n']

end InstallHelper

/-! ## The bridge -/

/-- `RetroCoreInstallFailure`. -/
structure RetroCoreInstallFailure where
  package : String
  reason : String
  deriving DecidableEq, Repr

/-- `RetroCoreInstallReport`. -/
structure RetroCoreInstallReport where
  installed : List String
  failed : List RetroCoreInstallFailure
  deriving DecidableEq, Repr

/-- A name passes the bridge. -/
def isInstallable (package : String) : Bool :=
  let name := (behind libretro package.toList).getD []
  !name.isEmpty && decide ((String.ofList name).utf8ByteSize ≤ 64) &&
    name.all plainCharacter

/-- `validate_install_packages`. -/
def validateInstallPackages
    (packages : List String) : Except String (List String) :=
  if packages.isEmpty then
    .error "no core packages to install"
  else
    match packages.find? fun package => !isInstallable package with
    | some package =>
        .error (package ++ " is not an installable core package name")
    | none => .ok packages

/-- A line without the carriage return it ends in. -/
def withoutReturn (line : Text) : Text :=
  if line.getLast? = some '\r' then line.dropLast else line

/-- `str::lines`.  What is behind the last newline is a line as it is, unless
nothing is. -/
def linesIn (text : Text) : List Text :=
  let all := pieces '\n' text
  all.dropLast.map withoutReturn ++
    all.getLast?.toList.filter fun line => line ≠ []

/-- What a line says of a package. -/
def outcomeOf (package line : Text) : Option (Except Text Unit) :=
  if (behind "ok ".toList line).map trim = some package then
    some (.ok ())
  else
    match (behind "fail ".toList line).bind fun rest =>
        splitOnce ' ' (trim rest) with
    | some (name, reason) =>
        if name = package then some (.error (trim reason)) else none
    | none => none

/-- What the output says of a package. -/
def outcomeIn (output : Text) (package : String) : Option (Except Text Unit) :=
  (linesIn output).findSome? (outcomeOf package.toList)

/-- What the report says of a package that failed. -/
def failureOf
    (package : String) :
    Option (Except Text Unit) → Option RetroCoreInstallFailure
  | some (.ok _) => none
  | some (.error reason) => some ⟨package, .ofList reason⟩
  | none => some ⟨package, "the helper reported nothing for this package"⟩

/-- `parse_helper_report`. -/
def parseHelperReport
    (output : Text)
    (requested : List String) : RetroCoreInstallReport where
  installed := requested.filter fun package =>
    (failureOf package (outcomeIn output package)).isNone
  failed := requested.filterMap fun package =>
    failureOf package (outcomeIn output package)

/-- What `pkexec` does. -/
inductive Pkexec
  /-- It is not there. -/
  | missing
  /-- It refuses, and prints nothing. -/
  | refused
  | runs
  deriving DecidableEq, Repr

section Request

variable {System : Type}

/-- `install_cores`. -/
def installCores
    (pkexec : Pkexec)
    (pacman : System → Text → System × Bool)
    (system : System)
    (packages : List String) :
    System × Except String RetroCoreInstallReport :=
  match pkexec with
  | .missing => (system, .error "could not run the core install helper")
  | .refused =>
      (system,
        .error "the core install helper was refused or did not run")
  | .runs =>
      let run := InstallHelper.script pacman system
        (packages.map String.toList)
      if !run.failed || !(trim run.stdout).isEmpty then
        (run.system, .ok (parseHelperReport run.stdout packages))
      else
        (run.system,
          .error "the core install helper was refused or did not run")

/-- What the bridge answers to `InstallRetroCores`. -/
def answerInstall
    (pkexec : Pkexec)
    (pacman : System → Text → System × Bool)
    (system : System)
    (packages : List String) :
    System × Except (BridgeErrorCode × String) RetroCoreInstallReport :=
  match validateInstallPackages packages with
  | .error message => (system, .error (.invalidRequest, message))
  | .ok packages =>
      match installCores pkexec pacman system packages with
      | (system, .ok report) => (system, .ok report)
      | (system, .error message) => (system, .error (.internal, message))

end Request

/-! ## Names -/

/-- The names the helper has `pacman` install. -/
def CoreName (package : Text) : Prop :=
  ∃ name, package = libretro ++ name ∧ name ≠ [] ∧
    ∀ character ∈ name, plainCharacter character = true

theorem behind_eq_some
    {head text rest : Text} :
    behind head text = some rest ↔ text = head ++ rest := by
  unfold behind
  rw [Option.ite_none_right_eq_some, List.isPrefixOf_iff_prefix,
    Option.some.injEq]
  constructor
  · rintro ⟨⟨tail, rfl⟩, rfl⟩
    rw [List.drop_left]
  · rintro rfl
    exact ⟨List.prefix_append _ _, List.drop_left⟩

theorem behind_append (head rest : Text) :
    behind head (head ++ rest) = some rest :=
  behind_eq_some.mpr rfl

theorem isInstallable_iff
    (package : String) :
    isInstallable package = true ↔
      ∃ name, package.toList = libretro ++ name ∧ name ≠ [] ∧
        (String.ofList name).utf8ByteSize ≤ 64 ∧
        ∀ character ∈ name, plainCharacter character = true := by
  unfold isInstallable
  cases found : behind libretro package.toList with
  | none =>
      simp only [Option.getD_none, List.isEmpty_nil, Bool.not_true,
        Bool.false_and, Bool.false_eq_true, false_iff]
      rintro ⟨name, same, _⟩
      rw [same, behind_append] at found
      cases found
  | some name =>
      have split := behind_eq_some.mp found
      simp only [Option.getD_some, Bool.and_eq_true, Bool.not_eq_true',
        List.isEmpty_eq_false_iff, decide_eq_true_eq, List.all_eq_true]
      constructor
      · rintro ⟨⟨some, short⟩, plain⟩
        exact ⟨name, split, some, short, plain⟩
      · rintro ⟨other, same, some, short, plain⟩
        rw [split] at same
        obtain rfl := List.append_cancel_left same
        exact ⟨⟨some, short⟩, plain⟩

/-- What passes the bridge passes the helper. -/
theorem coreName_of_isInstallable
    {package : String}
    (installable : isInstallable package = true) :
    CoreName package.toList := by
  obtain ⟨name, same, some, _, plain⟩ :=
    (isInstallable_iff package).mp installable
  exact ⟨name, same, some, plain⟩

theorem validateInstallPackages_eq_ok
    {packages valid : List String} :
    validateInstallPackages packages = .ok valid ↔
      valid = packages ∧ packages ≠ [] ∧
        ∀ package ∈ packages, isInstallable package = true := by
  unfold validateInstallPackages
  cases packages with
  | nil => simp
  | cons first rest =>
      rw [if_neg (by simp)]
      cases found : (first :: rest).find? fun package =>
          !isInstallable package with
      | some package =>
          have refused := List.find?_some found
          have member := List.mem_of_find?_eq_some found
          constructor
          · exact nofun
          · rintro ⟨_, _, all⟩
            simp [all package member] at refused
      | none =>
          have all := List.find?_eq_none.mp found
          constructor
          · rintro ⟨⟩
            refine ⟨rfl, List.cons_ne_nil _ _, fun package member => ?_⟩
            simpa using all package member
          · rintro ⟨rfl, _, _⟩
            rfl

/-! ## The helper runs -/

namespace InstallHelper

/-- The helper has `pacman` install the package. -/
def namesCore (package : Text) : Bool :=
  looksLikeCore package && (nameOf package).all plainCharacter

theorem namesCore_iff
    (package : Text) :
    namesCore package = true ↔ CoreName package := by
  unfold namesCore looksLikeCore nameOf
  cases found : behind libretro package with
  | none =>
      simp only [Bool.false_and, Bool.false_eq_true, false_iff]
      rintro ⟨name, same, _⟩
      rw [same, behind_append] at found
      cases found
  | some name =>
      have split := behind_eq_some.mp found
      simp only [Option.getD_some, Bool.and_eq_true, List.all_eq_true]
      constructor
      · rintro ⟨some, plain⟩
        refine ⟨name, split, ?_, plain⟩
        rintro rfl
        cases some
      · rintro ⟨other, same, some, plain⟩
        rw [split] at same
        obtain rfl := List.append_cancel_left same
        cases name with
        | nil => exact absurd rfl some
        | cons character later => exact ⟨rfl, plain⟩

variable
  {System : Type}
  (pacman : System → Text → System × Bool)

/-- A refused name is only reported. -/
theorem install_of_refused
    (run : Run System)
    {package : Text}
    (refused : namesCore package = false) :
    install pacman run package =
      run.fail package "not-an-allowed-package-name".toList := by
  unfold install
  split
  case isTrue other => rfl
  case isFalse looks =>
    have listed : looksLikeCore package = true := by simpa using looks
    rw [namesCore, listed, Bool.true_and, List.all_eq_false] at refused
    obtain ⟨character, member, odd⟩ := refused
    rw [if_pos]
    exact List.any_eq_true.mpr ⟨character, member, by simpa using odd⟩

/-- A name that is not refused is given to `pacman`. -/
theorem install_of_named
    (run : Run System)
    {package : Text}
    (named : namesCore package = true) :
    install pacman run package =
      let (system, succeeded) := pacman run.system package
      let run :=
        { run with
          system := system
          attempts := run.attempts ++ [(package, succeeded)] }
      if succeeded then
        { run with printed := run.printed ++ ["ok ".toList ++ package] }
      else
        run.fail package "pacman-failed".toList := by
  obtain ⟨looks, plain⟩ := Bool.and_eq_true_iff.mp named
  have noOdd : ((nameOf package).any fun character =>
      !plainCharacter character) = false := by
    rw [List.any_eq_false]
    intro character member
    simp [List.all_eq_true.mp plain character member]
  unfold install
  rw [if_neg (by simp [looks]), if_neg (by simp [noOdd])]

/-- The one call of `pacman` for a name that is not refused. -/
theorem install_calls
    (run : Run System)
    {package : Text}
    (named : namesCore package = true) :
    (install pacman run package).system = (pacman run.system package).1 ∧
      (install pacman run package).attempts =
        run.attempts ++ [(package, (pacman run.system package).2)] := by
  rw [install_of_named pacman run named]
  dsimp only
  split <;> exact ⟨rfl, rfl⟩

/-- `pacman` is called for packages one after the other: the system, and what
came of the calls. -/
def callsOf :
    System → List Text → System × List (Text × Bool)
  | system, [] => (system, [])
  | system, package :: later =>
      let (next, succeeded) := pacman system package
      let (last, calls) := callsOf next later
      (last, (package, succeeded) :: calls)

theorem map_fst_callsOf
    (system : System)
    (packages : List Text) :
    (callsOf pacman system packages).2.map Prod.fst = packages := by
  induction packages generalizing system with
  | nil => rfl
  | cons package later inductionHypothesis =>
      exact congrArg (package :: ·) (inductionHypothesis _)

/-- The helper calls `pacman` for each name it does not refuse, in order, and
does nothing else to the system. -/
theorem foldl_install
    (packages : List Text)
    (run : Run System) :
    let calls := callsOf pacman run.system (packages.filter namesCore)
    (packages.foldl (install pacman) run).system = calls.1 ∧
      (packages.foldl (install pacman) run).attempts =
        run.attempts ++ calls.2 := by
  induction packages generalizing run with
  | nil => exact ⟨rfl, (List.append_nil _).symm⟩
  | cons package rest inductionHypothesis =>
      rw [List.foldl_cons]
      cases named : namesCore package with
      | false =>
          rw [install_of_refused pacman run named,
            List.filter_cons_of_neg (by simp [named])]
          exact inductionHypothesis _
      | true =>
          obtain ⟨system, attempts⟩ := install_calls pacman run named
          obtain ⟨lastSystem, lastAttempts⟩ :=
            inductionHypothesis (install pacman run package)
          rw [List.filter_cons_of_pos named]
          rw [system] at lastSystem lastAttempts
          rw [attempts, List.append_assoc] at lastAttempts
          exact ⟨lastSystem, lastAttempts⟩

/-- The line of a call of `pacman`. -/
def lineOf (attempt : Text × Bool) : Text :=
  if attempt.2 then "ok ".toList ++ attempt.1
  else "fail ".toList ++ attempt.1 ++ ' ' :: "pacman-failed".toList

/-- Where no name is refused, the lines and the exit status are those of the
calls. -/
structure Plain (run : Run System) : Prop where
  printed : run.printed = run.attempts.map lineOf
  failed : run.failed = run.attempts.any fun attempt => !attempt.2

theorem Plain.script
    {packages : List Text}
    (named : ∀ package ∈ packages, namesCore package = true)
    {run : Run System}
    (plain : Plain run) :
    Plain (packages.foldl (install pacman) run) := by
  induction packages generalizing run with
  | nil => exact plain
  | cons package rest inductionHypothesis =>
      rw [List.foldl_cons]
      refine inductionHypothesis
        (fun other member => named other (List.mem_cons_of_mem _ member)) ?_
      rw [install_of_named pacman run (named package List.mem_cons_self)]
      dsimp only
      split
      case isTrue succeeded =>
        refine ⟨?_, ?_⟩
        · simp [plain.printed, lineOf, succeeded]
        · simp [plain.failed, succeeded]
      case isFalse failed =>
        refine ⟨?_, ?_⟩
        · simp [Run.fail, plain.printed, lineOf, failed]
        · simp [Run.fail, failed]

end InstallHelper

/-! ## The report is read back -/

theorem toNat_plainCharacter
    {character : Char}
    (plain : plainCharacter character = true) :
    character.toNat = 45 ∨
      (48 ≤ character.toNat ∧ character.toNat ≤ 122) := by
  unfold plainCharacter at plain
  simp only [Bool.or_eq_true, Bool.and_eq_true, decide_eq_true_eq,
    beq_iff_eq, Char.le_def, UInt32.le_iff_toNat_le] at plain
  rcases plain with (⟨low, high⟩ | ⟨low, high⟩) | rfl
  · right
    change 97 ≤ character.toNat at low
    change character.toNat ≤ 122 at high
    omega
  · right
    change 48 ≤ character.toNat at low
    change character.toNat ≤ 57 at high
    omega
  · exact Or.inl rfl

theorem isWhitespace_plainCharacter
    {character : Char}
    (plain : plainCharacter character = true) :
    isWhitespace character = false := by
  have range := toNat_plainCharacter plain
  unfold Frontend.isWhitespace
  simp only [Bool.or_eq_false_iff, Bool.and_eq_false_iff,
    decide_eq_false_iff_not, beq_eq_false_iff_ne]
  omega

/-- The characters of a name. -/
theorem CoreName.characters
    {package : Text}
    (core : CoreName package) :
    ∀ character ∈ package, plainCharacter character = true := by
  obtain ⟨name, rfl, _, plain⟩ := core
  have head : libretro.all plainCharacter = true := by decide +kernel
  exact List.forall_mem_append.mpr ⟨List.all_eq_true.mp head, plain⟩

theorem CoreName.ne_nil
    {package : Text}
    (core : CoreName package) :
    package ≠ [] := by
  obtain ⟨name, rfl, _, _⟩ := core
  exact List.append_ne_nil_of_left_ne_nil (by decide) _

/-- A text with no blank at its ends is trimmed already. -/
theorem trim_eq_self
    {first last : Char}
    {text : Text}
    (front : isWhitespace first = false)
    (back : isWhitespace last = false)
    (starts : text.head? = some first)
    (ends : text.getLast? = some last) :
    trim text = text := by
  have keepsFront : text.dropWhile isWhitespace = text := by
    obtain ⟨rest, rfl⟩ := List.head?_eq_some_iff.mp starts
    rw [List.dropWhile_cons_of_neg (by simp [front])]
  have keepsBack : text.reverse.dropWhile isWhitespace = text.reverse := by
    rw [← List.head?_reverse] at ends
    obtain ⟨rest, same⟩ := List.head?_eq_some_iff.mp ends
    rw [same, List.dropWhile_cons_of_neg (by simp [back])]
  rw [trim, keepsFront, keepsBack, List.reverse_reverse]

/-- A text with a character that is no blank is not trimmed away. -/
theorem trim_ne_nil
    {text : Text}
    {character : Char}
    (member : character ∈ text)
    (solid : isWhitespace character = false) :
    trim text ≠ [] := by
  intro empty
  have blank := List.dropWhile_eq_nil_iff.mp (List.reverse_eq_nil_iff.mp empty)
  have kept : text.dropWhile isWhitespace ≠ [] := by
    intro gone
    rw [List.dropWhile_eq_nil_iff.mp gone character member] at solid
    cases solid
  have first := blank _ (List.mem_reverse.mpr (List.head_mem kept))
  rw [List.head_dropWhile_not isWhitespace kept] at first
  cases first

/-- The name of a core has no blank at its ends. -/
theorem CoreName.trim_eq
    {package : Text}
    (core : CoreName package) :
    trim package = package := by
  have solid := core.ne_nil
  have noBlank : ∀ character ∈ package, isWhitespace character = false :=
    fun character member =>
      isWhitespace_plainCharacter (core.characters character member)
  exact trim_eq_self
    (noBlank _ (List.head_mem solid)) (noBlank _ (List.getLast_mem solid))
    (List.head?_eq_some_head solid) (List.getLast?_eq_some_getLast solid)

/-- A character that is not plain is not in the name of a core. -/
theorem CoreName.notMem
    {package : Text}
    (core : CoreName package)
    {character : Char}
    (odd : plainCharacter character = false) :
    character ∉ package := by
  intro member
  rw [core.characters character member] at odd
  cases odd

/-- The line that reports a success is read as one, of that package only. -/
theorem outcomeOf_ok
    {package reported : Text}
    (core : CoreName reported) :
    outcomeOf package ("ok ".toList ++ reported) =
      if reported = package then some (.ok ()) else none := by
  have noFailure :
      behind "fail ".toList ("ok ".toList ++ reported) = none := by
    cases found : behind "fail ".toList ("ok ".toList ++ reported) with
    | none => rfl
    | some rest => simpa using behind_eq_some.mp found
  unfold outcomeOf
  rw [behind_append, noFailure, Option.map_some, core.trim_eq,
    Option.bind_none]
  simp only [Option.some_inj]

/-- The line that reports a failure is read as one, of that package only. -/
theorem outcomeOf_fail
    {package reported reason : Text}
    (core : CoreName reported)
    (trimmed : trim reason = reason)
    {last : Char}
    (ends : reason.getLast? = some last)
    (solid : isWhitespace last = false) :
    outcomeOf package ("fail ".toList ++ reported ++ ' ' :: reason) =
      if reported = package then some (.error reason) else none := by
  have noSuccess : ∀ rest : Text,
      behind "ok ".toList ("fail ".toList ++ rest) = none := by
    intro rest
    cases found : behind "ok ".toList ("fail ".toList ++ rest) with
    | none => rfl
    | some later => simpa using behind_eq_some.mp found
  have keeps :
      trim (reported ++ ' ' :: reason) =
        reported ++ ' ' :: reason := by
    refine trim_eq_self
      (isWhitespace_plainCharacter
        (core.characters _ (List.head_mem core.ne_nil))) solid ?_ ?_
    · rw [List.head?_append_of_ne_nil _ core.ne_nil]
      exact List.head?_eq_some_head core.ne_nil
    · rw [List.getLast?_append, List.getLast?_cons, ends]
      rfl
  unfold outcomeOf
  rw [List.append_assoc, noSuccess, behind_append, Option.map_none,
    if_neg (by simp), Option.bind_some, keeps,
    splitOnce_append (core.notMem (by decide))]
  dsimp only
  rw [trimmed]

/-- What a call of `pacman` came to. -/
def outcomeOfAttempt (attempt : Text × Bool) : Except Text Unit :=
  if attempt.2 then .ok () else .error "pacman-failed".toList

theorem outcomeOf_lineOf
    (package : Text)
    {attempt : Text × Bool}
    (core : CoreName attempt.1) :
    outcomeOf package (InstallHelper.lineOf attempt) =
      if attempt.1 = package then some (outcomeOfAttempt attempt)
      else none := by
  unfold InstallHelper.lineOf outcomeOfAttempt
  cases attempt.2 with
  | true => exact outcomeOf_ok core
  | false =>
      have ends : "pacman-failed".toList.getLast? = some 'd' := by decide
      exact outcomeOf_fail core (by decide) ends (by decide)

/-- A line of the helper has no line break, and ends in no carriage return. -/
theorem lineOf_plain
    {attempt : Text × Bool}
    (core : CoreName attempt.1) :
    '\n' ∉ InstallHelper.lineOf attempt ∧
      '\r' ∉ InstallHelper.lineOf attempt := by
  have noBreak : '\n' ∉ attempt.1 := core.notMem (by decide)
  have noReturn : '\r' ∉ attempt.1 := core.notMem (by decide)
  unfold InstallHelper.lineOf
  cases attempt.2 with
  | true => simp [noBreak, noReturn]
  | false => simp [noBreak, noReturn]

theorem withoutReturn_eq_self
    {line : Text}
    (noReturn : '\r' ∉ line) :
    withoutReturn line = line := by
  unfold withoutReturn
  exact if_neg fun ends => noReturn (List.mem_of_getLast? ends)

/-- The lines of the output are the lines that were printed. -/
theorem linesIn_stdout
    {System : Type}
    {run : InstallHelper.Run System}
    (noBreak : ∀ line ∈ run.printed, '\n' ∉ line)
    (noReturn : ∀ line ∈ run.printed, '\r' ∉ line) :
    linesIn run.stdout = run.printed := by
  unfold linesIn InstallHelper.Run.stdout
  rw [pieces_terminated noBreak]
  dsimp only
  have rest : ([[]] : List Text).filter (fun line => line ≠ []) = [] := by
    simp
  rw [List.getLast?_concat, List.dropLast_concat, Option.toList_some, rest,
    List.append_nil]
  exact List.map_congr_left (fun line member =>
    withoutReturn_eq_self (noReturn line member)) |>.trans
      (List.map_id _)

/-- A helper that fails has printed something. -/
theorem InstallHelper.Plain.failed_eq_false_or
    {System : Type}
    {run : InstallHelper.Run System}
    (plain : InstallHelper.Plain run) :
    run.failed = false ∨ (Bridge.trim run.stdout).isEmpty = false := by
  cases failed : run.failed with
  | false => exact Or.inl rfl
  | true =>
      rw [plain.failed] at failed
      obtain ⟨attempt, member, lost⟩ := List.any_eq_true.mp failed
      have line : 'l' ∈ InstallHelper.lineOf attempt := by
        unfold InstallHelper.lineOf
        rw [if_neg (by simpa using lost), List.append_assoc]
        exact List.mem_append_left _ (by decide)
      have written : 'l' ∈ run.stdout := by
        refine List.mem_flatMap.mpr
          ⟨_, ?_, List.mem_append_left _ line⟩
        rw [plain.printed]
        exact List.mem_map_of_mem member
      right
      rw [List.isEmpty_eq_false_iff]
      exact trim_ne_nil written (by decide)

/-! ## The installation -/

/-- What came of the first call of `pacman` for a package. -/
def firstAttempt
    (attempts : List (Text × Bool))
    (package : Text) : Option Bool :=
  (attempts.find? fun attempt => attempt.1 == package).map Prod.snd

/-- The report of the calls of `pacman`. -/
def reportOf
    (attempts : List (Text × Bool))
    (requested : List String) : RetroCoreInstallReport where
  installed := requested.filter fun package =>
    firstAttempt attempts package.toList == some true
  failed := (requested.filter fun package =>
    firstAttempt attempts package.toList != some true).map fun package =>
      ⟨package, "pacman-failed"⟩

/-- The lines say of a package what came of its first call. -/
theorem findSome_outcomeOf
    {attempts : List (Text × Bool)}
    (cores : ∀ attempt ∈ attempts, CoreName attempt.1)
    (package : Text) :
    (attempts.map InstallHelper.lineOf).findSome? (outcomeOf package) =
      (firstAttempt attempts package).map fun succeeded =>
        outcomeOfAttempt (package, succeeded) := by
  induction attempts with
  | nil => rfl
  | cons attempt later inductionHypothesis =>
      have rest := inductionHypothesis fun other member =>
        cores other (List.mem_cons_of_mem _ member)
      rw [List.map_cons, List.findSome?_cons,
        outcomeOf_lineOf package (cores attempt List.mem_cons_self)]
      unfold firstAttempt at rest ⊢
      by_cases same : attempt.1 = package
      · rw [if_pos same, List.find?_cons_of_pos (by simpa using same)]
        simp only [Option.map_some]
        rw [← same]
      · rw [if_neg same, List.find?_cons_of_neg (by simpa using same)]
        exact rest

/-- A package for which `pacman` was called has a first call. -/
theorem exists_firstAttempt
    {attempts : List (Text × Bool)}
    {package : Text}
    (called : package ∈ attempts.map Prod.fst) :
    ∃ succeeded, firstAttempt attempts package = some succeeded := by
  obtain ⟨attempt, member, rfl⟩ := List.mem_map.mp called
  unfold firstAttempt
  cases found : attempts.find? fun other => other.1 == attempt.1 with
  | none =>
      have never := List.find?_eq_none.mp found attempt member
      simp at never
  | some other => exact ⟨other.2, rfl⟩

section Run

variable
  {System : Type}
  (pacman : System → Text → System × Bool)

/-- The helper, given packages that the bridge lets pass. -/
theorem script_of_installable
    (system : System)
    {packages : List String}
    (installable : ∀ package ∈ packages, isInstallable package = true) :
    let run := InstallHelper.script pacman system
      (packages.map String.toList)
    let calls := InstallHelper.callsOf pacman system
      (packages.map String.toList)
    run.system = calls.1 ∧ run.attempts = calls.2 ∧
      InstallHelper.Plain run := by
  have named : ∀ package ∈ packages.map String.toList,
      InstallHelper.namesCore package = true := by
    intro package listed
    obtain ⟨requested, member, rfl⟩ := List.mem_map.mp listed
    exact (InstallHelper.namesCore_iff _).mpr
      (coreName_of_isInstallable (installable requested member))
  obtain ⟨system, attempts⟩ :=
    InstallHelper.foldl_install pacman (packages.map String.toList)
      { system := system }
  rw [List.filter_eq_self.mpr named, List.nil_append] at attempts
  rw [List.filter_eq_self.mpr named] at system
  exact ⟨system, attempts,
    InstallHelper.Plain.script pacman named ⟨rfl, rfl⟩⟩

/-- The output of the helper is read back as the report of its calls. -/
theorem parseHelperReport_stdout
    (system : System)
    {packages : List String}
    (installable : ∀ package ∈ packages, isInstallable package = true) :
    let run := InstallHelper.script pacman system
      (packages.map String.toList)
    parseHelperReport run.stdout packages =
      reportOf run.attempts packages := by
  intro run
  obtain ⟨_, attempts, plain⟩ :=
    script_of_installable pacman system installable
  have called :
      run.attempts.map Prod.fst = packages.map String.toList := by
    rw [attempts, InstallHelper.map_fst_callsOf]
  have cores : ∀ attempt ∈ run.attempts, CoreName attempt.1 := by
    intro attempt member
    have listed : attempt.1 ∈ packages.map String.toList := by
      rw [← called]
      exact List.mem_map_of_mem member
    obtain ⟨package, member, same⟩ := List.mem_map.mp listed
    rw [← same]
    exact coreName_of_isInstallable (installable package member)
  have lines : linesIn run.stdout = run.attempts.map InstallHelper.lineOf := by
    rw [linesIn_stdout, plain.printed]
    · rw [plain.printed]
      exact List.forall_mem_map.mpr fun attempt member =>
        (lineOf_plain (cores attempt member)).1
    · rw [plain.printed]
      exact List.forall_mem_map.mpr fun attempt member =>
        (lineOf_plain (cores attempt member)).2
  have read : ∀ package ∈ packages,
      failureOf package (outcomeIn run.stdout package) =
        if firstAttempt run.attempts package.toList == some true then none
        else some ⟨package, "pacman-failed"⟩ := by
    intro package member
    have listed : package.toList ∈ run.attempts.map Prod.fst := by
      rw [called]
      exact List.mem_map_of_mem member
    obtain ⟨succeeded, first⟩ := exists_firstAttempt listed
    rw [outcomeIn, lines, findSome_outcomeOf cores, first]
    cases succeeded with
    | true => rfl
    | false => rfl
  unfold parseHelperReport reportOf
  congr 1
  · refine List.filter_congr fun package member => ?_
    rw [read package member]
    cases firstAttempt run.attempts package.toList == some true <;> rfl
  · rw [← List.filterMap_eq_map, List.filterMap_filter]
    refine List.filterMap_congr fun package member => ?_
    rw [read package member, bne]
    cases firstAttempt run.attempts package.toList == some true <;> rfl

/-- The packages pass the bridge. -/
structure Installable (packages : List String) : Prop where
  some : packages ≠ []
  named : ∀ package ∈ packages, isInstallable package = true

/-- The bridge answers an installation that it lets pass with the report of
the calls. -/
theorem answerInstall_of_installable
    (system : System)
    {packages : List String}
    (installable : Installable packages) :
    let calls := InstallHelper.callsOf pacman system
      (packages.map String.toList)
    answerInstall .runs pacman system packages =
      (calls.1, .ok (reportOf calls.2 packages)) := by
  intro calls
  obtain ⟨sameSystem, attempts, plain⟩ :=
    script_of_installable pacman system installable.named
  have valid : validateInstallPackages packages = .ok packages :=
    validateInstallPackages_eq_ok.mpr
      ⟨rfl, installable.some, installable.named⟩
  have reported := parseHelperReport_stdout pacman system installable.named
  dsimp only at reported
  have ran :
      (!(InstallHelper.script pacman system
          (packages.map String.toList)).failed ||
        !(trim (InstallHelper.script pacman system
          (packages.map String.toList)).stdout).isEmpty) = true := by
    rcases plain.failed_eq_false_or with passed | printed
    · rw [passed]
      rfl
    · rw [printed, Bool.not_false, Bool.or_true]
  unfold answerInstall installCores
  rw [valid]
  dsimp only
  rw [if_pos ran, reported, sameSystem, attempts]

/-- What the bridge refuses leaves the system alone. -/
theorem answerInstall_of_refused
    (system : System)
    {pkexec : Pkexec}
    {packages : List String}
    (refused : ¬ Installable packages ∨ pkexec ≠ .runs) :
    ∃ refusal,
      answerInstall pkexec pacman system packages =
        (system, .error refusal) := by
  unfold answerInstall
  cases valid : validateInstallPackages packages with
  | error message => exact ⟨_, rfl⟩
  | ok checked =>
      obtain ⟨rfl, some, named⟩ := validateInstallPackages_eq_ok.mp valid
      have other : pkexec ≠ .runs :=
        refused.resolve_left (not_not_intro ⟨some, named⟩)
      cases pkexec with
      | missing => exact ⟨_, rfl⟩
      | refused => exact ⟨_, rfl⟩
      | runs => exact absurd rfl other

/-- Whatever the helper is given, it calls `pacman` for the names of cores and
for nothing else, in order.  A request that names anything else, and one that
`pkexec` does not let through, changes nothing.  Any other is answered with
what came of the first call for each of its packages. -/
theorem install_requests_are_confined
    (system : System) :
    (∀ arguments,
      let run := InstallHelper.script pacman system arguments
      let calls := InstallHelper.callsOf pacman system
        (arguments.filter InstallHelper.namesCore)
      run.system = calls.1 ∧ run.attempts = calls.2 ∧
        ∀ called ∈ calls.2.map Prod.fst, CoreName called) ∧
    (∀ pkexec packages, ¬ Installable packages ∨ pkexec ≠ .runs →
      ∃ refusal,
        answerInstall pkexec pacman system packages =
          (system, .error refusal)) ∧
    (∀ packages, Installable packages →
      let calls := InstallHelper.callsOf pacman system
        (packages.map String.toList)
      calls.2.map Prod.fst = packages.map String.toList ∧
        answerInstall .runs pacman system packages =
          (calls.1, .ok (reportOf calls.2 packages))) := by
  refine ⟨fun arguments => ?_,
    fun pkexec packages => answerInstall_of_refused pacman system,
    fun packages installable =>
      ⟨InstallHelper.map_fst_callsOf pacman system _,
        answerInstall_of_installable pacman system installable⟩⟩
  obtain ⟨sameSystem, attempts⟩ :=
    InstallHelper.foldl_install pacman arguments { system := system }
  refine ⟨sameSystem, attempts, fun called member => ?_⟩
  rw [InstallHelper.map_fst_callsOf] at member
  exact (InstallHelper.namesCore_iff called).mp (List.mem_filter.mp member).2

end Run

end Bridge
end Hearthdeck
