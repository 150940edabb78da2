import Hearthdeck.Foundation.Lapsing
import Hearthdeck.Foundation.Machine
import Hearthdeck.Frontend.Library
import Hearthdeck.Frontend.RommForm

/-!
# Which windows are taken fullscreen

A launch leaves a hint of the window it is expected to open.  A thread that
listens to the compositor looks at the names windows report, and asks for
fullscreen when a hint matches.  The hints are shared between the shell and
the thread; the flag by which a second launch knows that a thread listens is
another shared value, looked at after the hint is left.

Hints are dropped sixty seconds after their launch, but only when the list is
looked at.
-/

namespace Hearthdeck
namespace Frontend

open Foundation Lapsing

/-! ## Hints -/

/-- `HINT_LIFETIME`, in nanoseconds. -/
def hintLifetime : Nat := 60 * 1000000000

/-- `MIN_TITLE_CANDIDATE`. -/
def minTitleCandidate : Nat := 4

/-- `WindowHint`. -/
structure WindowHint where
  candidates : List String
  label : String
  deriving DecidableEq, Repr

/-- Drop an ending as often as it is there; the first argument bounds how
often. -/
def withoutEndings (ending : List Char) : Nat → List Char → List Char
  | 0, text => text
  | bound + 1, text =>
      if ending ≠ [] ∧ ending <:+ text then
        withoutEndings ending bound (text.take (text.length - ending.length))
      else
        text

/-- `str::trim_end_matches`. -/
def trimEndMatches (text ending : String) : String :=
  .ofList (withoutEndings ending.toList text.length text.toList)

/-- The closure `push` of `WindowHint::for_entry`. -/
def pushCandidate (candidates : List String) (candidate : String) :
    List String :=
  if !candidate.isEmpty && !candidates.contains candidate then
    candidates ++ [candidate]
  else
    candidates

namespace WindowHint

section Text

variable (language : Language)

/-- `WindowHint::for_entry`. -/
def forEntry (id name : String) (wmClass : Option String) : WindowHint :=
  let candidates := pushCandidate []
    (language.lowercase (trimmed (trimEndMatches id ".desktop")))
  let candidates :=
    match (wmClass.map trimmed).filter fun value => !value.isEmpty with
    | some wmClass => pushCandidate candidates (language.lowercase wmClass)
    | none => candidates
  let name := language.lowercase (trimmed name)
  { candidates :=
      if minTitleCandidate ≤ name.length then
        pushCandidate candidates name
      else
        candidates
    label := id }

/-- `WindowHint::matches`. -/
def fits (hint : WindowHint) (appId title : String) : Bool :=
  let appId := language.lowercase appId
  let title := language.lowercase title
  hint.candidates.any fun candidate =>
    !appId.isEmpty &&
        (appId == candidate || decide (candidate.toList <:+: appId.toList)) ||
      !title.isEmpty &&
        (title == candidate || decide (candidate.toList <:+: title.toList))

end Text

end WindowHint

/-! ## The shell, the thread and the compositor -/

/-- What a window reports of itself. -/
inductive WindowReport
  | appId (appId : String)
  | title (title : String)
  deriving DecidableEq, Repr

/-- The app id of a report. -/
def WindowReport.reportedId : WindowReport → String
  | .appId reported => reported
  | .title _ => ""

/-- The title of a report. -/
def WindowReport.reportedTitle : WindowReport → String
  | .appId _ => ""
  | .title reported => reported

/-- How far a thread is in `watch`. -/
inductive ThreadStage
  /-- It binds the globals of the compositor. -/
  | binding
  | listening
  /-- `watch` has returned. -/
  | returned
  deriving DecidableEq, Repr

/-- A request that a window be fullscreen, with the number of the launch whose
hint it fits. -/
structure FullscreenRequest where
  window : Nat
  launch : Nat
  deriving DecidableEq, Repr

/-- What the shell and its threads share, and what was asked for. -/
structure Desk where
  now : Nat
  /-- `HINTS`. -/
  hints : List (Entry WindowHint)
  /-- `WATCHING`. -/
  watching : Bool
  threads : List ThreadStage
  /-- A hint was left, and the flag was not looked at since. -/
  leaving : Bool
  requests : List FullscreenRequest
  /-- The hints of all launches.  Read by no code. -/
  launches : List (Entry WindowHint)

/-- What can happen. -/
inductive DeskCall
  /-- Time passes. -/
  | elapse (span : Nat)
  /-- The first half of `fullscreen_when_it_appears`, for an entry. -/
  | leave (id name : String) (wmClass : Option String)
  /-- Its second half, with what becomes of the thread it starts. -/
  | watch (spawns : Bool)
  /-- A thread has bound the globals, or has not found one. -/
  | bound (thread : Nat) (found : Bool)
  /-- `WindowEvent`, dispatched by a thread. -/
  | report (thread window : Nat) (report : WindowReport)
  /-- The connection of a thread ends. -/
  | disconnected (thread : Nat)
  /-- A thread clears the flag and ends. -/
  | released (thread : Nat)

namespace Desk

/-- Before the first launch. -/
def new : Desk where
  now := 0
  hints := []
  watching := false
  threads := []
  leaving := false
  requests := []
  launches := []

/-- The shell leaves a hint. -/
def leave (desk : Desk) (hint : WindowHint) : Desk :=
  let entry : Entry WindowHint :=
    { item := hint, since := desk.now, number := desk.launches.length }
  { desk with
    hints := prune hintLifetime desk.now desk.hints ++ [entry]
    leaving := true
    launches := desk.launches ++ [entry] }

/-- The shell looks at the flag, and starts a thread when it was clear. -/
def watch (desk : Desk) (spawns : Bool) : Desk :=
  if desk.watching then
    { desk with leaving := false }
  else if spawns then
    { desk with
      leaving := false
      watching := true
      threads := desk.threads ++ [.binding] }
  else
    { desk with leaving := false }

/-- `Watcher::consider`. -/
def consider
    (language : Language)
    (desk : Desk)
    (window : Nat)
    (appId title : String) : Desk :=
  let hints := prune hintLifetime desk.now desk.hints
  let fits := fun entry : Entry WindowHint =>
    entry.item.fits language appId title
  match hints.find? fits with
  | none => { desk with hints := hints }
  | some entry =>
      { desk with
        hints := hints.eraseP fits
        requests := desk.requests ++ [⟨window, entry.number⟩] }

/-- One thing happens.  What cannot happen changes nothing. -/
def step (language : Language) (desk : Desk) : DeskCall → Desk
  | .elapse span => { desk with now := desk.now + span }
  | .leave id name wmClass =>
      if desk.leaving then desk
      else desk.leave (.forEntry language id name wmClass)
  | .watch spawns => if desk.leaving then desk.watch spawns else desk
  | .bound thread found =>
      if desk.threads[thread]? = some .binding then
        { desk with
          threads := desk.threads.set thread
            (if found then .listening else .returned) }
      else
        desk
  | .report thread window report =>
      if desk.threads[thread]? = some .listening then
        desk.consider language window report.reportedId report.reportedTitle
      else
        desk
  | .disconnected thread =>
      if desk.threads[thread]? = some .listening then
        { desk with threads := desk.threads.set thread .returned }
      else
        desk
  | .released thread =>
      if desk.threads[thread]? = some .returned then
        { desk with
          watching := false
          threads := desk.threads.eraseIdx thread }
      else
        desk

end Desk

/-- The shell and its threads, with what happens to them. -/
def deskMachine (language : Language) : Machine Desk DeskCall Unit where
  start := .new
  step desk call := (desk.step language call, [])

/-- The launches whose window has been asked for. -/
def Desk.taken (desk : Desk) : List Nat :=
  desk.requests.map FullscreenRequest.launch

/-- The launch a report is taken for: the first one, of those less than sixty
seconds old without a request, whose hint it fits. -/
def Desk.awaited
    (language : Language)
    (desk : Desk)
    (report : WindowReport) : Option (Entry WindowHint) :=
  desk.launches.find? fun entry =>
    Waits hintLifetime desk.now desk.taken entry &&
      entry.item.fits language report.reportedId report.reportedTitle

/-- The requests a call makes. -/
def Desk.asks
    (language : Language)
    (desk : Desk) : DeskCall → List FullscreenRequest
  | .report thread window report =>
      if desk.threads[thread]? = some .listening then
        ((desk.awaited language report).map fun entry =>
          ⟨window, entry.number⟩).toList
      else
        []
  | _ => []

/-! ## Candidates -/

theorem pushCandidate_nonempty
    {candidates : List String}
    (nonempty : "" ∉ candidates)
    (candidate : String) :
    "" ∉ pushCandidate candidates candidate := by
  unfold pushCandidate
  split
  case isFalse skipped => exact nonempty
  case isTrue pushed =>
    rw [Bool.and_eq_true, Bool.not_eq_true'] at pushed
    rw [List.mem_append, List.mem_singleton]
    rintro (earlier | rfl)
    · exact nonempty earlier
    · exact absurd pushed.1 (by decide)

/-- No candidate of an entry is empty. -/
theorem WindowHint.forEntry_nonempty
    (language : Language)
    (id name : String)
    (wmClass : Option String) :
    "" ∉ (WindowHint.forEntry language id name wmClass).candidates := by
  have ofId := pushCandidate_nonempty List.not_mem_nil
    (language.lowercase (trimmed (trimEndMatches id ".desktop")))
  unfold forEntry
  dsimp only
  split
  all_goals split
  · exact pushCandidate_nonempty (pushCandidate_nonempty ofId _) _
  · exact pushCandidate_nonempty ofId _
  · exact pushCandidate_nonempty ofId _
  · exact ofId

example :
    ((WindowHint.forEntry .ascii "org.example.App.desktop" "Example App"
      none).fits .ascii "" "Example App - untitled" &&
        !(WindowHint.forEntry .ascii "vlc.desktop" "VLC" none).fits .ascii ""
          "New tab") = true := by
  decide +kernel

/-! ## Threads -/

/-- One thread at most, and the flag is set while there is one. -/
structure Alone (desk : Desk) : Prop where
  one : desk.threads.length ≤ 1
  flag : desk.watching = true ↔ desk.threads ≠ []

theorem alone_step
    (language : Language)
    {desk : Desk}
    (alone : Alone desk)
    (call : DeskCall) :
    Alone (desk.step language call) := by
  obtain ⟨one, flag⟩ := alone
  cases call with
  | elapse span => exact ⟨one, flag⟩
  | leave id name wmClass =>
      unfold Desk.step
      dsimp only
      split <;> exact ⟨one, flag⟩
  | watch spawns =>
      unfold Desk.step Desk.watch
      dsimp only
      split
      case isFalse idle => exact ⟨one, flag⟩
      case isTrue left =>
        split
        case isTrue watching => exact ⟨one, flag⟩
        case isFalse clear =>
          have none : desk.threads = [] := not_not.mp (mt flag.mpr clear)
          split
          case isTrue spawned =>
            rw [none]
            exact ⟨le_refl 1, iff_of_true rfl (List.cons_ne_nil _ _)⟩
          case isFalse lost => exact ⟨one, flag⟩
  | bound thread found =>
      unfold Desk.step
      dsimp only
      split
      case isFalse other => exact ⟨one, flag⟩
      case isTrue binding =>
        refine ⟨by simpa using one, ?_⟩
        simpa using flag
  | report thread window report =>
      unfold Desk.step Desk.consider
      dsimp only
      split
      case isFalse other => exact ⟨one, flag⟩
      case isTrue listening => split <;> exact ⟨one, flag⟩
  | disconnected thread =>
      unfold Desk.step
      dsimp only
      split
      case isFalse other => exact ⟨one, flag⟩
      case isTrue listening =>
        refine ⟨by simpa using one, ?_⟩
        simpa using flag
  | released thread =>
      unfold Desk.step
      dsimp only
      split
      case isFalse other => exact ⟨one, flag⟩
      case isTrue returned =>
        have last : desk.threads.eraseIdx thread = [] := by
          rw [← List.length_eq_zero_iff]
          obtain ⟨inside, _⟩ := List.getElem?_eq_some_iff.mp returned
          rw [List.length_eraseIdx_of_lt inside]
          omega
        rw [last]
        exact ⟨Nat.zero_le 1, by simp⟩

/-! ## Requests -/

/-- What holds of the hints and the requests in every run. -/
structure Kept (desk : Desk) : Prop where
  reflects : Reflects hintLifetime desk.now desk.launches desk.taken
    desk.hints
  numbered :
    desk.launches.map Entry.number = List.range desk.launches.length
  once : desk.taken.Nodup
  named : ∀ entry ∈ desk.launches, "" ∉ entry.item.candidates

theorem kept_new : Kept .new where
  reflects := reflects_nil
  numbered := rfl
  once := List.nodup_nil
  named := List.forall_mem_nil _

theorem kept_leave
    {desk : Desk}
    (kept : Kept desk)
    {hint : WindowHint}
    (nonempty : "" ∉ hint.candidates) :
    Kept (desk.leave hint) where
  reflects := by
    refine kept.reflects.prune.concat ?_ ?_
    · rw [kept.numbered]
      exact List.not_mem_range_self
    · rw [Entry.fresh, Nat.sub_self]
      decide
  numbered := by
    change (desk.launches ++ [_]).map Entry.number =
      List.range (desk.launches ++ [_]).length
    rw [List.map_append, kept.numbered, List.length_append,
      List.length_singleton, List.range_succ]
    rfl
  once := kept.once
  named := by
    change ∀ entry ∈ desk.launches ++ [_], "" ∉ entry.item.candidates
    rw [List.forall_mem_append]
    exact ⟨kept.named, List.forall_mem_singleton.mpr nonempty⟩

section Consider

variable
  (language : Language)
  {desk : Desk}
  (kept : Kept desk)
  (window : Nat)
  (report : WindowReport)

include kept

/-- A report asks for the window when a launch awaits it. -/
theorem requests_consider :
    (desk.consider language window report.reportedId
        report.reportedTitle).requests =
      desk.requests ++ ((desk.awaited language report).map fun entry =>
        (⟨window, entry.number⟩ : FullscreenRequest)).toList := by
  have awaited := kept.reflects.find?_eq fun entry =>
    entry.item.fits language report.reportedId report.reportedTitle
  unfold Desk.consider Desk.awaited
  dsimp only
  rw [awaited]
  split
  case h_1 none =>
    rw [none]
    exact (List.append_nil _).symm
  case h_2 entry found =>
    rw [found]
    rfl

theorem kept_consider :
    Kept (desk.consider language window report.reportedId
      report.reportedTitle) := by
  unfold Desk.consider
  dsimp only
  split
  case h_1 none =>
    exact ⟨kept.reflects.prune, kept.numbered, kept.once, kept.named⟩
  case h_2 entry found =>
    have taken : ∀ requests : List FullscreenRequest,
        (requests ++ [(⟨window, entry.number⟩ : FullscreenRequest)]).map
            FullscreenRequest.launch =
          requests.map FullscreenRequest.launch ++ [entry.number] :=
      fun requests => List.map_append
    refine ⟨?_, kept.numbered, ?_, kept.named⟩
    · unfold Desk.taken
      rw [taken]
      exact kept.reflects.take found
    · unfold Desk.taken
      rw [taken, List.nodup_append]
      refine ⟨kept.once, List.nodup_singleton _, ?_⟩
      intro number member other last
      obtain rfl := List.mem_singleton.mp last
      exact fun same =>
        kept.reflects.notMem_of_find? found (same ▸ member)

end Consider

theorem kept_step
    (language : Language)
    {desk : Desk}
    (kept : Kept desk)
    (call : DeskCall) :
    Kept (desk.step language call) := by
  have same : ∀ other : Desk, other.now = desk.now →
      other.hints = desk.hints → other.requests = desk.requests →
      other.launches = desk.launches → Kept other := by
    intro other now hints requests launches
    obtain ⟨reflects, numbered, once, named⟩ := kept
    unfold Desk.taken at reflects once
    refine ⟨?_, ?_, ?_, ?_⟩
    · unfold Desk.taken
      rw [now, hints, requests, launches]
      exact reflects
    · rw [launches]
      exact numbered
    · unfold Desk.taken
      rw [requests]
      exact once
    · rw [launches]
      exact named
  cases call with
  | elapse span =>
      exact ⟨kept.reflects.later (Nat.le_add_right _ _), kept.numbered,
        kept.once, kept.named⟩
  | leave id name wmClass =>
      unfold Desk.step
      dsimp only
      split
      · exact kept
      · exact kept_leave kept
          (WindowHint.forEntry_nonempty language id name wmClass)
  | report thread window report =>
      unfold Desk.step
      dsimp only
      split
      · exact kept_consider language kept window report
      · exact kept
  | watch spawns =>
      unfold Desk.step Desk.watch
      dsimp only
      split_ifs <;> exact same _ rfl rfl rfl rfl
  | bound thread found =>
      unfold Desk.step
      dsimp only
      split_ifs <;> exact same _ rfl rfl rfl rfl
  | disconnected thread =>
      unfold Desk.step
      dsimp only
      split_ifs <;> exact same _ rfl rfl rfl rfl
  | released thread =>
      unfold Desk.step
      dsimp only
      split_ifs <;> exact same _ rfl rfl rfl rfl

/-- Only a report makes requests. -/
theorem requests_step
    (language : Language)
    {desk : Desk}
    (kept : Kept desk)
    (call : DeskCall) :
    (desk.step language call).requests =
      desk.requests ++ desk.asks language call := by
  cases call with
  | report thread window report =>
      unfold Desk.step Desk.asks
      dsimp only
      split
      · exact requests_consider language kept window report
      · exact (List.append_nil _).symm
  | elapse span => exact (List.append_nil _).symm
  | leave id name wmClass =>
      refine Eq.trans ?_ (List.append_nil desk.requests).symm
      unfold Desk.step
      dsimp only
      split <;> rfl
  | watch spawns =>
      refine Eq.trans ?_ (List.append_nil desk.requests).symm
      unfold Desk.step Desk.watch
      dsimp only
      split_ifs <;> rfl
  | bound thread found =>
      refine Eq.trans ?_ (List.append_nil desk.requests).symm
      unfold Desk.step
      dsimp only
      split <;> rfl
  | disconnected thread =>
      refine Eq.trans ?_ (List.append_nil desk.requests).symm
      unfold Desk.step
      dsimp only
      split <;> rfl
  | released thread =>
      refine Eq.trans ?_ (List.append_nil desk.requests).symm
      unfold Desk.step
      dsimp only
      split <;> rfl

/-- However launches, reports and threads interleave, one thread listens at
most, every launch has at most one window taken fullscreen, and a report is
taken for the first launch that it fits, of those less than sixty seconds old
whose window was not seen. -/
theorem each_launch_takes_one_window
    (language : Language)
    (calls : List DeskCall) :
    let desk := (deskMachine language).run calls
    Alone desk ∧ desk.taken.Nodup ∧
      (∀ entry ∈ desk.launches, "" ∉ entry.item.candidates) ∧
      ∀ call, (desk.step language call).requests =
        desk.requests ++ desk.asks language call := by
  intro desk
  have alone : Alone desk :=
    (deskMachine language).run_induction Alone
      ⟨Nat.zero_le 1, iff_of_false Bool.false_ne_true (not_not_intro rfl)⟩
      (fun state call alone => alone_step language alone call) calls
  have kept : Kept desk :=
    (deskMachine language).run_induction Kept kept_new
      (fun state call kept => kept_step language kept call) calls
  exact ⟨alone, kept.once, kept.named,
    fun call => requests_step language kept call⟩

end Frontend
end Hearthdeck
