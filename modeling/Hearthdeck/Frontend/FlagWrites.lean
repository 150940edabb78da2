import Hearthdeck.Foundation.Flight
import Hearthdeck.Foundation.Machine
import Hearthdeck.Frontend.Details

/-!
# Writing a flag

RomM stores two flags for every file, and for each flag there is a collection
that has the flagged files.  A press on the details screen writes both, one
request after the other; either request may fail, and may have been carried
out when it does.  The details reads bring the flags as they were at some
instant between the sending of the read and its answer.
-/

namespace Hearthdeck
namespace Frontend

open Foundation

/-- What is set for which file and flag. -/
def Marks := Int → Flag → Bool

/-- Set or clear one mark. -/
def Marks.put
    (marks : Marks)
    (file : Int)
    (flag : Flag)
    (value : Bool) : Marks :=
  fun other which =>
    if other = file ∧ which = flag then value else marks other which

@[simp] theorem Marks.put_same
    (marks : Marks)
    (file : Int)
    (flag : Flag)
    (value : Bool) :
    marks.put file flag value file flag = value :=
  if_pos ⟨rfl, rfl⟩

theorem Marks.put_other
    (marks : Marks)
    {file other : Int}
    {flag which : Flag}
    (value : Bool)
    (different : ¬ (other = file ∧ which = flag)) :
    marks.put file flag value other which = marks other which :=
  if_neg different

/-- How far a write has come. -/
inductive WriteStage
  | sent
  /-- RomM stored the flag. -/
  | flagStored
  /-- The collection was changed as well. -/
  | memberStored
  deriving DecidableEq, Repr

/-- A write on its way. -/
structure PendingWrite where
  write : FlagWrite
  stage : WriteStage
  deriving DecidableEq, Repr

/-- Whether a write is one of a file and a flag. -/
def PendingWrite.concerns
    (pending : PendingWrite)
    (file : Int)
    (flag : Flag) : Bool :=
  pending.write.romId = file && pending.write.flag = flag

/-- How a flag and its membership stand to a write on its way. -/
def PendingWrite.Matches
    (pending : PendingWrite)
    (flag member : Bool) : Prop :=
  match pending.stage with
  | .sent => flag = member
  | .flagStored => flag = pending.write.value
  | .memberStored =>
      flag = pending.write.value ∧ member = pending.write.value

/-- The details screen, what is on its way, and what is stored. -/
structure FlagDesk where
  screen : DetailsScreen
  reads : List (Flight Int RetroGameDetails)
  writes : List PendingWrite
  /-- RomM's flags. -/
  flags : Marks
  /-- The membership in the collection of the flag. -/
  members : Marks

/-- What can happen. -/
inductive FlagStep
  /-- A tile of a console game is opened. -/
  | openDetails
      (romId : Int) (title : String) (versions : List RomVersion)
      (index : Nat)
  /-- The shell goes to another page. -/
  | switchPage (page : ShellPage)
  /-- The fade of a page has run its course. -/
  | expirePageFade
  | backPressed
  | playPressed
  | screenshotSelected (index : Nat)
  | flagPressed (flag : Flag)
  | discPickerPressed
  | discSelected (romId : Int)
  /-- The daemon reads the flags for a details read. -/
  | look (index : Nat)
  /-- A details read is answered, with its artwork. -/
  | readAnswered
      (index : Nat) (hero : Option String) (screenshots : List String)
  | readFailed (index : Nat) (error : String)
  /-- RomM stores the flag of a write. -/
  | storeFlag (index : Nat)
  /-- The collection is changed, which is asked for once the flag is stored. -/
  | storeMember (index : Nat)
  | writeAnswered (index : Nat)
  /-- A request of a write fails, carried out or not. -/
  | writeFailed (index : Nat) (error : String)

namespace FlagDesk

/-- Let the screen react, and begin what it asks for. -/
def update (desk : FlagDesk) (message : DetailsMessage) : FlagDesk :=
  let updated := desk.screen.updateDetails message
  let shown := { desk with screen := updated.1 }
  match updated.2 with
  | .writeFlag write => { shown with writes := desk.writes ++ [⟨write, .sent⟩] }
  | .read romId => { shown with reads := desk.reads ++ [.sent romId] }
  | _ => shown

/-- RomM's flags of a file, as a read finds them. -/
def info (desk : FlagDesk) (file : Int) : RetroGameDetails where
  favorite := desk.flags file .favorite
  backlogged := desk.flags file .backlog

/-- The write at a position comes to another stage. -/
def advance
    (desk : FlagDesk)
    (index : Nat)
    (pending : PendingWrite)
    (stage : WriteStage) : FlagDesk :=
  { desk with
    writes := desk.writes.eraseIdx index ++ [{ pending with stage := stage }] }

/-- The flag of a write is stored. -/
def storeFlag (desk : FlagDesk) (index : Nat) : FlagDesk :=
  match desk.writes[index]? with
  | some ⟨write, .sent⟩ =>
      { desk.advance index ⟨write, .sent⟩ .flagStored with
        flags := desk.flags.put write.romId write.flag write.value }
  | _ => desk

/-- The membership of a write is stored. -/
def storeMember (desk : FlagDesk) (index : Nat) : FlagDesk :=
  match desk.writes[index]? with
  | some ⟨write, .flagStored⟩ =>
      { desk.advance index ⟨write, .flagStored⟩ .memberStored with
        members := desk.members.put write.romId write.flag write.value }
  | _ => desk

/-- `FlagWritten`, with what `flag_write_task` returned. -/
def settle
    (desk : FlagDesk)
    (index : Nat)
    (write : FlagWrite)
    (result : Except String Bool) : FlagDesk :=
  { desk with writes := desk.writes.eraseIdx index }.update
    (.flagWritten write.romId write.flag write.previous result)

/-- A write whose requests were both carried out is answered. -/
def answerWrite (desk : FlagDesk) (index : Nat) : FlagDesk :=
  match desk.writes[index]? with
  | some ⟨write, .memberStored⟩ => desk.settle index write (.ok write.value)
  | _ => desk

/-- A request of a write fails. -/
def failWrite (desk : FlagDesk) (index : Nat) (error : String) : FlagDesk :=
  match desk.writes[index]? with
  | some pending => desk.settle index pending.write (.error error)
  | none => desk

/-- A details read that was taken is answered. -/
def answerRead
    (desk : FlagDesk)
    (index : Nat)
    (hero : Option String)
    (screenshots : List String) : FlagDesk :=
  match desk.reads[index]? with
  | some ⟨file, some info⟩ =>
      { desk with reads := desk.reads.eraseIdx index }.update
        (.loaded file (.ok ⟨info, hero, screenshots⟩))
  | _ => desk

/-- A details read fails. -/
def failRead (desk : FlagDesk) (index : Nat) (error : String) : FlagDesk :=
  match desk.reads[index]? with
  | some read =>
      { desk with reads := desk.reads.eraseIdx index }.update
        (.loaded read.request (.error error))
  | none => desk

/-- One step.  What is not on its way does not arrive. -/
def step (desk : FlagDesk) : FlagStep → FlagDesk
  | .openDetails romId title versions index =>
      { desk with
        screen := desk.screen.openDetails romId title versions index
        reads := desk.reads ++ [.sent romId] }
  | .switchPage page =>
      -- Only a tile opens the details page.
      if page = .details then
        desk
      else
        { desk with screen := desk.screen.switchPage page }
  | .expirePageFade => { desk with screen := desk.screen.expirePageFade }
  | .backPressed => desk.update .backPressed
  | .playPressed => desk.update .playPressed
  | .screenshotSelected index => desk.update (.screenshotSelected index)
  | .flagPressed flag => desk.update (.flagPressed flag)
  | .discPickerPressed => desk.update .discPickerPressed
  | .discSelected romId => desk.update (.discSelected romId)
  | .look index =>
      { desk with reads := desk.reads.modify index (Flight.look desk.info) }
  | .readAnswered index hero screenshots =>
      desk.answerRead index hero screenshots
  | .readFailed index error => desk.failRead index error
  | .storeFlag index => desk.storeFlag index
  | .storeMember index => desk.storeMember index
  | .writeAnswered index => desk.answerWrite index
  | .writeFailed index error => desk.failWrite index error

/-- The shell at start, over any flags and memberships. -/
def start (flags members : Marks) : FlagDesk where
  screen := .start
  reads := []
  writes := []
  flags := flags
  members := members

def machine (flags members : Marks) : Machine FlagDesk FlagStep Unit where
  start := start flags members
  step := fun desk step => (desk.step step, [])

/-! ## The writes on their way -/

/-- No write of a file and a flag is on its way. -/
def Quiet (desk : FlagDesk) (file : Int) (flag : Flag) : Prop :=
  ∀ pending ∈ desk.writes, pending.concerns file flag = false

/-- The write a press begins. -/
def pressed (desk : FlagDesk) (flag : Flag) : Option FlagWrite :=
  desk.screen.details.bind fun details => (details.toggleFlag flag).2

/-- A press begins a write while one of the same file and flag is on its
way. -/
def Overlaps
    (desk : FlagDesk)
    (file : Int)
    (flag : Flag) : FlagStep → Prop
  | .flagPressed which =>
      which = flag ∧
        (∃ write, desk.pressed which = some write ∧ write.romId = file) ∧
        ¬ desk.Quiet file flag
  | _ => False

theorem update_frame
    (desk : FlagDesk)
    (message : DetailsMessage) :
    (desk.update message).flags = desk.flags ∧
      (desk.update message).members = desk.members ∧
      (desk.update message).screen =
        (desk.screen.updateDetails message).1 := by
  unfold update
  dsimp only
  split
  case h_1 write asked => exact ⟨rfl, rfl, rfl⟩
  case h_2 romId asked => exact ⟨rfl, rfl, rfl⟩
  case h_3 => exact ⟨rfl, rfl, rfl⟩

/-- Only a press on a flag begins a write. -/
theorem writes_update
    (desk : FlagDesk)
    (message : DetailsMessage)
    (other : ∀ flag, message ≠ .flagPressed flag) :
    (desk.update message).writes = desk.writes := by
  have silent : ∀ write,
      (desk.screen.updateDetails message).2 ≠ .writeFlag write := by
    intro write asked
    cases shown : desk.screen.details with
    | none =>
        rw [DetailsScreen.updateDetails_none shown] at asked
        cases asked
    | some details =>
        by_cases late : desk.screen.isLate message = true
        · unfold DetailsScreen.updateDetails at asked
          rw [if_pos late] at asked
          cases asked
        · have updated := (DetailsScreen.updateDetails_some shown message
            (DetailsScreen.current_of_not_isLate late)).2
          rw [updated] at asked
          obtain ⟨flag, press, -⟩ := Details.flagPressed_of_writeFlag asked
          exact other flag press
  unfold update
  dsimp only
  split
  case h_1 write asked => exact absurd asked (silent write)
  case h_2 romId asked => rfl
  case h_3 => rfl

theorem writes_flagPressed
    (desk : FlagDesk)
    (flag : Flag) :
    (desk.update (.flagPressed flag)).writes =
      match desk.pressed flag with
      | some write => desk.writes ++ [⟨write, .sent⟩]
      | none => desk.writes := by
  unfold pressed
  cases shown : desk.screen.details with
  | none =>
      unfold update
      rw [DetailsScreen.updateDetails_none shown]
      rfl
  | some details =>
      have updated := (DetailsScreen.updateDetails_some shown
        (.flagPressed flag) (Or.inr fun _ _ => DetailsMessage.noConfusion)).2
      rw [(details.update_flagPressed flag).2] at updated
      unfold update
      dsimp only
      rw [updated, Option.bind_some]
      cases (details.toggleFlag flag).2 with
      | none => rfl
      | some write => rfl

theorem writes_settle
    (desk : FlagDesk)
    (index : Nat)
    (write : FlagWrite)
    (result : Except String Bool) :
    (desk.settle index write result).writes = desk.writes.eraseIdx index :=
  writes_update _ _ fun _ => DetailsMessage.noConfusion

/-- A step that only the screen and the reads notice. -/
theorem unnoticed_of_writes
    {desk next : FlagDesk}
    (writes : next.writes = desk.writes)
    (file : Int)
    (flag : Flag) :
    next.Quiet file flag ↔ desk.Quiet file flag := by
  unfold Quiet
  rw [writes]

/-- With at most one write of a file and a flag on its way, the others are of
another file or flag. -/
theorem quiet_eraseIdx
    {desk : FlagDesk}
    {file : Int}
    {flag : Flag}
    (one : desk.writes.countP (·.concerns file flag) ≤ 1)
    {index : Nat}
    {pending : PendingWrite}
    (found : desk.writes[index]? = some pending)
    (concerned : pending.concerns file flag = true) :
    ∀ other ∈ desk.writes.eraseIdx index,
      other.concerns file flag = false := by
  have counted := Flight.countP_of_getElem? found (·.concerns file flag)
  rw [if_pos concerned] at counted
  have none : (desk.writes.eraseIdx index).countP (·.concerns file flag) = 0 :=
    by omega
  intro other member
  exact Bool.eq_false_iff.mpr (List.countP_eq_zero.mp none other member)

theorem countP_advance
    {desk : FlagDesk}
    {index : Nat}
    {pending : PendingWrite}
    (found : desk.writes[index]? = some pending)
    (stage : WriteStage)
    (file : Int)
    (flag : Flag) :
    (desk.advance index pending stage).writes.countP (·.concerns file flag) =
      desk.writes.countP (·.concerns file flag) := by
  rw [Flight.countP_of_getElem? found]
  change (desk.writes.eraseIdx index ++ [_]).countP _ = _
  rw [List.countP_append, List.countP_singleton]
  rfl

theorem mem_advance
    {desk : FlagDesk}
    {index : Nat}
    {pending other : PendingWrite}
    {stage : WriteStage}
    (member : other ∈ (desk.advance index pending stage).writes) :
    other ∈ desk.writes.eraseIdx index ∨
      other = { pending with stage := stage } := by
  rcases List.mem_append.mp member with earlier | new
  · exact Or.inl earlier
  · exact Or.inr (List.mem_singleton.mp new)

/-- A write of a file and a flag that is quiet again is not the one at a
position. -/
theorem quiet_of_erased
    {desk : FlagDesk}
    {index : Nat}
    {pending : PendingWrite}
    (found : desk.writes[index]? = some pending)
    {file : Int}
    {flag : Flag}
    (elsewhere : pending.concerns file flag = false)
    (quiet : ∀ other ∈ desk.writes.eraseIdx index,
      other.concerns file flag = false) :
    desk.Quiet file flag := by
  intro other member
  have stays := (Flight.perm_of_getElem? found).mem_iff.mpr member
  rcases List.mem_cons.mp stays with rfl | rest
  · exact elsewhere
  · exact quiet other rest

theorem quiet_of_pressed
    {desk : FlagDesk}
    {file : Int}
    {flag : Flag}
    {write : FlagWrite}
    (press : desk.pressed write.flag = some write)
    (alone : ¬ desk.Overlaps file flag (.flagPressed write.flag))
    (concerned : PendingWrite.concerns ⟨write, .sent⟩ file flag = true) :
    desk.Quiet file flag := by
  have parts := Bool.and_eq_true_iff.mp concerned
  by_contra busy
  exact alone ⟨of_decide_eq_true parts.2,
    ⟨write, press, of_decide_eq_true parts.1⟩, busy⟩

/-- A write begun while there is none stays the only one. -/
theorem countP_begin
    {desk : FlagDesk}
    {file : Int}
    {flag : Flag}
    {pending : PendingWrite}
    (one : desk.writes.countP (·.concerns file flag) ≤ 1)
    (fresh : pending.concerns file flag = true → desk.Quiet file flag) :
    (desk.writes ++ [pending]).countP (·.concerns file flag) ≤ 1 := by
  rw [List.countP_append, List.countP_singleton]
  split
  case isFalse elsewhere => exact one
  case isTrue concerned =>
      have none : desk.writes.countP (·.concerns file flag) = 0 := by
        apply List.countP_eq_zero.mpr
        intro other member
        exact Bool.eq_false_iff.mp (fresh concerned other member)
      rw [none]

theorem flag_of_pressed
    {desk : FlagDesk}
    {flag : Flag}
    {write : FlagWrite}
    (press : desk.pressed flag = some write) :
    write.flag = flag := by
  obtain ⟨details, shown, toggled⟩ := Option.bind_eq_some_iff.mp press
  unfold Details.toggleFlag at toggled
  split at toggled
  case isTrue busy => cases toggled
  case isFalse free =>
      cases toggled
      rfl

/-! ## The flag and its collection -/

/-- A write ends with the flag stored and the membership as it was, which is
not what the write asks for. -/
def HalfWritten
    (desk : FlagDesk)
    (file : Int)
    (flag : Flag) : FlagStep → Prop
  | .writeFailed index _ =>
      ∃ write, desk.writes[index]? = some ⟨write, .flagStored⟩ ∧
        write.romId = file ∧ write.flag = flag ∧
        desk.members file flag ≠ write.value
  | _ => False

/-- One write of the file and the flag is on its way at most, and the flag and
the membership are where it left them; without one they agree. -/
structure Agrees
    (file : Int)
    (flag : Flag)
    (desk : FlagDesk) : Prop where
  one : desk.writes.countP (·.concerns file flag) ≤ 1
  stages : ∀ pending ∈ desk.writes, pending.concerns file flag = true →
    pending.Matches (desk.flags file flag) (desk.members file flag)
  settled : desk.Quiet file flag →
    desk.flags file flag = desk.members file flag

/-- What leaves the writes and what is stored alone keeps the agreement. -/
theorem Agrees.of_frame
    {file : Int}
    {flag : Flag}
    {desk next : FlagDesk}
    (agrees : Agrees file flag desk)
    (writes : next.writes = desk.writes)
    (flags : next.flags = desk.flags)
    (members : next.members = desk.members) :
    Agrees file flag next := by
  refine ⟨?_, ?_, ?_⟩
  · rw [writes]
    exact agrees.one
  · rw [writes, flags, members]
    exact agrees.stages
  · intro quiet
    rw [flags, members]
    exact agrees.settled ((unnoticed_of_writes writes file flag).mp quiet)

theorem Agrees.update
    {file : Int}
    {flag : Flag}
    {desk : FlagDesk}
    (agrees : Agrees file flag desk)
    (message : DetailsMessage)
    (other : ∀ flag, message ≠ .flagPressed flag) :
    Agrees file flag (desk.update message) :=
  agrees.of_frame (desk.writes_update message other)
    (desk.update_frame message).1 (desk.update_frame message).2.1

theorem Agrees.press
    {file : Int}
    {flag : Flag}
    {desk : FlagDesk}
    (agrees : Agrees file flag desk)
    (which : Flag)
    (alone : ¬ desk.Overlaps file flag (.flagPressed which)) :
    Agrees file flag (desk.update (.flagPressed which)) := by
  have frame := desk.update_frame (.flagPressed which)
  have writes := desk.writes_flagPressed which
  cases press : desk.pressed which with
  | none =>
      rw [press] at writes
      exact agrees.of_frame writes frame.1 frame.2.1
  | some write =>
      rw [press] at writes
      have which_eq := flag_of_pressed press
      subst which_eq
      have fresh : PendingWrite.concerns ⟨write, .sent⟩ file flag = true →
          desk.Quiet file flag := quiet_of_pressed press alone
      refine ⟨?_, ?_, ?_⟩
      · rw [writes]
        exact countP_begin agrees.one fresh
      · rw [writes, frame.1, frame.2.1]
        intro pending member concerned
        rcases List.mem_append.mp member with earlier | new
        · exact agrees.stages pending earlier concerned
        · rw [List.mem_singleton.mp new] at concerned ⊢
          exact agrees.settled (fresh concerned)
      · intro quiet
        rw [frame.1, frame.2.1]
        apply agrees.settled
        intro pending member
        apply quiet pending
        rw [writes]
        exact List.mem_append_left _ member

/-- A write comes to another stage, and what is stored changes with it. -/
theorem Agrees.advance
    {file : Int}
    {flag : Flag}
    {desk : FlagDesk}
    (agrees : Agrees file flag desk)
    {index : Nat}
    {pending : PendingWrite}
    (found : desk.writes[index]? = some pending)
    (stage : WriteStage)
    (flags members : Marks)
    (concerned : pending.concerns file flag = true →
      { pending with stage := stage }.Matches (flags file flag)
        (members file flag))
    (other : pending.concerns file flag = false →
      flags file flag = desk.flags file flag ∧
        members file flag = desk.members file flag) :
    Agrees file flag
      { desk.advance index pending stage with
        flags := flags
        members := members } := by
  cases concerns : pending.concerns file flag with
  | true =>
      refine ⟨?_, ?_, ?_⟩
      · exact Nat.le_trans
          (Nat.le_of_eq (countP_advance found stage file flag)) agrees.one
      · intro write member about
        rcases mem_advance member with earlier | rfl
        · have elsewhere := quiet_eraseIdx agrees.one found concerns write
            earlier
          rw [elsewhere] at about
          cases about
        · exact concerned concerns
      · intro quiet
        have still := quiet _ (List.mem_append_right _
          (List.mem_singleton.mpr rfl))
        change pending.concerns file flag = false at still
        rw [concerns] at still
        cases still
  | false =>
      obtain ⟨sameFlag, sameMember⟩ := other concerns
      refine ⟨?_, ?_, ?_⟩
      · exact Nat.le_trans
          (Nat.le_of_eq (countP_advance found stage file flag)) agrees.one
      · intro write member about
        dsimp only
        rw [sameFlag, sameMember]
        rcases mem_advance member with earlier | rfl
        · exact agrees.stages write (List.mem_of_mem_eraseIdx earlier) about
        · change pending.concerns file flag = true at about
          rw [concerns] at about
          cases about
      · intro quiet
        dsimp only
        rw [sameFlag, sameMember]
        apply agrees.settled
        apply quiet_of_erased found concerns
        intro write member
        exact quiet write (List.mem_append_left _ member)

/-- A write ends. -/
theorem Agrees.settle
    {file : Int}
    {flag : Flag}
    {desk : FlagDesk}
    (agrees : Agrees file flag desk)
    {index : Nat}
    {pending : PendingWrite}
    (found : desk.writes[index]? = some pending)
    (result : Except String Bool)
    (concerned : pending.concerns file flag = true →
      desk.flags file flag = desk.members file flag) :
    Agrees file flag (desk.settle index pending.write result) := by
  have writes := desk.writes_settle index pending.write result
  have frame := update_frame
    { desk with writes := desk.writes.eraseIdx index }
    (.flagWritten pending.write.romId pending.write.flag
      pending.write.previous result)
  have flags : (desk.settle index pending.write result).flags = desk.flags :=
    frame.1
  have members :
      (desk.settle index pending.write result).members = desk.members :=
    frame.2.1
  refine ⟨?_, ?_, ?_⟩
  · rw [writes]
    exact Nat.le_trans (List.eraseIdx_sublist desk.writes index).countP_le
      agrees.one
  · rw [writes, flags, members]
    intro write member about
    exact agrees.stages write (List.mem_of_mem_eraseIdx member) about
  · intro quiet
    rw [flags, members]
    cases concerns : pending.concerns file flag with
    | true => exact concerned concerns
    | false =>
        apply agrees.settled
        apply quiet_of_erased found concerns
        intro write member
        apply quiet write
        rw [writes]
        exact member

/-- What another file or flag is about. -/
theorem PendingWrite.not_concerns
    {pending : PendingWrite}
    {file : Int}
    {flag : Flag}
    (elsewhere : pending.concerns file flag = false) :
    ¬ (file = pending.write.romId ∧ flag = pending.write.flag) := by
  rintro ⟨rfl, rfl⟩
  unfold PendingWrite.concerns at elsewhere
  simp at elsewhere

theorem Agrees.storeFlag
    {file : Int}
    {flag : Flag}
    {desk : FlagDesk}
    (agrees : Agrees file flag desk)
    (index : Nat) :
    Agrees file flag (desk.storeFlag index) := by
  unfold FlagDesk.storeFlag
  split
  case h_2 => exact agrees
  case h_1 write found =>
      refine agrees.advance found .flagStored _ desk.members ?_ ?_
      · intro concerned
        have parts := Bool.and_eq_true_iff.mp concerned
        have sameFile : write.romId = file := of_decide_eq_true parts.1
        have sameFlag : write.flag = flag := of_decide_eq_true parts.2
        subst sameFile sameFlag
        exact Marks.put_same _ _ _ _
      · intro elsewhere
        exact ⟨Marks.put_other _ _ (PendingWrite.not_concerns elsewhere), rfl⟩

theorem Agrees.storeMember
    {file : Int}
    {flag : Flag}
    {desk : FlagDesk}
    (agrees : Agrees file flag desk)
    (index : Nat) :
    Agrees file flag (desk.storeMember index) := by
  unfold FlagDesk.storeMember
  split
  case h_2 => exact agrees
  case h_1 write found =>
      refine agrees.advance found .memberStored desk.flags _ ?_ ?_
      · intro concerned
        have stored := agrees.stages _ (List.mem_of_getElem? found) concerned
        have parts := Bool.and_eq_true_iff.mp concerned
        have sameFile : write.romId = file := of_decide_eq_true parts.1
        have sameFlag : write.flag = flag := of_decide_eq_true parts.2
        subst sameFile sameFlag
        exact ⟨stored, Marks.put_same _ _ _ _⟩
      · intro elsewhere
        exact ⟨rfl, Marks.put_other _ _ (PendingWrite.not_concerns elsewhere)⟩

theorem Agrees.step
    {file : Int}
    {flag : Flag}
    {desk : FlagDesk}
    (agrees : Agrees file flag desk)
    (step : FlagStep)
    (alone : ¬ desk.Overlaps file flag step)
    (whole : ¬ desk.HalfWritten file flag step) :
    Agrees file flag (desk.step step) := by
  cases step with
  | openDetails romId title versions index =>
      exact agrees.of_frame rfl rfl rfl
  | switchPage page =>
      change Agrees file flag (if _ then _ else _)
      split
      case isTrue details => exact agrees
      case isFalse other => exact agrees.of_frame rfl rfl rfl
  | expirePageFade => exact agrees.of_frame rfl rfl rfl
  | backPressed => exact agrees.update _ fun _ => DetailsMessage.noConfusion
  | playPressed => exact agrees.update _ fun _ => DetailsMessage.noConfusion
  | screenshotSelected index =>
      exact agrees.update _ fun _ => DetailsMessage.noConfusion
  | flagPressed which => exact agrees.press which alone
  | discPickerPressed =>
      exact agrees.update _ fun _ => DetailsMessage.noConfusion
  | discSelected romId =>
      exact agrees.update _ fun _ => DetailsMessage.noConfusion
  | look index => exact agrees.of_frame rfl rfl rfl
  | readAnswered index hero screenshots =>
      change Agrees file flag (desk.answerRead index hero screenshots)
      unfold answerRead
      split
      case h_2 => exact agrees
      case h_1 romId info found =>
          have read : Agrees file flag
              { desk with reads := desk.reads.eraseIdx index } :=
            agrees.of_frame rfl rfl rfl
          exact read.update _ fun _ => DetailsMessage.noConfusion
  | readFailed index error =>
      change Agrees file flag (desk.failRead index error)
      unfold failRead
      split
      case h_2 => exact agrees
      case h_1 read found =>
          have failed : Agrees file flag
              { desk with reads := desk.reads.eraseIdx index } :=
            agrees.of_frame rfl rfl rfl
          exact failed.update _ fun _ => DetailsMessage.noConfusion
  | storeFlag index => exact agrees.storeFlag index
  | storeMember index => exact agrees.storeMember index
  | writeAnswered index =>
      change Agrees file flag (desk.answerWrite index)
      unfold answerWrite
      split
      case h_2 => exact agrees
      case h_1 write found =>
          apply agrees.settle found
          intro concerned
          have stored := agrees.stages _ (List.mem_of_getElem? found)
            concerned
          exact stored.1.trans stored.2.symm
  | writeFailed index error =>
      change Agrees file flag (desk.failWrite index error)
      unfold failWrite
      split
      case h_2 => exact agrees
      case h_1 pending found =>
          apply agrees.settle found
          intro concerned
          have stood := agrees.stages pending (List.mem_of_getElem? found)
            concerned
          have parts := Bool.and_eq_true_iff.mp concerned
          obtain ⟨write, stage⟩ := pending
          cases stage with
          | sent => exact stood
          | memberStored => exact stood.1.trans stood.2.symm
          | flagStored =>
              have stored : desk.flags file flag = write.value := stood
              rw [stored]
              by_contra differs
              exact whole ⟨write, found, of_decide_eq_true parts.1,
                of_decide_eq_true parts.2, fun same => differs same.symm⟩

/-- A press is one write of both.  For every file and flag: in every run in
which no press begins a write of them while one is on its way, and none ends
with the flag stored and the membership left as it was, the flag and the
membership agree whenever no write of them is on its way, if they agree at the
start. -/
theorem flag_matches_collection
    (flags members : Marks)
    (file : Int)
    (flag : Flag)
    (agree : flags file flag = members file flag)
    (steps : List FlagStep)
    (along : (machine flags members).Along
      (fun desk step => ¬ desk.Overlaps file flag step ∧
        ¬ desk.HalfWritten file flag step) steps) :
    let desk := (machine flags members).run steps
    (∀ pending ∈ desk.writes,
        ¬ (pending.write.romId = file ∧ pending.write.flag = flag)) →
      desk.flags file flag = desk.members file flag := by
  intro desk quiet
  have agrees : Agrees file flag desk := by
    apply (machine flags members).run_induction_along _ (Agrees file flag)
      _ _ steps along
    · refine ⟨Nat.zero_le 1, ?_, fun _ => agree⟩
      intro pending member
      cases member
    · intro desk step agrees kept
      exact agrees.step step kept.1 kept.2
  apply agrees.settled
  intro pending member
  have other := quiet pending member
  apply Bool.eq_false_iff.mpr
  intro concerned
  have parts := Bool.and_eq_true_iff.mp concerned
  exact other ⟨of_decide_eq_true parts.1, of_decide_eq_true parts.2⟩

/-- Nothing is flagged, and no file is in a collection. -/
def blank : Machine FlagDesk FlagStep Unit :=
  machine (fun _ _ => false) (fun _ _ => false)

/-- A file is opened and flagged, and both requests are carried out. -/
def favored : List FlagStep :=
  [.openDetails 1 "Chess" [] 0,
    .flagPressed .favorite,
    .storeFlag 0,
    .storeMember 0,
    .writeAnswered 0]

theorem flag_matches_collection_favored :
    blank.Along
        (fun desk step => ¬ desk.Overlaps 1 .favorite step ∧
          ¬ desk.HalfWritten 1 .favorite step) favored ∧
      let desk := blank.run favored
      (∀ pending ∈ desk.writes,
          ¬ (pending.write.romId = 1 ∧ pending.write.flag = .favorite)) →
        desk.flags 1 .favorite = desk.members 1 .favorite := by
  have along : blank.Along
      (fun desk step => ¬ desk.Overlaps 1 .favorite step ∧
        ¬ desk.HalfWritten 1 .favorite step) favored := by
    apply Machine.along_of_alongFrom
    refine ⟨⟨id, id⟩, ⟨?_, id⟩, ⟨id, id⟩, ⟨id, id⟩, ⟨id, id⟩, trivial⟩
    rintro ⟨-, -, busy⟩
    apply busy
    intro pending member
    cases member
  exact ⟨along, flag_matches_collection _ _ 1 .favorite rfl _ along⟩

/-- The file is flagged; the screen is left and opened again before the write
is answered, and the flag, read as set, is cleared.  No request fails, but the
second write overtakes the first. -/
def overtaken : List FlagStep :=
  [.openDetails 1 "Chess" [] 0,
    .flagPressed .favorite,
    .storeFlag 0,
    .backPressed,
    .expirePageFade,
    .openDetails 1 "Chess" [] 0,
    .look 1,
    .readAnswered 1 none [],
    .flagPressed .favorite,
    .storeFlag 1,
    .storeMember 1,
    .writeAnswered 1,
    .storeMember 0,
    .writeAnswered 0]

/-- The flag and its collection differ with no write on its way: after the
write that was overtaken, and after a write whose second request failed. -/
theorem flag_differs_from_collection :
    ((blank.run overtaken).writes = [] ∧
        (blank.run overtaken).flags 1 .favorite = false ∧
        (blank.run overtaken).members 1 .favorite = true) ∧
      let failed := blank.run
        [.openDetails 1 "Chess" [] 0,
          .flagPressed .favorite,
          .storeFlag 0,
          .writeFailed 0 "refused"]
      failed.writes = [] ∧
        failed.flags 1 .favorite = true ∧
        failed.members 1 .favorite = false := by
  refine ⟨⟨?_, ?_, ?_⟩, ?_, ?_, ?_⟩
  all_goals rfl

end FlagDesk
end Frontend
end Hearthdeck
