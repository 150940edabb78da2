import Hearthdeck.Frontend.FlagWrites

/-!
# The buttons of the details screen

The screen shows a flag as soon as it is pressed or read.  What it shows is
what RomM stores, unless a write of the shown file is still on its way.
-/

namespace Hearthdeck
namespace Frontend

open Foundation

/-- The flag a read found. -/
def RetroGameDetails.flag (info : RetroGameDetails) : Flag → Bool
  | .favorite => info.favorite
  | .backlog => info.backlogged

/-- How RomM's flag stands to a write on its way: until RomM stores it, the
flag is what the screen knew at the press, if it knew it. -/
def PendingWrite.Knows (pending : PendingWrite) (flag : Bool) : Prop :=
  match pending.stage with
  | .sent =>
      pending.write.previous = none ∨ pending.write.previous = some flag
  | .flagStored => flag = pending.write.value
  | .memberStored => flag = pending.write.value

namespace FlagDesk

/-- The file an answer is about. -/
def answered (desk : FlagDesk) : FlagStep → Option Int
  | .readAnswered index _ _ => (desk.reads[index]?).map Flight.request
  | .readFailed index _ => (desk.reads[index]?).map Flight.request
  | .writeAnswered index =>
      (desk.writes[index]?).map fun pending => pending.write.romId
  | .writeFailed index _ =>
      (desk.writes[index]?).map fun pending => pending.write.romId
  | _ => none

/-- Whether the screen shows a file. -/
def Shows (desk : FlagDesk) (file : Int) : Prop :=
  ∃ details, desk.screen.details = some details ∧ details.romId = file

/-- A read of the shown file is answered that found a flag RomM has changed
since, and no write of the flag is on its way. -/
def StaleRead (desk : FlagDesk) : FlagStep → Prop
  | .readAnswered index _ _ =>
      desk.screen.page = .details ∧
        ∃ file info, desk.reads[index]? = some ⟨file, some info⟩ ∧
          desk.Shows file ∧
          ∃ flag, desk.Quiet file flag ∧ info.flag flag ≠ desk.flags file flag
  | _ => False

/-- A write of the shown file fails after RomM stored its flag, and the screen
goes back to a flag it knew. -/
def LateFailure (desk : FlagDesk) : FlagStep → Prop
  | .writeFailed index _ =>
      ∃ pending, desk.writes[index]? = some pending ∧
        pending.stage ≠ .sent ∧ pending.write.previous ≠ none ∧
        desk.Shows pending.write.romId
  | _ => False

/-- The details after a step show the flags of the same file as before, or
none. -/
def Kept (before after : Option Details) : Prop :=
  ∀ next, after = some next →
    (∃ details, before = some details ∧ next.romId = details.romId ∧
      ∀ flag, next.flagState flag = details.flagState flag) ∨
    ∀ flag, next.flagState flag = none

theorem Kept.refl (details : Option Details) : Kept details details := by
  intro next shown
  exact Or.inl ⟨next, shown, rfl, fun _ => rfl⟩

/-- The messages that neither press a flag nor bring an answer. -/
theorem kept_update_quiet
    (desk : FlagDesk)
    (message : DetailsMessage)
    (quiet : message.settles = false) :
    Kept desk.screen.details (desk.update message).screen.details := by
  rw [(desk.update_frame message).2.2]
  cases shown : desk.screen.details with
  | none =>
      rw [DetailsScreen.updateDetails_none shown, shown]
      exact Kept.refl none
  | some details =>
      have loaded : ∀ romId result, message ≠ .loaded romId result := by
        rintro romId result rfl
        cases quiet
      rw [(DetailsScreen.updateDetails_some shown message
        (Or.inr loaded)).1]
      intro next updated
      cases updated
      rcases details.update_quiet message quiet with
        ⟨same, flags⟩ | unknown
      · exact Or.inl ⟨details, rfl, same, flags⟩
      · exact Or.inr unknown

/-- What the screen shows is what RomM stores, but for the writes on their
way, of which there is one for each file and flag at most. -/
structure Faithful (desk : FlagDesk) : Prop where
  one : ∀ file flag, desk.writes.countP (·.concerns file flag) ≤ 1
  stages : ∀ pending ∈ desk.writes,
    pending.Knows (desk.flags pending.write.romId pending.write.flag)
  shown : ∀ details, desk.screen.details = some details → ∀ flag,
    desk.Quiet details.romId flag →
      details.flagState flag = none ∨
        details.flagState flag = some (desk.flags details.romId flag)

theorem Faithful.of_kept
    {desk next : FlagDesk}
    (faithful : desk.Faithful)
    (writes : next.writes = desk.writes)
    (flags : next.flags = desk.flags)
    (kept : Kept desk.screen.details next.screen.details) :
    next.Faithful := by
  refine ⟨?_, ?_, ?_⟩
  · rw [writes]
    exact faithful.one
  · rw [writes, flags]
    exact faithful.stages
  · intro after shown flag quiet
    rcases kept after shown with ⟨details, before, same, state⟩ | unknown
    · rw [state flag, flags, same]
      rw [same] at quiet
      exact faithful.shown details before flag
        ((unnoticed_of_writes writes details.romId flag).mp quiet)
    · exact Or.inl (unknown flag)

theorem Faithful.update_quiet
    {desk : FlagDesk}
    (faithful : desk.Faithful)
    (message : DetailsMessage)
    (quiet : message.settles = false) :
    (desk.update message).Faithful := by
  have unpressed : ∀ flag, message ≠ .flagPressed flag := by
    rintro flag rfl
    cases quiet
  exact faithful.of_kept (desk.writes_update message unpressed)
    (desk.update_frame message).1 (desk.kept_update_quiet message quiet)

theorem Faithful.press
    {desk : FlagDesk}
    (faithful : desk.Faithful)
    (flag : Flag)
    (alone : ∀ file which, ¬ desk.Overlaps file which (.flagPressed flag)) :
    (desk.update (.flagPressed flag)).Faithful := by
  have frame := desk.update_frame (.flagPressed flag)
  have writes := desk.writes_flagPressed flag
  cases press : desk.pressed flag with
  | none =>
      rw [press] at writes
      refine faithful.of_kept writes frame.1 ?_
      rw [frame.2.2]
      cases shown : desk.screen.details with
      | none =>
          rw [DetailsScreen.updateDetails_none shown, shown]
          exact Kept.refl none
      | some details =>
          rw [(DetailsScreen.updateDetails_some shown (.flagPressed flag)
            (Or.inr fun _ _ => DetailsMessage.noConfusion)).1,
            (details.update_flagPressed flag).1]
          unfold pressed at press
          rw [shown, Option.bind_some] at press
          rw [Details.toggleFlag_none press]
          exact Kept.refl (some details)
  | some write =>
      rw [press] at writes
      have which_eq := flag_of_pressed press
      subst which_eq
      have fresh : ∀ file flag,
          PendingWrite.concerns ⟨write, .sent⟩ file flag = true →
            desk.Quiet file flag := by
        intro file flag concerned
        exact quiet_of_pressed press (alone file flag) concerned
      obtain ⟨details, shown, toggled⟩ := Option.bind_eq_some_iff.mp press
      obtain ⟨sameFile, -, remembered, kept, others⟩ :=
        Details.toggleFlag_some toggled
      have about : PendingWrite.concerns ⟨write, .sent⟩ details.romId
          write.flag = true := by
        unfold PendingWrite.concerns
        rw [sameFile]
        simp
      refine ⟨?_, ?_, ?_⟩
      · intro file flag
        rw [writes]
        exact countP_begin (faithful.one file flag) (fresh file flag)
      · rw [writes, frame.1]
        intro pending member
        rcases List.mem_append.mp member with earlier | new
        · exact faithful.stages pending earlier
        · rw [List.mem_singleton.mp new]
          change write.previous = none ∨ write.previous = some _
          rw [remembered, sameFile]
          exact faithful.shown details shown write.flag
            (fresh details.romId write.flag about)
      · intro after updated which quiet
        rw [frame.2.2, (DetailsScreen.updateDetails_some shown
          (.flagPressed write.flag)
          (Or.inr fun _ _ => DetailsMessage.noConfusion)).1,
          (details.update_flagPressed write.flag).1] at updated
        cases updated
        rw [kept] at quiet ⊢
        rw [frame.1]
        have different : which ≠ write.flag := by
          rintro rfl
          have still := quiet ⟨write, .sent⟩ (by
            rw [writes]
            exact List.mem_append_right _ (List.mem_singleton.mpr rfl))
          rw [about] at still
          cases still
        rw [others which different]
        apply faithful.shown details shown which
        intro pending member
        apply quiet pending
        rw [writes]
        exact List.mem_append_left _ member

/-- A write comes to another stage, and RomM's flags change with it. -/
theorem Faithful.advance
    {desk : FlagDesk}
    (faithful : desk.Faithful)
    {index : Nat}
    {pending : PendingWrite}
    (found : desk.writes[index]? = some pending)
    (stage : WriteStage)
    (flags members : Marks)
    (known : { pending with stage := stage }.Knows
      (flags pending.write.romId pending.write.flag))
    (others : ∀ file flag, pending.concerns file flag = false →
      flags file flag = desk.flags file flag) :
    { desk.advance index pending stage with
      flags := flags
      members := members }.Faithful := by
  have itself : pending.concerns pending.write.romId pending.write.flag =
      true := by
    unfold PendingWrite.concerns
    simp
  refine ⟨?_, ?_, ?_⟩
  · intro file flag
    exact Nat.le_trans (Nat.le_of_eq (countP_advance found stage file flag))
      (faithful.one file flag)
  · intro write member
    rcases mem_advance member with earlier | rfl
    · -- The other writes are of another file or flag.
      have different : pending.concerns write.write.romId write.write.flag =
          false := by
        cases concerns : pending.concerns write.write.romId
            write.write.flag with
        | false => rfl
        | true =>
            have elsewhere := quiet_eraseIdx (faithful.one _ _) found concerns
              write earlier
            unfold PendingWrite.concerns at elsewhere
            simp at elsewhere
      dsimp only
      rw [others _ _ different]
      exact faithful.stages write (List.mem_of_mem_eraseIdx earlier)
    · exact known
  · intro details shown flag quiet
    have elsewhere : pending.concerns details.romId flag = false :=
      quiet { pending with stage := stage }
        (List.mem_append_right _ (List.mem_singleton.mpr rfl))
    dsimp only
    rw [others _ _ elsewhere]
    apply faithful.shown details shown flag
    apply quiet_of_erased found elsewhere
    intro other member
    exact quiet other (List.mem_append_left _ member)

theorem Faithful.storeFlag
    {desk : FlagDesk}
    (faithful : desk.Faithful)
    (index : Nat) :
    (desk.storeFlag index).Faithful := by
  unfold FlagDesk.storeFlag
  split
  case h_2 => exact faithful
  case h_1 write found =>
      refine faithful.advance found .flagStored _ desk.members ?_ ?_
      · exact Marks.put_same _ _ _ _
      · intro file flag elsewhere
        exact Marks.put_other _ _ (PendingWrite.not_concerns elsewhere)

theorem Faithful.storeMember
    {desk : FlagDesk}
    (faithful : desk.Faithful)
    (index : Nat) :
    (desk.storeMember index).Faithful := by
  unfold FlagDesk.storeMember
  split
  case h_2 => exact faithful
  case h_1 write found =>
      refine faithful.advance found .memberStored desk.flags _ ?_ ?_
      · exact faithful.stages ⟨write, .flagStored⟩
          (List.mem_of_getElem? found)
      · intro file flag elsewhere
        rfl

/-- A write ends: the flag it leaves on the screen of its file is unknown or
RomM's. -/
theorem Faithful.settle
    {desk : FlagDesk}
    (faithful : desk.Faithful)
    {index : Nat}
    {pending : PendingWrite}
    (found : desk.writes[index]? = some pending)
    (result : Except String Bool)
    (left : desk.Shows pending.write.romId →
      Details.settledState pending.write.previous result = none ∨
        Details.settledState pending.write.previous result =
          some (desk.flags pending.write.romId pending.write.flag)) :
    (desk.settle index pending.write result).Faithful := by
  have writes := desk.writes_settle index pending.write result
  have frame := update_frame
    { desk with writes := desk.writes.eraseIdx index }
    (.flagWritten pending.write.romId pending.write.flag
      pending.write.previous result)
  have flags : (desk.settle index pending.write result).flags = desk.flags :=
    frame.1
  have screen : (desk.settle index pending.write result).screen = _ :=
    frame.2.2
  refine ⟨?_, ?_, ?_⟩
  · intro file flag
    rw [writes]
    exact Nat.le_trans (List.eraseIdx_sublist desk.writes index).countP_le
      (faithful.one file flag)
  · rw [writes, flags]
    intro write member
    exact faithful.stages write (List.mem_of_mem_eraseIdx member)
  · intro after shown flag quiet
    rw [flags]
    rw [screen] at shown
    have erased : ∀ other ∈ desk.writes.eraseIdx index,
        other.concerns after.romId flag = false := by
      intro other member
      apply quiet other
      rw [writes]
      exact member
    cases before : desk.screen.details with
    | none =>
        rw [DetailsScreen.updateDetails_none before, before] at shown
        cases shown
    | some details =>
        rw [(DetailsScreen.updateDetails_some before _
          (Or.inr fun _ _ => DetailsMessage.noConfusion)).1,
          Details.update_flagWritten] at shown
        cases shown
        by_cases same : details.romId = pending.write.romId
        · have settled := details.settleFlag_same pending.write.flag
            pending.write.previous result
          rw [same] at settled
          rw [settled.1] at erased ⊢
          rw [settled.2]
          split
          case isTrue sameFlag =>
              rw [sameFlag]
              exact left ⟨details, before, same⟩
          case isFalse otherFlag =>
              rw [← same] at erased ⊢
              apply faithful.shown details before flag
              apply quiet_of_erased found _ erased
              unfold PendingWrite.concerns
              rw [decide_eq_false (p := pending.write.flag = flag)
                (fun equal => otherFlag equal.symm), Bool.and_false]
        · have settled := details.settleFlag_other same pending.write.flag
            pending.write.previous result
          rw [settled.1] at erased ⊢
          rw [settled.2]
          apply faithful.shown details before flag
          apply quiet_of_erased found _ erased
          unfold PendingWrite.concerns
          rw [decide_eq_false (p := pending.write.romId = details.romId)
            (fun equal => same equal.symm), Bool.false_and]

/-- A read that fails, or of a file that is not shown, changes no flag. -/
theorem kept_update_loaded
    (desk : FlagDesk)
    (romId : Int)
    (result : Except String RetroDetails)
    (silent : ¬ desk.Shows romId ∨ ∃ error, result = .error error) :
    Kept desk.screen.details
      (desk.update (.loaded romId result)).screen.details := by
  rw [(desk.update_frame _).2.2]
  cases shown : desk.screen.details with
  | none =>
      rw [DetailsScreen.updateDetails_none shown, shown]
      exact Kept.refl none
  | some details =>
      by_cases onPage : desk.screen.page = .details
      · rw [(DetailsScreen.updateDetails_some shown _ (Or.inl onPage)).1]
        have unknown := details.load_unknown romId result (by
          rcases silent with other | failed
          · exact Or.inl fun same => other ⟨details, shown, same⟩
          · exact Or.inr failed)
        intro next updated
        cases updated
        exact Or.inl ⟨details, rfl, unknown.1, unknown.2⟩
      · rw [DetailsScreen.updateDetails_late onPage, shown]
        exact Kept.refl (some details)

theorem Faithful.answerRead
    {desk : FlagDesk}
    (faithful : desk.Faithful)
    (index : Nat)
    (hero : Option String)
    (screenshots : List String)
    (fresh : ¬ desk.StaleRead (.readAnswered index hero screenshots)) :
    (desk.answerRead index hero screenshots).Faithful := by
  unfold FlagDesk.answerRead
  split
  case h_2 => exact faithful
  case h_1 file info found =>
      have read : { desk with
          reads := desk.reads.eraseIdx index }.Faithful :=
        faithful.of_kept rfl rfl (Kept.refl _)
      have writes := writes_update
        { desk with reads := desk.reads.eraseIdx index }
        (.loaded file (.ok ⟨info, hero, screenshots⟩))
        fun _ => DetailsMessage.noConfusion
      have frame := update_frame
        { desk with reads := desk.reads.eraseIdx index }
        (.loaded file (.ok ⟨info, hero, screenshots⟩))
      by_cases shows : desk.screen.page = .details ∧ desk.Shows file
      · obtain ⟨onPage, details, shown, same⟩ := shows
        subst same
        refine ⟨?_, ?_, ?_⟩
        · rw [writes]
          exact faithful.one
        · rw [writes, frame.1]
          exact faithful.stages
        · intro after updated flag quiet
          rw [frame.1]
          rw [frame.2.2, (DetailsScreen.updateDetails_some shown _
            (Or.inl onPage)).1] at updated
          cases updated
          have loaded := details.load_ok ⟨info, hero, screenshots⟩
          have state : (details.load details.romId
              (.ok ⟨info, hero, screenshots⟩)).flagState flag =
                some (info.flag flag) := by
            cases flag with
            | favorite => exact loaded.2.1
            | backlog => exact loaded.2.2
          have still := (unnoticed_of_writes writes _ flag).mp quiet
          change { desk with reads := desk.reads.eraseIdx index }.Quiet
            (details.load details.romId _).romId flag at still
          rw [loaded.1] at still
          change (details.load details.romId _).flagState flag = none ∨
            (details.load details.romId _).flagState flag =
              some (desk.flags (details.load details.romId _).romId flag)
          rw [state, loaded.1]
          refine Or.inr (congrArg some ?_)
          by_contra stale
          exact fresh ⟨onPage, details.romId, info, found,
            ⟨details, shown, rfl⟩, flag, still, stale⟩
      · refine read.of_kept writes frame.1 ?_
        by_cases onPage : desk.screen.page = .details
        · exact kept_update_loaded _ file _
            (Or.inl fun shown => shows ⟨onPage, shown⟩)
        · rw [frame.2.2, DetailsScreen.updateDetails_late onPage]
          exact Kept.refl _

theorem Faithful.failRead
    {desk : FlagDesk}
    (faithful : desk.Faithful)
    (index : Nat)
    (error : String) :
    (desk.failRead index error).Faithful := by
  unfold FlagDesk.failRead
  split
  case h_2 => exact faithful
  case h_1 read found =>
      have failed : { desk with
          reads := desk.reads.eraseIdx index }.Faithful :=
        faithful.of_kept rfl rfl (Kept.refl _)
      exact failed.of_kept
        (writes_update _ _ fun _ => DetailsMessage.noConfusion)
        (update_frame _ _).1
        (kept_update_loaded _ read.request _ (Or.inr ⟨error, rfl⟩))

theorem Faithful.step
    {desk : FlagDesk}
    (faithful : desk.Faithful)
    (step : FlagStep)
    (alone : ∀ file flag, ¬ desk.Overlaps file flag step)
    (fresh : ¬ desk.StaleRead step)
    (early : ¬ desk.LateFailure step) :
    (desk.step step).Faithful := by
  cases step with
  | openDetails romId title versions index =>
      refine faithful.of_kept rfl rfl ?_
      change Kept _ (DetailsScreen.switchPage _ _).details
      rw [DetailsScreen.details_switchPage]
      intro next opened
      cases opened
      refine Or.inr ?_
      intro flag
      cases flag with
      | favorite => rfl
      | backlog => rfl
  | switchPage page =>
      change FlagDesk.Faithful (if _ then _ else _)
      split
      case isTrue details => exact faithful
      case isFalse other =>
          refine faithful.of_kept rfl rfl ?_
          change Kept _ (desk.screen.switchPage page).details
          rw [DetailsScreen.details_switchPage]
          exact Kept.refl _
  | expirePageFade =>
      refine faithful.of_kept rfl rfl ?_
      change Kept _ desk.screen.expirePageFade.details
      unfold DetailsScreen.expirePageFade
      split
      case isFalse still => exact Kept.refl _
      case isTrue fading =>
          dsimp only
          split
          case isTrue elsewhere =>
              intro next gone
              cases gone
          case isFalse onPage => exact Kept.refl _
  | backPressed => exact faithful.update_quiet _ rfl
  | playPressed => exact faithful.update_quiet _ rfl
  | screenshotSelected index => exact faithful.update_quiet _ rfl
  | flagPressed flag => exact faithful.press flag alone
  | discPickerPressed => exact faithful.update_quiet _ rfl
  | discSelected romId => exact faithful.update_quiet _ rfl
  | look index => exact faithful.of_kept rfl rfl (Kept.refl _)
  | readAnswered index hero screenshots =>
      exact faithful.answerRead index hero screenshots fresh
  | readFailed index error => exact faithful.failRead index error
  | storeFlag index => exact faithful.storeFlag index
  | storeMember index => exact faithful.storeMember index
  | writeAnswered index =>
      change (desk.answerWrite index).Faithful
      unfold FlagDesk.answerWrite
      split
      case h_2 => exact faithful
      case h_1 write found =>
          apply faithful.settle found
          intro shows
          have stored : desk.flags write.romId write.flag = write.value :=
            faithful.stages ⟨write, .memberStored⟩
              (List.mem_of_getElem? found)
          exact Or.inr (congrArg some stored.symm)
  | writeFailed index error =>
      change (desk.failWrite index error).Faithful
      unfold FlagDesk.failWrite
      split
      case h_2 => exact faithful
      case h_1 pending found =>
          apply faithful.settle found
          intro shows
          change pending.write.previous = none ∨ pending.write.previous = _
          by_cases unstored : pending.stage = .sent
          · have knows := faithful.stages pending (List.mem_of_getElem? found)
            unfold PendingWrite.Knows at knows
            rw [unstored] at knows
            exact knows
          · refine Or.inl ?_
            by_contra known
            exact early ⟨pending, found, unstored, known, shows⟩

/-! ## Answers for other files -/

theorem update_loaded_other
    {desk : FlagDesk}
    {details : Details}
    (shown : desk.screen.details = some details)
    {file : Int}
    (other : details.romId ≠ file)
    (result : Except String RetroDetails) :
    ∃ after, (desk.update (.loaded file result)).screen.details =
        some after ∧
      ∀ flag, after.flagState flag = details.flagState flag := by
  rw [(desk.update_frame _).2.2]
  by_cases onPage : desk.screen.page = .details
  · rw [(DetailsScreen.updateDetails_some shown _ (Or.inl onPage)).1]
    exact ⟨_, rfl, (details.load_unknown file result (Or.inl other)).2⟩
  · rw [DetailsScreen.updateDetails_late onPage, shown]
    exact ⟨details, rfl, fun _ => rfl⟩

theorem update_flagWritten_other
    {desk : FlagDesk}
    {details : Details}
    (shown : desk.screen.details = some details)
    {file : Int}
    (other : details.romId ≠ file)
    (flag : Flag)
    (previous : Option Bool)
    (result : Except String Bool) :
    ∃ after, (desk.update (.flagWritten file flag previous
        result)).screen.details = some after ∧
      ∀ flag, after.flagState flag = details.flagState flag := by
  rw [(desk.update_frame _).2.2, (DetailsScreen.updateDetails_some shown _
    (Or.inr fun _ _ => DetailsMessage.noConfusion)).1,
    Details.update_flagWritten]
  exact ⟨_, rfl, (details.settleFlag_other other flag previous result).2⟩

/-- The answer for another file leaves the flags that are shown alone. -/
theorem flagState_step_of_answered
    {desk : FlagDesk}
    {step : FlagStep}
    {file : Int}
    (answers : desk.answered step = some file)
    {details : Details}
    (shown : desk.screen.details = some details)
    (other : details.romId ≠ file) :
    ∃ after, (desk.step step).screen.details = some after ∧
      ∀ flag, after.flagState flag = details.flagState flag := by
  cases step with
  | readAnswered index hero screenshots =>
      change ∃ after, (desk.answerRead index hero
        screenshots).screen.details = some after ∧ _
      obtain ⟨read, found, rfl⟩ := Option.map_eq_some_iff.mp answers
      unfold answerRead
      split
      case h_2 => exact ⟨details, shown, fun _ => rfl⟩
      case h_1 romId info taken =>
          rw [found] at taken
          cases taken
          exact update_loaded_other (by exact shown) other _
  | readFailed index error =>
      change ∃ after, (desk.failRead index error).screen.details =
        some after ∧ _
      obtain ⟨read, found, rfl⟩ := Option.map_eq_some_iff.mp answers
      unfold failRead
      rw [found]
      exact update_loaded_other (by exact shown) other _
  | writeAnswered index =>
      change ∃ after, (desk.answerWrite index).screen.details =
        some after ∧ _
      obtain ⟨pending, found, rfl⟩ := Option.map_eq_some_iff.mp answers
      unfold answerWrite
      split
      case h_2 => exact ⟨details, shown, fun _ => rfl⟩
      case h_1 write taken =>
          rw [found] at taken
          cases taken
          exact update_flagWritten_other (by exact shown) other _ _ _
  | writeFailed index error =>
      change ∃ after, (desk.failWrite index error).screen.details =
        some after ∧ _
      obtain ⟨pending, found, rfl⟩ := Option.map_eq_some_iff.mp answers
      unfold failWrite
      rw [found]
      exact update_flagWritten_other (by exact shown) other _ _ _
  | openDetails romId title versions index => cases answers
  | switchPage page => cases answers
  | expirePageFade => cases answers
  | backPressed => cases answers
  | playPressed => cases answers
  | screenshotSelected index => cases answers
  | flagPressed flag => cases answers
  | discPickerPressed => cases answers
  | discSelected romId => cases answers
  | look index => cases answers
  | storeFlag index => cases answers
  | storeMember index => cases answers

/-- The buttons show what RomM stores.  In every run in which no read of the
shown file is answered with a flag that RomM changed since while no write of it
is on its way, no write of the shown file fails after its flag was stored and
another one was known, and no press begins a write while one of the same file
and flag is on its way:  answers for other files change no flag that is shown,
and a shown flag is RomM's unless a write of it is on its way. -/
theorem buttons_show_what_romm_stores
    (flags members : Marks)
    (steps : List FlagStep)
    (along : (machine flags members).Along
      (fun desk step => (∀ file flag, ¬ desk.Overlaps file flag step) ∧
        ¬ desk.StaleRead step ∧ ¬ desk.LateFailure step) steps) :
    let desk := (machine flags members).run steps
    (∀ step file details, desk.answered step = some file →
        desk.screen.details = some details → details.romId ≠ file →
        ∃ after, (desk.step step).screen.details = some after ∧
          after.favorite = details.favorite ∧
          after.backlogged = details.backlogged) ∧
      ∀ details flag value, desk.screen.details = some details →
        (∀ pending ∈ desk.writes, ¬ (pending.write.romId = details.romId ∧
          pending.write.flag = flag)) →
        details.flagState flag = some value →
        desk.flags details.romId flag = value := by
  intro desk
  have faithful : desk.Faithful := by
    apply (machine flags members).run_induction_along _ Faithful _ _ steps
      along
    · refine ⟨fun _ _ => Nat.zero_le 1, ?_, ?_⟩
      · intro pending member
        cases member
      · intro details shown
        cases shown
    · intro desk step faithful kept
      exact faithful.step step kept.1 kept.2.1 kept.2.2
  constructor
  · intro step file details answers shown other
    obtain ⟨after, updated, same⟩ :=
      flagState_step_of_answered answers shown other
    exact ⟨after, updated, same .favorite, same .backlog⟩
  · intro details flag value shown quiet state
    have still : desk.Quiet details.romId flag := by
      intro pending member
      apply Bool.eq_false_iff.mpr
      intro concerned
      have parts := Bool.and_eq_true_iff.mp concerned
      exact quiet pending member
        ⟨of_decide_eq_true parts.1, of_decide_eq_true parts.2⟩
    rcases faithful.shown details shown flag still with unknown | known
    · rw [state] at unknown
      cases unknown
    · rw [state] at known
      exact (Option.some.inj known).symm

/-- A file is opened, read and flagged, and the write succeeds. -/
def readThenFavored : List FlagStep :=
  [.openDetails 1 "Chess" [] 0,
    .look 0,
    .readAnswered 0 none [],
    .flagPressed .favorite,
    .storeFlag 0,
    .storeMember 0,
    .writeAnswered 0]

theorem buttons_show_what_romm_stores_favored :
    blank.Along
        (fun desk step => (∀ file flag, ¬ desk.Overlaps file flag step) ∧
          ¬ desk.StaleRead step ∧ ¬ desk.LateFailure step) readThenFavored ∧
      ∀ details flag value,
        (blank.run readThenFavored).screen.details = some details →
        (∀ pending ∈ (blank.run readThenFavored).writes,
          ¬ (pending.write.romId = details.romId ∧
            pending.write.flag = flag)) →
        details.flagState flag = some value →
        (blank.run readThenFavored).flags details.romId flag = value := by
  have along : blank.Along
      (fun desk step => (∀ file flag, ¬ desk.Overlaps file flag step) ∧
        ¬ desk.StaleRead step ∧ ¬ desk.LateFailure step)
      readThenFavored := by
    apply Machine.along_of_alongFrom
    refine ⟨⟨fun _ _ => id, id, id⟩, ⟨fun _ _ => id, id, id⟩,
      ⟨fun _ _ => id, ?_, id⟩, ⟨?_, id, id⟩, ⟨fun _ _ => id, id, id⟩,
      ⟨fun _ _ => id, id, id⟩, ⟨fun _ _ => id, id, id⟩, trivial⟩
    · rintro ⟨-, file, info, found, -, flag, -, stale⟩
      cases found
      cases flag with
      | favorite => exact stale rfl
      | backlog => exact stale rfl
    · rintro file flag ⟨-, -, busy⟩
      apply busy
      intro pending member
      cases member
  exact ⟨along, (buttons_show_what_romm_stores _ _ _ along).2⟩

/-- A file is opened and its flags are read; before the answer arrives the
file is flagged and the write succeeds. -/
def readBeforeFavored : List FlagStep :=
  [.openDetails 1 "Chess" [] 0,
    .look 0,
    .flagPressed .favorite,
    .storeFlag 0,
    .storeMember 0,
    .writeAnswered 0,
    .readAnswered 0 none []]

/-- The file is read, then flagged, and the write fails once RomM has stored
the flag. -/
def failedAfterStored : List FlagStep :=
  [.openDetails 1 "Chess" [] 0,
    .look 0,
    .readAnswered 0 none [],
    .flagPressed .favorite,
    .storeFlag 0,
    .writeFailed 0 "refused"]

/-- With nothing on its way, the button shows a flag as cleared that RomM has
set. -/
theorem button_shows_another_flag :
    ((blank.run readBeforeFavored).reads = [] ∧
        (blank.run readBeforeFavored).writes = [] ∧
        (blank.run readBeforeFavored).screen.details.bind Details.favorite =
          some false ∧
        (blank.run readBeforeFavored).flags 1 .favorite = true) ∧
      (blank.run failedAfterStored).reads = [] ∧
      (blank.run failedAfterStored).writes = [] ∧
      (blank.run failedAfterStored).screen.details.bind Details.favorite =
        some false ∧
      (blank.run failedAfterStored).flags 1 .favorite = true := by
  refine ⟨⟨?_, ?_, ?_, ?_⟩, ?_, ?_, ?_, ?_⟩
  all_goals rfl

end FlagDesk
end Frontend
end Hearthdeck
