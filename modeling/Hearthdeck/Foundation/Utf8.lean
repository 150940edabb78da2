import Hearthdeck.Foundation.UnixPaths

/-!
# UTF-8

Bytes are UTF-8 when they are sequences of characters, one after another.
What is not is shown with a replacement character for every longest beginning
of a sequence that goes no further.
-/

namespace Hearthdeck
namespace Foundation
namespace Utf8

/-- What a first byte asks for: the least and the greatest second byte, and
how many bytes follow that one. -/
def following (first : UInt8) : Option (UInt8 × UInt8 × Nat) :=
  if 0xC2 ≤ first ∧ first ≤ 0xDF then some (0x80, 0xBF, 0)
  else if first = 0xE0 then some (0xA0, 0xBF, 1)
  else if 0xE1 ≤ first ∧ first ≤ 0xEC then some (0x80, 0xBF, 1)
  else if first = 0xED then some (0x80, 0x9F, 1)
  else if 0xEE ≤ first ∧ first ≤ 0xEF then some (0x80, 0xBF, 1)
  else if first = 0xF0 then some (0x90, 0xBF, 2)
  else if 0xF1 ≤ first ∧ first ≤ 0xF3 then some (0x80, 0xBF, 2)
  else if first = 0xF4 then some (0x80, 0x8F, 2)
  else none

/-- A sequence that has begun, and what it still asks for. -/
structure Begun where
  read : Bytes
  least : UInt8
  greatest : UInt8
  /-- How many bytes follow the next one. -/
  more : Nat

namespace Begun

/-- The next byte goes on the sequence. -/
def fits (begun : Begun) (byte : UInt8) : Bool :=
  decide (begun.least ≤ byte ∧ byte ≤ begun.greatest)

/-- The sequence with one more byte, of several that it asks for. -/
def push (begun : Begun) (byte : UInt8) : Begun where
  read := begun.read ++ [byte]
  least := 0x80
  greatest := 0xBF
  more := begun.more - 1

/-- The bytes complete the sequence. -/
def Completes (begun : Begun) : Bytes → Prop
  | [] => False
  | byte :: tails =>
      begun.fits byte = true ∧ tails.length = begun.more ∧
        ∀ tail ∈ tails, 0x80 ≤ tail ∧ tail ≤ 0xBF

end Begun

/-- U+FFFD. -/
def replacement : Bytes := [0xEF, 0xBF, 0xBD]

/-- A byte at which no sequence has begun: what is shown of it, and the
sequence that it begins. -/
def start (byte : UInt8) : Bytes × Option Begun :=
  if byte < 0x80 then
    ([byte], none)
  else
    match following byte with
    | some (least, greatest, more) =>
        ([], some ⟨[byte], least, greatest, more⟩)
    | none => (replacement, none)

/-- What is shown of bytes behind a sequence that has begun, if one has. -/
def display : Option Begun → Bytes → Bytes
  | none, [] => []
  | some _, [] => replacement
  | none, byte :: rest =>
      (start byte).1 ++ display (start byte).2 rest
  | some begun, byte :: rest =>
      if begun.fits byte then
        if begun.more = 0 then
          begun.read ++ byte :: display none rest
        else
          display (some (begun.push byte)) rest
      else
        replacement ++ ((start byte).1 ++ display (start byte).2 rest)

/-- `String::from_utf8_lossy`, which is how a path is displayed. -/
def lossy (bytes : Bytes) : Bytes :=
  display none bytes

/-- The bytes of one character. -/
inductive Sequence : Bytes → Prop
  | single (byte : UInt8) :
      byte < 0x80 → Sequence [byte]
  | several (first : UInt8) (least greatest : UInt8) (more : Nat)
      (tails : Bytes) :
      ¬ first < 0x80 →
      following first = some (least, greatest, more) →
      Begun.Completes ⟨[first], least, greatest, more⟩ tails →
      Sequence (first :: tails)

/-- Bytes that are characters. -/
inductive WellFormed : Bytes → Prop
  | nil : WellFormed []
  | cons {sequence rest : Bytes} :
      Sequence sequence → WellFormed rest → WellFormed (sequence ++ rest)

/-! ## What is shown -/

namespace Begun

variable {begun : Begun}

/-- What completes the sequence makes a character of it. -/
def Leads (begun : Begun) : Prop :=
  ∀ tails, begun.Completes tails → Sequence (begun.read ++ tails)

theorem fits_push_iff
    {byte next : UInt8} :
    (begun.push byte).fits next = true ↔ 0x80 ≤ next ∧ next ≤ 0xBF :=
  decide_eq_true_iff

theorem Leads.push
    (leads : begun.Leads)
    {byte : UInt8}
    (fits : begun.fits byte = true)
    (more : begun.more ≠ 0) :
    (begun.push byte).Leads := by
  intro tails completes
  cases tails with
  | nil => exact completes.elim
  | cons next later =>
      obtain ⟨nextFits, length, ranges⟩ := completes
      have whole : begun.Completes (byte :: next :: later) := by
        refine ⟨fits, ?_, ?_⟩
        · rw [List.length_cons, length]
          exact Nat.succ_pred_eq_of_ne_zero more
        · intro tail member
          rcases List.mem_cons.mp member with rfl | among
          · exact fits_push_iff.mp nextFits
          · exact ranges tail among
      have character := leads _ whole
      rw [Begun.push, List.append_assoc]
      exact character

end Begun

theorem sequence_replacement : Sequence replacement := by
  apply Sequence.several 0xEF 0x80 0xBF 1 [0xBF, 0xBD] (by decide) (by decide)
  refine ⟨by decide, rfl, ?_⟩
  intro tail member
  rw [List.mem_singleton.mp member]
  decide

theorem leads_of_following
    {first least greatest : UInt8}
    {more : Nat}
    (beyond : ¬ first < 0x80)
    (asks : following first = some (least, greatest, more)) :
    (Begun.mk [first] least greatest more).Leads :=
  fun tails completes =>
    Sequence.several first least greatest more tails beyond asks completes

/-- What is shown of a byte is a character, or the byte begins one. -/
theorem start_cases
    (byte : UInt8) :
    (∃ begun, start byte = ([], some begun) ∧ begun.read = [byte] ∧
        begun.Leads) ∨
      ∃ shown, start byte = (shown, none) ∧ Sequence shown ∧
        ∀ symbol ∈ shown, symbol ∈ replacement ∨ symbol = byte := by
  unfold start
  by_cases ascii : byte < 0x80
  · rw [if_pos ascii]
    exact .inr ⟨[byte], rfl, .single byte ascii, fun symbol member =>
      .inr (List.mem_singleton.mp member)⟩
  · rw [if_neg ascii]
    cases asks : following byte with
    | none =>
        exact .inr ⟨replacement, rfl, sequence_replacement,
          fun symbol member => .inl member⟩
    | some asked =>
        obtain ⟨least, greatest, more⟩ := asked
        exact .inl ⟨⟨[byte], least, greatest, more⟩, rfl, rfl,
          leads_of_following ascii asks⟩

/-- What is shown is always characters. -/
theorem wellFormed_display
    (bytes : Bytes)
    (state : Option Begun)
    (leads : ∀ begun ∈ state, begun.Leads) :
    WellFormed (display state bytes) := by
  have fresh : ∀ byte rest,
      (∀ state : Option Begun, (∀ begun ∈ state, begun.Leads) →
        WellFormed (display state rest)) →
      WellFormed ((start byte).1 ++ display (start byte).2 rest) := by
    intro byte rest later
    rcases start_cases byte with
      ⟨begun, begins, _, goes⟩ | ⟨shown, ends, character, _⟩
    · rw [begins]
      exact later (some begun) fun other same => Option.some.inj same ▸ goes
    · rw [ends]
      exact .cons character (later none fun other absurd => by cases absurd)
  induction bytes generalizing state with
  | nil =>
      cases state with
      | none => exact .nil
      | some begun => exact .cons sequence_replacement .nil
  | cons byte rest inductionHypothesis =>
      cases state with
      | none => exact fresh byte rest inductionHypothesis
      | some begun =>
          have goes := leads begun rfl
          rw [display]
          split
          case isTrue fits =>
              split
              case isTrue last =>
                  have character := goes [byte] ⟨fits, last.symm, by simp⟩
                  have shown := WellFormed.cons character
                    (inductionHypothesis none fun other absurd => by
                      cases absurd)
                  rw [List.append_assoc] at shown
                  exact shown
              case isFalse more =>
                  exact inductionHypothesis _ fun other same =>
                    Option.some.inj same ▸ goes.push fits more
          case isFalse unfit =>
              exact .cons sequence_replacement
                (fresh byte rest inductionHypothesis)

theorem wellFormed_lossy
    (bytes : Bytes) :
    WellFormed (lossy bytes) :=
  wellFormed_display bytes none fun begun absurd => by cases absurd

/-- Nothing is shown but replacements and what was there. -/
theorem mem_display
    {symbol : UInt8}
    (bytes : Bytes)
    (state : Option Begun)
    (member : symbol ∈ display state bytes) :
    symbol ∈ replacement ∨ symbol ∈ bytes ∨
      ∃ begun, state = some begun ∧ symbol ∈ begun.read := by
  have fresh : ∀ byte rest,
      (∀ state, symbol ∈ display state rest →
        symbol ∈ replacement ∨ symbol ∈ rest ∨
          ∃ begun, state = some begun ∧ symbol ∈ begun.read) →
      symbol ∈ (start byte).1 ++ display (start byte).2 rest →
      symbol ∈ replacement ∨ symbol ∈ byte :: rest := by
    intro byte rest later shown
    rcases start_cases byte with
      ⟨begun, begins, reads, _⟩ | ⟨first, ends, _, known⟩
    · rw [begins] at shown
      rcases later _ shown with replaced | inRest | ⟨other, same, inRead⟩
      · exact .inl replaced
      · exact .inr (List.mem_cons_of_mem _ inRest)
      · cases same
        rw [reads] at inRead
        exact .inr (List.mem_singleton.mp inRead ▸ List.mem_cons_self)
    · rw [ends] at shown
      rcases List.mem_append.mp shown with inFirst | behind
      · rcases known symbol inFirst with replaced | same
        · exact .inl replaced
        · exact .inr (same ▸ List.mem_cons_self)
      · rcases later _ behind with replaced | inRest | ⟨other, absurd, _⟩
        · exact .inl replaced
        · exact .inr (List.mem_cons_of_mem _ inRest)
        · cases absurd
  induction bytes generalizing state with
  | nil =>
      cases state with
      | none => cases member
      | some begun => exact .inl member
  | cons byte rest inductionHypothesis =>
      cases state with
      | none =>
          exact (fresh byte rest inductionHypothesis member).imp_right .inl
      | some begun =>
          rw [display] at member
          split at member
          case isTrue fits =>
              split at member
              case isTrue last =>
                  rcases List.mem_append.mp member with inRead | behind
                  · exact .inr (.inr ⟨begun, rfl, inRead⟩)
                  · rcases List.mem_cons.mp behind with rfl | inRest
                    · exact .inr (.inl List.mem_cons_self)
                    · rcases inductionHypothesis none inRest with
                        replaced | deeper | ⟨other, absurd, _⟩
                      · exact .inl replaced
                      · exact .inr (.inl (List.mem_cons_of_mem _ deeper))
                      · cases absurd
              case isFalse more =>
                  rcases inductionHypothesis _ member with
                    replaced | inRest | ⟨other, same, inRead⟩
                  · exact .inl replaced
                  · exact .inr (.inl (List.mem_cons_of_mem _ inRest))
                  · cases same
                    rcases List.mem_append.mp inRead with before | now
                    · exact .inr (.inr ⟨begun, rfl, before⟩)
                    · exact .inr (.inl
                        (List.mem_singleton.mp now ▸ List.mem_cons_self))
          case isFalse unfit =>
              rcases List.mem_append.mp member with replaced | behind
              · exact .inl replaced
              · exact (fresh byte rest inductionHypothesis behind).imp_right
                  .inl

theorem mem_lossy
    {symbol : UInt8}
    {bytes : Bytes}
    (member : symbol ∈ lossy bytes) :
    symbol ∈ replacement ∨ symbol ∈ bytes := by
  rcases mem_display bytes none member with
    replaced | inside | ⟨begun, absurd, _⟩
  · exact .inl replaced
  · exact .inr inside
  · cases absurd

/-- What completes a sequence is shown behind it. -/
theorem display_completes
    (begun : Begun)
    {tails : Bytes}
    (completes : begun.Completes tails)
    (rest : Bytes) :
    display (some begun) (tails ++ rest) =
      begun.read ++ tails ++ display none rest := by
  induction tails generalizing begun with
  | nil => exact completes.elim
  | cons byte later inductionHypothesis =>
      obtain ⟨fits, length, ranges⟩ := completes
      rw [List.cons_append, display, if_pos fits]
      cases later with
      | nil =>
          have last : begun.more = 0 := length.symm
          rw [if_pos last, List.append_assoc]
          rfl
      | cons next later =>
          have more : begun.more = later.length + 1 := length.symm
          have goes : (begun.push byte).Completes (next :: later) := by
            refine ⟨Begun.fits_push_iff.mpr
              (ranges next List.mem_cons_self), ?_, fun tail among =>
              ranges tail (List.mem_cons_of_mem _ among)⟩
            rw [Begun.push, more, Nat.add_sub_cancel]
          rw [if_neg (by omega), inductionHypothesis _ goes, Begun.push]
          simp

/-- A character is shown as it is. -/
theorem display_sequence
    {sequence : Bytes}
    (character : Sequence sequence)
    (rest : Bytes) :
    display none (sequence ++ rest) = sequence ++ display none rest := by
  cases character with
  | single byte ascii =>
      rw [List.singleton_append, display, start, if_pos ascii]
  | several first least greatest more tails beyond asks completes =>
      rw [List.cons_append, display, start, if_neg beyond, asks]
      exact display_completes _ completes rest

/-- Characters are shown as they are. -/
theorem lossy_of_wellFormed
    {bytes : Bytes}
    (wellFormed : WellFormed bytes) :
    lossy bytes = bytes := by
  induction wellFormed with
  | nil => rfl
  | cons character later inductionHypothesis =>
      rw [lossy, display_sequence character]
      exact congrArg (_ ++ ·) inductionHypothesis

theorem lossy_eq_self_iff
    {bytes : Bytes} :
    lossy bytes = bytes ↔ WellFormed bytes :=
  ⟨fun same => same ▸ wellFormed_lossy bytes, lossy_of_wellFormed⟩

/-! ## ASCII between characters -/

theorem WellFormed.append
    {left right : Bytes}
    (before : WellFormed left)
    (behind : WellFormed right) :
    WellFormed (left ++ right) := by
  induction before with
  | nil => exact behind
  | cons character later inductionHypothesis =>
      rw [List.append_assoc]
      exact .cons character inductionHypothesis

theorem wellFormed_of_ascii
    {bytes : Bytes}
    (ascii : bytes.all (fun byte => byte < 0x80) = true) :
    WellFormed bytes := by
  induction bytes with
  | nil => exact .nil
  | cons byte rest inductionHypothesis =>
      rw [List.all_cons, Bool.and_eq_true, decide_eq_true_eq] at ascii
      exact .cons (.single byte ascii.1) (inductionHypothesis ascii.2)

theorem least_of_following
    {first least greatest : UInt8}
    {more : Nat}
    (asks : following first = some (least, greatest, more)) :
    0x80 ≤ least := by
  have choose : ∀ {holds : Prop} [Decidable holds]
      {choice : UInt8 × UInt8 × Nat} {others : Option (UInt8 × UInt8 × Nat)},
      0x80 ≤ choice.1 →
      (others = some (least, greatest, more) → 0x80 ≤ least) →
      (if holds then some choice else others) =
        some (least, greatest, more) →
        0x80 ≤ least := by
    intro holds _ choice others bound rest chosen
    split at chosen
    · cases chosen
      exact bound
    · exact rest chosen
  revert asks
  unfold following
  -- One choice for every range of first bytes.
  iterate 8 refine choose (by decide) ?_
  intro none
  cases none

/-- A character is one ASCII byte, or has none. -/
theorem Sequence.ascii_or
    {sequence : Bytes}
    (character : Sequence sequence) :
    (∃ byte, byte < 0x80 ∧ sequence = [byte]) ∨
      (∀ byte ∈ sequence, ¬ byte < 0x80) := by
  cases character with
  | single byte ascii => exact .inl ⟨byte, ascii, rfl⟩
  | several first least greatest more tails beyond asks completes =>
      refine .inr fun byte member => ?_
      cases tails with
      | nil => exact completes.elim
      | cons next later =>
          obtain ⟨fits, _, ranges⟩ := completes
          rcases List.mem_cons.mp member with rfl | among
          · exact beyond
          · apply UInt8.not_lt.mpr
            rcases List.mem_cons.mp among with rfl | behind
            · exact UInt8.le_trans (least_of_following asks)
                (of_decide_eq_true fits).1
            · exact (ranges byte behind).1

/-- Characters stand before and behind an ASCII byte among them. -/
theorem wellFormed_append_iff
    {byte : UInt8}
    (ascii : byte < 0x80)
    (left right : Bytes) :
    WellFormed (left ++ byte :: right) ↔
      WellFormed left ∧ WellFormed right := by
  constructor
  · intro whole
    generalize same : left ++ byte :: right = bytes at whole
    induction whole generalizing left with
    | nil => cases left <;> cases same
    | @cons sequence rest character later inductionHypothesis =>
        rcases List.append_eq_append_iff.mp same with
          ⟨more, isSequence, isRight⟩ | ⟨more, isLeft, isRest⟩
        · cases more with
          | nil =>
              rw [List.append_nil] at isSequence
              obtain ⟨_, behind⟩ := inductionHypothesis [] isRight
              refine ⟨?_, behind⟩
              rw [← isSequence, ← List.append_nil sequence]
              exact .cons character .nil
          | cons head more =>
              obtain ⟨rfl, isRest⟩ := List.cons.inj isRight
              rcases character.ascii_or with ⟨only, _, single⟩ | none
              · rw [single] at isSequence
                obtain ⟨rfl, noMore⟩ : left = [] ∧ more = [] := by
                  cases left with
                  | nil => exact ⟨rfl, (List.cons.inj isSequence).2.symm⟩
                  | cons first left => cases left <;> cases isSequence
                rw [noMore] at isRest
                exact ⟨.nil, isRest ▸ later⟩
              · refine absurd ascii (none byte ?_)
                rw [isSequence]
                exact List.mem_append_right _ List.mem_cons_self
        · obtain ⟨before, behind⟩ := inductionHypothesis more isRest.symm
          exact ⟨isLeft ▸ .cons character before, behind⟩
  · intro both
    exact both.1.append (.cons (.single byte ascii) both.2)

/-- A name that begins with an ASCII byte is joined between characters. -/
theorem wellFormed_join_iff
    {first : UInt8}
    (ascii : first < 0x80)
    (notSlash : first ≠ UnixPath.slash)
    (base rest : Bytes) :
    WellFormed (UnixPath.join base (first :: rest)) ↔
      WellFormed base ∧ WellFormed (first :: rest) := by
  have relative : UnixPath.isAbsolute (first :: rest) = false :=
    beq_eq_false_iff_ne.mpr fun same => notSlash (Option.some.inj same)
  have named : WellFormed (first :: rest) ↔ WellFormed rest :=
    (wellFormed_append_iff ascii [] rest).trans (and_iff_right .nil)
  unfold UnixPath.join
  rw [if_neg (by rw [relative]; exact Bool.false_ne_true)]
  split
  · rw [wellFormed_append_iff ascii, named]
  · exact wellFormed_append_iff (by decide) base (first :: rest)

/-- Every ASCII byte becomes one, and no other byte changes. -/
structure KeepsAscii (change : UInt8 → UInt8) : Prop where
  ascii : ∀ byte, byte < 0x80 → change byte < 0x80
  other : ∀ byte, ¬ byte < 0x80 → change byte = byte

namespace KeepsAscii

variable {change : UInt8 → UInt8}

/-- Only an ASCII byte becomes one. -/
theorem lt_iff
    (keeps : KeepsAscii change)
    (byte : UInt8) :
    change byte < 0x80 ↔ byte < 0x80 := by
  by_cases ascii : byte < 0x80
  · exact iff_of_true (keeps.ascii byte ascii) ascii
  · rw [keeps.other byte ascii]

theorem map_eq_self
    (keeps : KeepsAscii change)
    {bytes : Bytes}
    (beyond : ∀ byte ∈ bytes, ¬ byte < 0x80) :
    bytes.map change = bytes := by
  calc
    bytes.map change = bytes.map id :=
      List.map_congr_left fun byte member =>
        keeps.other byte (beyond byte member)
    _ = bytes := List.map_id bytes

/-- Characters stay characters, and nothing else becomes one. -/
theorem sequence_map_iff
    (keeps : KeepsAscii change)
    (bytes : Bytes) :
    Sequence (bytes.map change) ↔ Sequence bytes := by
  constructor
  · intro character
    rcases character.ascii_or with ⟨byte, ascii, single⟩ | none
    · obtain ⟨original, rfl, becomes⟩ := List.map_eq_singleton_iff.mp single
      exact .single original ((keeps.lt_iff original).mp (becomes ▸ ascii))
    · rw [keeps.map_eq_self fun byte member ascii =>
        none (change byte) (List.mem_map_of_mem member)
          ((keeps.lt_iff byte).mpr ascii)] at character
      exact character
  · intro character
    rcases character.ascii_or with ⟨byte, ascii, rfl⟩ | none
    · exact .single _ (keeps.ascii byte ascii)
    · rw [keeps.map_eq_self none]
      exact character

theorem wellFormed_map_iff
    (keeps : KeepsAscii change)
    (bytes : Bytes) :
    WellFormed (bytes.map change) ↔ WellFormed bytes := by
  constructor
  · intro whole
    generalize same : bytes.map change = changed at whole
    induction whole generalizing bytes with
    | nil =>
        rw [List.map_eq_nil_iff.mp same]
        exact .nil
    | cons character later inductionHypothesis =>
        obtain ⟨before, behind, rfl, isSequence, isRest⟩ :=
          List.map_eq_append_iff.mp same
        rw [← isSequence] at character
        exact .cons ((keeps.sequence_map_iff before).mp character)
          (inductionHypothesis behind isRest)
  · intro whole
    induction whole with
    | nil => exact .nil
    | cons character later inductionHypothesis =>
        rw [List.map_append]
        exact .cons ((keeps.sequence_map_iff _).mpr character)
          inductionHypothesis

end KeepsAscii

end Utf8
end Foundation
end Hearthdeck
