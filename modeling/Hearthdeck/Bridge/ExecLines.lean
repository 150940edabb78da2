import Hearthdeck.Frontend.RommForm

/-!
# Exec lines

A desktop entry says what it runs in one line.  The line is read once for its
quotes and escapes, character by character, and every argument that was read is
expanded for its field codes after that.
-/

namespace Hearthdeck
namespace Bridge
namespace ExecLine

open Frontend (isWhitespace)

def quotationMark : Char := Char.ofNat 0x22

def apostrophe : Char := Char.ofNat 0x27

def backslash : Char := Char.ofNat 0x5C

def backtick : Char := Char.ofNat 0x60

def percent : Char := Char.ofNat 0x25

/-- The characters that a backslash stands before inside of quotes. -/
def isEscapable (character : Char) : Bool :=
  [quotationMark, backtick, '$', backslash].contains character

/-! ## Reading -/

/-- What has been read of a line. -/
structure Reading where
  arguments : List (List Char × Bool)
  argument : List Char
  quote : Option Char
  argumentWasQuoted : Bool
  deriving DecidableEq

namespace Reading

/-- Nothing has been read. -/
def start : Reading := ⟨[], [], none, false⟩

/-- One more character of the argument. -/
def push (reading : Reading) (character : Char) : Reading :=
  { reading with argument := reading.argument ++ [character] }

/-- A quote begins. -/
def begun (reading : Reading) (delimiter : Char) : Reading :=
  { reading with quote := some delimiter, argumentWasQuoted := true }

/-- The quote ends. -/
def ended (reading : Reading) : Reading :=
  { reading with quote := none }

/-- The argument ends, if there is one. -/
def separated (reading : Reading) : Reading :=
  if reading.argument = [] then
    reading
  else
    { arguments := reading.arguments ++
        [(reading.argument, reading.argumentWasQuoted)]
      argument := []
      quote := reading.quote
      argumentWasQuoted := false }

/-- The arguments, with the last one. -/
def finished (reading : Reading) : List (List Char × Bool) :=
  if reading.argument = [] then
    reading.arguments
  else
    reading.arguments ++ [(reading.argument, reading.argumentWasQuoted)]

end Reading

/-- The loop of `parse_exec` over the characters of a line. -/
def readCharacters : List Char → Reading → Except String Reading
  | [], reading => .ok reading
  | character :: rest, reading =>
      match reading.quote with
      | some delimiter =>
          if character = delimiter then
            readCharacters rest reading.ended
          else if delimiter = quotationMark ∧ character = backslash then
            match rest with
            | [] =>
                .error "desktop entry has an invalid quoted Exec command"
            | escaped :: later =>
                if isEscapable escaped then
                  readCharacters later (reading.push escaped)
                else
                  .error "desktop entry has an invalid quoted Exec escape"
          else
            readCharacters rest (reading.push character)
      | none =>
          if character = backslash then
            match rest with
            | [] => .error "desktop entry has an invalid Exec command"
            | escaped :: later =>
                readCharacters later (reading.push escaped)
          else if character = quotationMark ∨ character = apostrophe then
            readCharacters rest (reading.begun character)
          else if isWhitespace character then
            readCharacters rest reading.separated
          else
            readCharacters rest (reading.push character)

/-! ## Expanding -/

/-- What an entry expands its field codes with. -/
structure Entry where
  /-- The path of the entry, as it is displayed. -/
  desktopPath : List Char
  applicationName : Option (List Char)
  icon : Option (List Char)

/-- The codes of files and addresses. -/
def isFileCode (code : Char) : Bool :=
  ['f', 'F', 'u', 'U'].contains code

/-- What stands for a percent sign and the character behind it, if there is
one. -/
def expandCode
    (entry : Entry)
    (wasQuoted : Bool)
    (code : Option Char) : Except String (List Char) :=
  if wasQuoted then
    .error "desktop entry has a field code inside quoted text"
  else
    match code with
    | none => .error "desktop entry has an incomplete field code"
    | some code =>
        if code = percent then
          .ok [percent]
        else if code = 'c' then
          .ok (entry.applicationName.getD [])
        else if code = 'k' then
          .ok entry.desktopPath
        else if isFileCode code ∨ code = 'i' then
          .error "desktop entry has a field code in an invalid position"
        else
          .error "desktop entry has an unknown field code"

/-- The loop of `expand_field_codes` over the characters of an argument. -/
def expandCharacters
    (entry : Entry)
    (wasQuoted : Bool) : List Char → Except String (List Char)
  | [] => .ok []
  | character :: rest =>
      if character = percent then
        match rest with
        | [] => expandCode entry wasQuoted none
        | code :: later => do
            let text ← expandCode entry wasQuoted (some code)
            (text ++ ·) <$> expandCharacters entry wasQuoted later
      else
        (character :: ·) <$> expandCharacters entry wasQuoted rest

/-- `expand_field_codes`: the arguments that one becomes. -/
def expandFieldCodes
    (entry : Entry)
    (argument : List Char)
    (wasQuoted : Bool) : Except String (List (List Char)) :=
  if argument ∈ [[percent, 'f'], [percent, 'F'], [percent, 'u'],
      [percent, 'U']] then
    if wasQuoted then
      .error "desktop entry has a quoted file field code"
    else
      .ok []
  else if argument = [percent, 'i'] then
    if wasQuoted then
      .error "desktop entry has a quoted icon field code"
    else
      match entry.icon with
      | some icon => .ok ["--icon".toList, icon]
      | none => .ok []
  else do
    let expanded ← expandCharacters entry wasQuoted argument
    if expanded = [] then .ok [] else .ok [expanded]

/-- What the arguments that were read become. -/
def expandAll
    (entry : Entry) :
    List (List Char × Bool) → Except String (List (List Char))
  | [] => .ok []
  | (argument, wasQuoted) :: later => do
      let expanded ← expandFieldCodes entry argument wasQuoted
      (expanded ++ ·) <$> expandAll entry later

/-- `parse_exec`. -/
def parseExec
    (value : List Char)
    (entry : Entry) : Except String (List (List Char)) := do
  let reading ← readCharacters value .start
  if reading.quote.isSome then
    .error "desktop entry has an invalid Exec command"
  else
    expandAll entry reading.finished

/-! ## What a line is made of -/

/-- What stands between quotation marks. -/
inductive Item
  | plain (character : Char)
  | escaped (character : Char)

namespace Item

def Valid : Item → Prop
  | plain character => character ≠ quotationMark ∧ character ≠ backslash
  | escaped character => isEscapable character = true

def spell : Item → List Char
  | plain character => [character]
  | escaped character => [backslash, character]

def character : Item → Char
  | plain character => character
  | escaped character => character

end Item

/-- A piece of a line that is read on its own. -/
inductive Segment
  | blank (character : Char)
  | bare (character : Char)
  | escaped (character : Char)
  | double (items : List Item)
  | single (text : List Char)

namespace Segment

def Valid : Segment → Prop
  | blank character => isWhitespace character = true
  | bare character =>
      character ≠ backslash ∧ character ≠ quotationMark ∧
        character ≠ apostrophe ∧ isWhitespace character = false
  | escaped _ => True
  | double items => ∀ item ∈ items, item.Valid
  | single text => apostrophe ∉ text

def spell : Segment → List Char
  | blank character => [character]
  | bare character => [character]
  | escaped character => [backslash, character]
  | double items =>
      quotationMark :: (items.flatMap Item.spell ++ [quotationMark])
  | single text => apostrophe :: (text ++ [apostrophe])

/-- What a segment adds to the argument. -/
def text : Segment → List Char
  | blank _ => []
  | bare character => [character]
  | escaped character => [character]
  | double items => items.map Item.character
  | single text => text

def isQuoted : Segment → Bool
  | double _ => true
  | single _ => true
  | _ => false

end Segment

/-- The line that some segments spell. -/
def spellAll (segments : List Segment) : List Char :=
  segments.flatMap Segment.spell

/-- An argument as it is written. -/
structure Word where
  text : List Char
  quoted : Bool

/-- The words between the blanks, behind one that has begun. -/
def wordsFrom (current : Word) : List Segment → List Word
  | [] => [current]
  | .blank _ :: later => current :: wordsFrom ⟨[], false⟩ later
  | segment :: later =>
      wordsFrom ⟨current.text ++ segment.text,
        current.quoted || segment.isQuoted⟩ later

/-- The words of a line. -/
def words (segments : List Segment) : List Word :=
  wordsFrom ⟨[], false⟩ segments

/-! ## What is read of it -/

namespace Reading

variable {reading : Reading}

/-- More of the argument, quoted or not. -/
def add (reading : Reading) (text : List Char) (quoted : Bool) : Reading :=
  { reading with
    argument := reading.argument ++ text
    argumentWasQuoted := reading.argumentWasQuoted || quoted }

/-- What has been read behind a segment. -/
def after (reading : Reading) : Segment → Reading
  | .blank _ => reading.separated
  | segment => reading.add segment.text segment.isQuoted

@[simp] theorem add_nil
    (reading : Reading) :
    reading.add [] false = reading := by
  simp [add]

@[simp] theorem push_add
    (reading : Reading)
    (character : Char)
    (text : List Char)
    (quoted : Bool) :
    (reading.push character).add text quoted =
      reading.add (character :: text) quoted := by
  simp [add, push]

@[simp] theorem separated_quote
    (reading : Reading) :
    reading.separated.quote = reading.quote := by
  unfold separated
  split <;> rfl

@[simp] theorem separated_argument
    (reading : Reading) :
    reading.separated.argument = [] := by
  unfold separated
  split
  · assumption
  · rfl

theorem after_quote
    (reading : Reading)
    (segment : Segment) :
    (reading.after segment).quote = reading.quote := by
  cases segment with
  | blank character => exact separated_quote reading
  | bare character => rfl
  | escaped character => rfl
  | double items => rfl
  | single text => rfl

end Reading

section Steps

variable {reading : Reading} {delimiter character : Char} {rest : List Char}

theorem read_end
    (quoted : reading.quote = some delimiter) :
    readCharacters (delimiter :: rest) reading =
      readCharacters rest reading.ended := by
  cases rest <;> simp [readCharacters, quoted]

theorem read_quoted
    (quoted : reading.quote = some delimiter)
    (different : character ≠ delimiter)
    (plain : ¬ (delimiter = quotationMark ∧ character = backslash)) :
    readCharacters (character :: rest) reading =
      readCharacters rest (reading.push character) := by
  cases rest <;> simp [readCharacters, quoted, different, plain]

theorem read_quotedEscape
    (quoted : reading.quote = some quotationMark)
    (escapable : isEscapable character = true) :
    readCharacters (backslash :: character :: rest) reading =
      readCharacters rest (reading.push character) := by
  have different : backslash ≠ quotationMark := by decide
  simp [readCharacters, quoted, different, escapable]

theorem read_escape
    (unquoted : reading.quote = none) :
    readCharacters (backslash :: character :: rest) reading =
      readCharacters rest (reading.push character) := by
  simp [readCharacters, unquoted]

theorem read_begin
    (unquoted : reading.quote = none)
    (delimits : character = quotationMark ∨ character = apostrophe) :
    readCharacters (character :: rest) reading =
      readCharacters rest (reading.begun character) := by
  have different : character ≠ backslash := by
    rcases delimits with rfl | rfl <;> decide
  cases rest <;> simp [readCharacters, unquoted, different, delimits]

theorem read_blank
    (unquoted : reading.quote = none)
    (blank : isWhitespace character = true) :
    readCharacters (character :: rest) reading =
      readCharacters rest reading.separated := by
  have notBackslash : character ≠ backslash := by
    rintro rfl
    exact absurd blank (by decide)
  have notDelimiter :
      ¬ (character = quotationMark ∨ character = apostrophe) := by
    rintro (rfl | rfl) <;> exact absurd blank (by decide)
  cases rest <;>
    simp [readCharacters, unquoted, notBackslash, notDelimiter, blank]

theorem read_bare
    (unquoted : reading.quote = none)
    (bare : (Segment.bare character).Valid) :
    readCharacters (character :: rest) reading =
      readCharacters rest (reading.push character) := by
  obtain ⟨notBackslash, notQuote, notApostrophe, solid⟩ := bare
  cases rest <;>
    simp [readCharacters, unquoted, notBackslash, notQuote, notApostrophe,
      solid]

end Steps

/-- What stands between quotation marks is added to the argument. -/
theorem readCharacters_items
    {items : List Item}
    (valid : ∀ item ∈ items, item.Valid)
    (reading : Reading)
    (quoted : reading.quote = some quotationMark)
    (rest : List Char) :
    readCharacters (items.flatMap Item.spell ++ rest) reading =
      readCharacters rest (reading.add (items.map Item.character) false) := by
  induction items generalizing reading with
  | nil => simp
  | cons item later inductionHypothesis =>
      have itemValid := valid item List.mem_cons_self
      have behind := inductionHypothesis (fun other among =>
        valid other (List.mem_cons_of_mem _ among))
          (reading.push item.character) quoted
      rw [Reading.push_add] at behind
      rw [List.flatMap_cons, List.append_assoc, List.map_cons, ← behind]
      cases item with
      | plain character =>
          exact read_quoted quoted itemValid.1 fun both => itemValid.2 both.2
      | escaped character => exact read_quotedEscape quoted itemValid

theorem readCharacters_single
    {text : List Char}
    (valid : apostrophe ∉ text)
    (reading : Reading)
    (quoted : reading.quote = some apostrophe)
    (rest : List Char) :
    readCharacters (text ++ rest) reading =
      readCharacters rest (reading.add text false) := by
  induction text generalizing reading with
  | nil => simp
  | cons character later inductionHypothesis =>
      have different : character ≠ apostrophe := by
        rintro rfl
        exact valid List.mem_cons_self
      have behind := inductionHypothesis
        (List.not_mem_of_not_mem_cons valid) (reading.push character) quoted
      rw [Reading.push_add] at behind
      rw [← behind]
      exact read_quoted quoted different fun both =>
        absurd both.1 (by decide)

/-- A segment is read as a whole. -/
theorem readCharacters_segment
    {segment : Segment}
    (valid : segment.Valid)
    {reading : Reading}
    (unquoted : reading.quote = none)
    (rest : List Char) :
    readCharacters (segment.spell ++ rest) reading =
      readCharacters rest (reading.after segment) := by
  cases segment with
  | blank character => exact read_blank unquoted valid
  | bare character =>
      have pushed : reading.after (.bare character) =
          reading.push character := by
        simp [Reading.after, Reading.add, Reading.push, Segment.text,
          Segment.isQuoted]
      rw [pushed]
      exact read_bare unquoted valid
  | escaped character =>
      have pushed : reading.after (.escaped character) =
          reading.push character := by
        simp [Reading.after, Reading.add, Reading.push, Segment.text,
          Segment.isQuoted]
      rw [pushed]
      exact read_escape unquoted
  | double items =>
      rw [Segment.spell, List.cons_append, List.append_assoc,
        read_begin unquoted (.inl rfl),
        readCharacters_items valid (reading.begun quotationMark) rfl,
        List.singleton_append, read_end rfl]
      simp [Reading.after, Reading.add, Reading.begun, Reading.ended,
        Segment.text, Segment.isQuoted, unquoted]
  | single text =>
      rw [Segment.spell, List.cons_append, List.append_assoc,
        read_begin unquoted (.inr rfl),
        readCharacters_single valid (reading.begun apostrophe) rfl,
        List.singleton_append, read_end rfl]
      simp [Reading.after, Reading.add, Reading.begun, Reading.ended,
        Segment.text, Segment.isQuoted, unquoted]

/-- Segments are read one after another. -/
theorem readCharacters_spellAll
    {segments : List Segment}
    (valid : ∀ segment ∈ segments, segment.Valid)
    (reading : Reading)
    (unquoted : reading.quote = none)
    (rest : List Char) :
    readCharacters (spellAll segments ++ rest) reading =
        readCharacters rest (segments.foldl Reading.after reading) ∧
      (segments.foldl Reading.after reading).quote = none := by
  induction segments generalizing reading with
  | nil => exact ⟨rfl, unquoted⟩
  | cons segment later inductionHypothesis =>
      obtain ⟨same, still⟩ := inductionHypothesis (fun other among =>
        valid other (List.mem_cons_of_mem _ among)) (reading.after segment)
          ((reading.after_quote segment).trans unquoted)
      refine ⟨?_, still⟩
      rw [spellAll, List.flatMap_cons, List.append_assoc,
        readCharacters_segment (valid segment List.mem_cons_self) unquoted]
      exact same

/-! ## Lines that are broken off -/

/-- The end of a line whose quote does not end, or behind whose last
backslash nothing stands. -/
inductive Broken : List Char → Prop
  | double (items : List Item) :
      (∀ item ∈ items, item.Valid) →
      Broken (quotationMark :: items.flatMap Item.spell)
  | single (text : List Char) :
      apostrophe ∉ text →
      Broken (apostrophe :: text)
  | escape : Broken [backslash]
  | quotedEscape (items : List Item) :
      (∀ item ∈ items, item.Valid) →
      Broken (quotationMark :: (items.flatMap Item.spell ++ [backslash]))

/-- A line that is broken off is no command. -/
theorem parseExec_broken
    {segments : List Segment}
    (valid : ∀ segment ∈ segments, segment.Valid)
    {tail : List Char}
    (broken : Broken tail)
    (entry : Entry) :
    ∃ error, parseExec (spellAll segments ++ tail) entry = .error error := by
  obtain ⟨same, unquoted⟩ := readCharacters_spellAll valid .start rfl tail
  rw [parseExec, same]
  generalize segments.foldl Reading.after Reading.start = reading at unquoted
  cases broken with
  | double items itemsValid =>
      have read := readCharacters_items itemsValid
        (reading.begun quotationMark) rfl []
      rw [List.append_nil] at read
      rw [read_begin unquoted (.inl rfl), read]
      exact ⟨_, rfl⟩
  | single text textValid =>
      have read := readCharacters_single textValid
        (reading.begun apostrophe) rfl []
      rw [List.append_nil] at read
      rw [read_begin unquoted (.inr rfl), read]
      exact ⟨_, rfl⟩
  | escape =>
      refine ⟨"desktop entry has an invalid Exec command", ?_⟩
      simp [readCharacters, unquoted]
      rfl
  | quotedEscape items itemsValid =>
      refine ⟨"desktop entry has an invalid quoted Exec command", ?_⟩
      have different : backslash ≠ quotationMark := by decide
      rw [read_begin unquoted (.inl rfl), readCharacters_items itemsValid
        (reading.begun quotationMark) rfl]
      simp [readCharacters, Reading.begun, Reading.add, different]
      rfl

/-- What completes a line, behind a quote if one has begun. -/
def Completed : Option Char → List Char → Prop
  | none, value =>
      ∃ segments : List Segment, (∀ segment ∈ segments, segment.Valid) ∧
        spellAll segments = value
  | some delimiter, value =>
      (delimiter = quotationMark → ∃ (items : List Item)
        (segments : List Segment), (∀ item ∈ items, item.Valid) ∧
          (∀ segment ∈ segments, segment.Valid) ∧
          items.flatMap Item.spell ++ quotationMark :: spellAll segments =
            value) ∧
      (delimiter = apostrophe → ∃ (text : List Char)
        (segments : List Segment), apostrophe ∉ text ∧
          (∀ segment ∈ segments, segment.Valid) ∧
          text ++ apostrophe :: spellAll segments = value)

section Completing

variable {value : List Char} {character : Char}

/-- One more segment at the front. -/
theorem Completed.segment
    (completed : Completed none value)
    {segment : Segment}
    (valid : segment.Valid) :
    Completed none (segment.spell ++ value) := by
  obtain ⟨segments, allValid, rfl⟩ := completed
  refine ⟨segment :: segments, ?_, rfl⟩
  intro other member
  rcases List.mem_cons.mp member with rfl | among
  · exact valid
  · exact allValid other among

/-- One more character in quotes. -/
theorem Completed.quoted
    {delimiter : Char}
    (completed : Completed (some delimiter) value)
    (different : character ≠ delimiter)
    (plain : ¬ (delimiter = quotationMark ∧ character = backslash)) :
    Completed (some delimiter) (character :: value) := by
  refine ⟨?_, ?_⟩
  · intro double
    obtain ⟨items, segments, itemsValid, allValid, rfl⟩ :=
      completed.1 double
    refine ⟨.plain character :: items, segments, ?_, allValid, rfl⟩
    intro item member
    rcases List.mem_cons.mp member with rfl | among
    · exact ⟨double ▸ different, fun same => plain ⟨double, same⟩⟩
    · exact itemsValid item among
  · intro single
    obtain ⟨text, segments, textValid, allValid, rfl⟩ := completed.2 single
    refine ⟨character :: text, segments, ?_, allValid, rfl⟩
    rw [List.mem_cons, not_or]
    exact ⟨fun same => different (same.symm.trans single.symm), textValid⟩

theorem Completed.quotedEscape
    (completed : Completed (some quotationMark) value)
    (escapable : isEscapable character = true) :
    Completed (some quotationMark) (backslash :: character :: value) := by
  refine ⟨?_, fun single => absurd single (by decide)⟩
  intro double
  obtain ⟨items, segments, itemsValid, allValid, rfl⟩ := completed.1 double
  refine ⟨.escaped character :: items, segments, ?_, allValid, rfl⟩
  intro item member
  rcases List.mem_cons.mp member with rfl | among
  · exact escapable
  · exact itemsValid item among

/-- A quote that ends. -/
theorem Completed.ended
    (completed : Completed none value)
    (delimiter : Char) :
    Completed (some delimiter) (delimiter :: value) := by
  obtain ⟨segments, allValid, rfl⟩ := completed
  refine ⟨?_, ?_⟩
  · rintro rfl
    exact ⟨[], segments, by simp, allValid, rfl⟩
  · rintro rfl
    exact ⟨[], segments, by simp, allValid, rfl⟩

/-- A quote that begins. -/
theorem Completed.begun
    (completed : Completed (some character) value)
    (delimits : character = quotationMark ∨ character = apostrophe) :
    Completed none (character :: value) := by
  rcases delimits with rfl | rfl
  · obtain ⟨items, segments, itemsValid, allValid, rfl⟩ := completed.1 rfl
    have whole := Completed.segment ⟨segments, allValid, rfl⟩
      (show (Segment.double items).Valid from itemsValid)
    rw [Segment.spell, List.cons_append, List.append_assoc] at whole
    exact whole
  · obtain ⟨text, segments, textValid, allValid, rfl⟩ := completed.2 rfl
    have whole := Completed.segment ⟨segments, allValid, rfl⟩
      (show (Segment.single text).Valid from textValid)
    rw [Segment.spell, List.cons_append, List.append_assoc] at whole
    exact whole

end Completing

/-- What is read to its end is complete. -/
theorem completed_of_read
    {value : List Char}
    {reading final : Reading}
    (read : readCharacters value reading = .ok final)
    (ended : final.quote = none) :
    Completed reading.quote value := by
  induction value, reading using readCharacters.induct with
  | case1 reading =>
      cases read
      rw [ended]
      exact ⟨[], by simp, rfl⟩
  | case2 rest reading delimiter quoted inductionHypothesis =>
      rw [read_end quoted] at read
      rw [quoted]
      exact (inductionHypothesis read).ended delimiter
  | case3 character reading delimiter quoted different both =>
      rw [both.2, both.1] at different
      simp [readCharacters, quoted, different, both] at read
  | case4 character reading delimiter quoted different both escaped later
      escapable inductionHypothesis =>
      obtain ⟨rfl, rfl⟩ := both
      rw [read_quotedEscape quoted escapable] at read
      have behind := inductionHypothesis read
      change Completed reading.quote later at behind
      rw [quoted] at behind ⊢
      exact behind.quotedEscape escapable
  | case5 character reading delimiter quoted different both escaped later
      notEscapable =>
      rw [both.2, both.1] at different
      simp [readCharacters, quoted, different, both, notEscapable] at read
  | case6 character rest reading delimiter quoted different plain
      inductionHypothesis =>
      rw [read_quoted quoted different plain] at read
      have behind := inductionHypothesis read
      change Completed reading.quote rest at behind
      rw [quoted] at behind ⊢
      exact behind.quoted different plain
  | case7 reading unquoted => simp [readCharacters, unquoted] at read
  | case8 reading unquoted escaped later inductionHypothesis =>
      rw [read_escape unquoted] at read
      have behind := inductionHypothesis read
      change Completed reading.quote later at behind
      rw [unquoted] at behind ⊢
      exact behind.segment (show (Segment.escaped escaped).Valid from trivial)
  | case9 character rest reading unquoted different delimits
      inductionHypothesis =>
      rw [read_begin unquoted delimits] at read
      rw [unquoted]
      exact (inductionHypothesis read).begun delimits
  | case10 character rest reading unquoted notBackslash notDelimiter blank
      inductionHypothesis =>
      rw [read_blank unquoted blank] at read
      have behind := inductionHypothesis read
      rw [Reading.separated_quote, unquoted] at behind
      rw [unquoted]
      exact behind.segment (show (Segment.blank character).Valid from blank)
  | case11 character rest reading unquoted notBackslash notDelimiter solid
      inductionHypothesis =>
      have bare : (Segment.bare character).Valid :=
        ⟨notBackslash, fun same => notDelimiter (.inl same),
          fun same => notDelimiter (.inr same), by simpa using solid⟩
      rw [read_bare unquoted bare] at read
      have behind := inductionHypothesis read
      change Completed reading.quote rest at behind
      rw [unquoted] at behind ⊢
      exact behind.segment bare

/-- A line that is a command is complete. -/
theorem complete_of_parseExec
    {value : List Char}
    {entry : Entry}
    {results : List (List Char)}
    (parsed : parseExec value entry = .ok results) :
    ∃ segments : List Segment, (∀ segment ∈ segments, segment.Valid) ∧
      spellAll segments = value := by
  rw [parseExec] at parsed
  cases read : readCharacters value .start with
  | error error => rw [read] at parsed; cases parsed
  | ok final =>
      rw [read] at parsed
      change (if _ then _ else _) = _ at parsed
      split at parsed
      case isTrue quoted => cases parsed
      case isFalse unquoted =>
          refine completed_of_read read ?_
          simpa using unquoted

/-! ## Field codes that are misplaced -/

/-- A character of an argument that is not a percent sign, or a code. -/
inductive Part
  | plain (character : Char)
  | code (character : Char)

namespace Part

def Valid : Part → Prop
  | plain character => character ≠ percent
  | code _ => True

def spell : Part → List Char
  | plain character => [character]
  | code character => [percent, character]

end Part

/-- The codes there are. -/
def isKnown (code : Char) : Bool :=
  isFileCode code || ['i', 'c', 'k', percent].contains code

/-- A code that may not stand in an argument of these parts. -/
def Forbidden (quoted : Bool) (parts : List Part) (code : Char) : Prop :=
  quoted = true ∨ isKnown code = false ∨
    (isFileCode code = true ∨ code = 'i') ∧ parts ≠ [.code code]

/-- A word with a code that is not complete or may not stand there. -/
inductive Misplaced (word : Word) : Prop
  | incomplete (parts : List Part) :
      (∀ part ∈ parts, part.Valid) →
      word.text = parts.flatMap Part.spell ++ [percent] →
      Misplaced word
  | code (parts : List Part) (code : Char) :
      (∀ part ∈ parts, part.Valid) →
      word.text = parts.flatMap Part.spell →
      .code code ∈ parts →
      Forbidden word.quoted parts code →
      Misplaced word

theorem map_error
    {α β : Type}
    {change : α → β}
    {result : Except String α}
    (fails : ∃ error, result = .error error) :
    ∃ error, change <$> result = .error error := by
  obtain ⟨error, rfl⟩ := fails
  exact ⟨error, rfl⟩

section Expanding

variable {entry : Entry} {quoted : Bool} {later : List Char}

theorem expand_plain
    {character : Char}
    (plain : character ≠ percent) :
    expandCharacters entry quoted (character :: later) =
      (character :: ·) <$> expandCharacters entry quoted later := by
  cases later <;> simp [expandCharacters, plain]

/-- What is behind a code is expanded, or the code is an error. -/
theorem expand_code
    (fails : ∃ error, expandCharacters entry quoted later = .error error)
    (code : Char) :
    ∃ error,
      expandCharacters entry quoted (percent :: code :: later) =
        .error error := by
  rw [expandCharacters, if_pos rfl]
  cases expandCode entry quoted (some code) with
  | error error => exact ⟨error, rfl⟩
  | ok text => exact map_error fails

/-- A code that is quoted, unknown or about a file is an error. -/
theorem expandCode_bad
    {code : Char}
    (bad : quoted = true ∨ isKnown code = false ∨
      isFileCode code = true ∨ code = 'i') :
    ∃ error, expandCode entry quoted (some code) = .error error := by
  have known : isKnown percent = true ∧ isKnown 'c' = true ∧
      isKnown 'k' = true := by decide
  have others : isFileCode percent = false ∧ isFileCode 'c' = false ∧
      isFileCode 'k' = false := by decide
  unfold expandCode
  by_cases inQuotes : quoted = true
  · rw [if_pos inQuotes]
    exact ⟨_, rfl⟩
  · rw [if_neg inQuotes]
    dsimp only
    split_ifs with isPercent isName isPath isFile
    · rw [isPercent, known.1, others.1] at bad
      exact absurd bad (by simp [inQuotes]; decide)
    · rw [isName, known.2.1, others.2.1] at bad
      exact absurd bad (by simp [inQuotes])
    · rw [isPath, known.2.2, others.2.2] at bad
      exact absurd bad (by simp [inQuotes])
    · exact ⟨_, rfl⟩
    · exact ⟨_, rfl⟩

/-- A percent sign at the end is an error. -/
theorem expand_incomplete
    {parts : List Part}
    (valid : ∀ part ∈ parts, part.Valid) :
    ∃ error,
      expandCharacters entry quoted
        (parts.flatMap Part.spell ++ [percent]) = .error error := by
  induction parts with
  | nil =>
      change ∃ error, expandCharacters entry quoted [percent] = .error error
      rw [expandCharacters, if_pos rfl]
      unfold expandCode
      split <;> exact ⟨_, rfl⟩
  | cons part later inductionHypothesis =>
      have fails := inductionHypothesis fun other among =>
        valid other (List.mem_cons_of_mem _ among)
      cases part with
      | plain character =>
          have isPlain : character ≠ percent := valid _ List.mem_cons_self
          rw [List.flatMap_cons, List.append_assoc, Part.spell,
            List.singleton_append, expand_plain isPlain]
          exact map_error fails
      | code code => exact expand_code fails code

/-- A forbidden code is an error. -/
theorem expand_forbidden
    {parts : List Part}
    (valid : ∀ part ∈ parts, part.Valid)
    {code : Char}
    (among : .code code ∈ parts)
    (bad : quoted = true ∨ isKnown code = false ∨
      isFileCode code = true ∨ code = 'i') :
    ∃ error,
      expandCharacters entry quoted (parts.flatMap Part.spell) =
        .error error := by
  induction parts with
  | nil => cases among
  | cons part later inductionHypothesis =>
      have restValid : ∀ part ∈ later, part.Valid := fun other member =>
        valid other (List.mem_cons_of_mem _ member)
      rcases List.mem_cons.mp among with rfl | behind
      · have isBad : ∃ error,
            expandCode entry quoted (some code) = .error error :=
          expandCode_bad bad
        obtain ⟨error, fails⟩ := isBad
        refine ⟨error, ?_⟩
        change expandCharacters entry quoted
          (percent :: code :: later.flatMap Part.spell) = .error error
        rw [expandCharacters, if_pos rfl, fails]
        rfl
      · have fails := inductionHypothesis restValid behind
        cases part with
        | plain character =>
            have isPlain : character ≠ percent := valid _ List.mem_cons_self
            rw [List.flatMap_cons, Part.spell, List.singleton_append,
              expand_plain isPlain]
            exact map_error fails
        | code other => exact expand_code fails other

/-- The parts of a code that stands alone. -/
theorem parts_of_code
    {parts : List Part}
    (valid : ∀ part ∈ parts, part.Valid)
    {code : Char}
    (spelled : [percent, code] = parts.flatMap Part.spell) :
    parts = [.code code] := by
  cases parts with
  | nil => cases spelled
  | cons part later =>
      cases part with
      | plain character =>
          exact absurd (List.cons.inj spelled).1.symm
            (valid _ List.mem_cons_self)
      | code other =>
          obtain ⟨_, behind⟩ := List.cons.inj spelled
          obtain ⟨rfl, nothing⟩ := List.cons.inj behind
          cases later with
          | nil => rfl
          | cons next later => cases next <;> cases nothing

end Expanding

/-- The code of a file that stands alone is only misplaced in quotes. -/
theorem quoted_of_misplaced
    {word : Word}
    (misplaced : Misplaced word)
    {code : Char}
    (spelled : word.text = [percent, code])
    (isFile : isFileCode code = true ∨ code = 'i') :
    word.quoted = true := by
  have known : isKnown code = true := by
    rcases isFile with file | rfl
    · rw [isKnown, file]
      rfl
    · decide
  cases misplaced with
  | incomplete parts valid broken =>
      rw [spelled] at broken
      have ends := congrArg List.getLast? broken
      rw [List.getLast?_concat] at ends
      have same : code = percent := Option.some.inj ends
      rw [same] at isFile
      exact absurd isFile (by decide)
  | code parts other valid whole among forbidden =>
      have alone := parts_of_code valid (spelled.symm.trans whole)
      rw [alone] at among
      cases List.mem_singleton.mp among
      rcases forbidden with quoted | unknown | ⟨_, company⟩
      · exact quoted
      · rw [known] at unknown
        cases unknown
      · exact absurd alone company

/-- A misplaced code is an error, whether its word was taken for quoted or
not. -/
theorem expandFieldCodes_misplaced
    {word : Word}
    (misplaced : Misplaced word)
    {wasQuoted : Bool}
    (atLeast : word.quoted = true → wasQuoted = true)
    (entry : Entry) :
    ∃ error, expandFieldCodes entry word.text wasQuoted = .error error := by
  have expanded : (∃ error,
      expandCharacters entry wasQuoted word.text = .error error) →
        ∃ error, (do
          let expanded ← expandCharacters entry wasQuoted word.text
          if expanded = [] then
            (.ok [] : Except String (List (List Char)))
          else .ok [expanded]) = .error error := by
    rintro ⟨error, fails⟩
    exact ⟨error, by rw [fails]; rfl⟩
  unfold expandFieldCodes
  split_ifs with isFile inQuotes isIcon inQuotes
  · exact ⟨_, rfl⟩
  · simp only [List.mem_cons, List.not_mem_nil, or_false] at isFile
    rcases isFile with spelled | spelled | spelled | spelled
    all_goals
      exact absurd (atLeast (quoted_of_misplaced misplaced spelled
        (by decide))) inQuotes
  · exact ⟨_, rfl⟩
  · exact absurd (atLeast (quoted_of_misplaced misplaced isIcon (by decide)))
      inQuotes
  · refine expanded ?_
    cases misplaced with
    | incomplete parts valid spelled =>
        rw [spelled]
        exact expand_incomplete valid
    | code parts code valid spelled among forbidden =>
        rw [spelled]
        refine expand_forbidden valid among ?_
        rcases forbidden with quoted | unknown | ⟨file, _⟩
        · exact .inl (atLeast quoted)
        · exact .inr (.inl unknown)
        · exact .inr (.inr file)

theorem Reading.mem_after
    {reading : Reading}
    {argument : List Char × Bool}
    (member : argument ∈ reading.arguments)
    (segment : Segment) :
    argument ∈ (reading.after segment).arguments := by
  cases segment with
  | blank character =>
      change argument ∈ reading.separated.arguments
      unfold separated
      split
      · exact member
      · exact List.mem_append_left _ member
  | bare character => exact member
  | escaped character => exact member
  | double items => exact member
  | single text => exact member

theorem Reading.mem_finished
    {reading : Reading}
    {argument : List Char × Bool}
    (member : argument ∈ reading.arguments) :
    argument ∈ reading.finished := by
  unfold finished
  split
  · exact member
  · exact List.mem_append_left _ member

/-- An argument that has ended stays. -/
theorem mem_finished_foldl
    (segments : List Segment)
    {reading : Reading}
    {argument : List Char × Bool}
    (member : argument ∈ reading.arguments) :
    argument ∈ (segments.foldl Reading.after reading).finished := by
  induction segments generalizing reading with
  | nil => exact reading.mem_finished member
  | cons segment later inductionHypothesis =>
      exact inductionHypothesis (reading.mem_after member segment)

/-- Every word of a line is one of its arguments, or empty.  An argument may
be taken for quoted when its word is not. -/
theorem mem_finished_of_mem_words
    {segments : List Segment}
    (reading : Reading)
    {quoted : Bool}
    (atLeast : quoted = true → reading.argumentWasQuoted = true)
    {word : Word}
    (member : word ∈ wordsFrom ⟨reading.argument, quoted⟩ segments)
    (solid : word.text ≠ []) :
    ∃ wasQuoted, (word.quoted = true → wasQuoted = true) ∧
      (word.text, wasQuoted) ∈
        (segments.foldl Reading.after reading).finished := by
  induction segments generalizing reading quoted with
  | nil =>
      cases List.mem_singleton.mp member
      refine ⟨reading.argumentWasQuoted, atLeast, ?_⟩
      change _ ∈ reading.finished
      rw [Reading.finished, if_neg solid]
      exact List.mem_append_right _ List.mem_cons_self
  | cons segment later inductionHypothesis =>
      have added : ∀ text isQuoted,
          word ∈ wordsFrom ⟨reading.argument ++ text, quoted || isQuoted⟩
            later →
          ∃ wasQuoted, (word.quoted = true → wasQuoted = true) ∧
            (word.text, wasQuoted) ∈ (later.foldl Reading.after
              (reading.add text isQuoted)).finished := by
        intro text isQuoted among
        refine inductionHypothesis (reading.add text isQuoted) ?_ among
        intro either
        rcases Bool.or_eq_true_iff.mp either with before | now
        · exact Bool.or_eq_true_iff.mpr (.inl (atLeast before))
        · exact Bool.or_eq_true_iff.mpr (.inr now)
      cases segment with
      | blank character =>
          rcases List.mem_cons.mp member with rfl | among
          · refine ⟨reading.argumentWasQuoted, atLeast, ?_⟩
            refine mem_finished_foldl later ?_
            change _ ∈ reading.separated.arguments
            rw [Reading.separated, if_neg solid]
            exact List.mem_append_right _ List.mem_cons_self
          · have fresh : false = true →
                reading.separated.argumentWasQuoted = true := by simp
            refine inductionHypothesis reading.separated fresh ?_
            rw [Reading.separated_argument]
            exact among
      | bare character => exact added _ _ member
      | escaped character => exact added _ _ member
      | double items => exact added _ _ member
      | single text => exact added _ _ member

/-- What fails for one argument fails for all of them. -/
theorem expandAll_error
    {entry : Entry}
    {arguments : List (List Char × Bool)}
    {text : List Char}
    {wasQuoted : Bool}
    (member : (text, wasQuoted) ∈ arguments)
    (fails : ∃ error, expandFieldCodes entry text wasQuoted = .error error) :
    ∃ error, expandAll entry arguments = .error error := by
  induction arguments with
  | nil => cases member
  | cons first later inductionHypothesis =>
      rcases List.mem_cons.mp member with rfl | among
      · obtain ⟨error, isError⟩ := fails
        exact ⟨error, by rw [expandAll, isError]; rfl⟩
      · rw [expandAll]
        cases expandFieldCodes entry first.1 first.2 with
        | error error => exact ⟨error, rfl⟩
        | ok expanded => exact map_error (inductionHypothesis among)

/-- A line with a misplaced code is no command. -/
theorem parseExec_misplaced
    {segments : List Segment}
    (valid : ∀ segment ∈ segments, segment.Valid)
    {word : Word}
    (member : word ∈ words segments)
    (misplaced : Misplaced word)
    (entry : Entry) :
    ∃ error, parseExec (spellAll segments) entry = .error error := by
  have solid : word.text ≠ [] := by
    intro empty
    cases misplaced with
    | incomplete parts partsValid spelled =>
        rw [empty] at spelled
        simp at spelled
    | code parts code partsValid spelled among forbidden =>
        rw [empty] at spelled
        have nothing := List.flatMap_eq_nil_iff.mp spelled.symm _ among
        cases nothing
  obtain ⟨same, unquoted⟩ := readCharacters_spellAll valid .start rfl []
  obtain ⟨wasQuoted, atLeast, argument⟩ := mem_finished_of_mem_words .start
    (fun absurd => by cases absurd) member solid
  have fails := expandAll_error argument
    (expandFieldCodes_misplaced misplaced atLeast entry)
  rw [List.append_nil] at same
  obtain ⟨error, isError⟩ := fails
  refine ⟨error, ?_⟩
  rw [parseExec, same]
  change (if _ then _ else _) = _
  rw [unquoted]
  exact isError

/-! ## Lines that are quoted -/

/-- The character as it is quoted. -/
def quotedCharacter (character : Char) : List Char :=
  if isEscapable character then [backslash, character] else [character]

/-- What a caller puts into a line: an argument, or the code of a file. -/
inductive Token
  | argument (text : List Char)
  | code (character : Char)

namespace Token

/-- Arguments have no percent sign, and codes are of files. -/
def Valid : Token → Prop
  | argument text => percent ∉ text
  | code character => isFileCode character = true

/-- Arguments are quoted, and codes are not. -/
def spell : Token → List Char
  | argument text =>
      quotationMark :: (text.flatMap quotedCharacter ++ [quotationMark])
  | code character => [percent, character]

def segments : Token → List Segment
  | argument text =>
      [.double (text.map fun character =>
        if isEscapable character then .escaped character
        else .plain character)]
  | code character => [.bare percent, .bare character]

end Token

/-- The line of some tokens, joined with blanks. -/
def lineOf (tokens : List Token) : List Char :=
  [' '].intercalate (tokens.map Token.spell)

/-- The arguments among some tokens. -/
def argumentsOf : List Token → List (List Char)
  | [] => []
  | .argument text :: later => text :: argumentsOf later
  | .code _ :: later => argumentsOf later

/-- The segments of a line. -/
def segmentsOf : List Token → List Segment
  | [] => []
  | [token] => token.segments
  | token :: later => token.segments ++ .blank ' ' :: segmentsOf later

namespace Token

def text : Token → List Char
  | argument text => text
  | code character => [percent, character]

def isArgument : Token → Bool
  | argument _ => true
  | code _ => false

variable {token : Token}

theorem segments_valid
    (valid : token.Valid) :
    ∀ segment ∈ token.segments, segment.Valid := by
  cases token with
  | argument text =>
      intro segment member
      cases List.mem_singleton.mp member
      intro item among
      obtain ⟨character, _, rfl⟩ := List.mem_map.mp among
      split
      case isTrue escapable => exact escapable
      case isFalse plain =>
          refine ⟨?_, ?_⟩
          · rintro rfl
            exact plain (by decide)
          · rintro rfl
            exact plain (by decide)
  | code character =>
      have percentBare : (Segment.bare percent).Valid :=
        ⟨by decide, by decide, by decide, by decide⟩
      have bare : (Segment.bare character).Valid := by
        have file : character = 'f' ∨ character = 'F' ∨ character = 'u' ∨
            character = 'U' := by
          simpa [Valid, isFileCode] using valid
        rcases file with rfl | rfl | rfl | rfl
        all_goals exact ⟨by decide, by decide, by decide, by decide⟩
      intro segment member
      rcases List.mem_cons.mp member with rfl | second
      · exact percentBare
      · cases List.mem_singleton.mp second
        exact bare

theorem spellAll_segments
    (token : Token) :
    spellAll token.segments = token.spell := by
  cases token with
  | argument text =>
      have same : (text.map fun character =>
          if isEscapable character then Item.escaped character
          else Item.plain character).flatMap Item.spell =
            text.flatMap quotedCharacter := by
        rw [List.flatMap_map]
        congr 1
        funext character
        unfold quotedCharacter
        split <;> rfl
      simp [spellAll, segments, Segment.spell, spell, same]
  | code character => rfl

/-- A token is added to the argument. -/
theorem foldl_segments
    (token : Token)
    (reading : Reading) :
    token.segments.foldl Reading.after reading =
      reading.add token.text token.isArgument := by
  cases token with
  | argument text =>
      have same : (text.map fun character =>
          if isEscapable character then Item.escaped character
          else Item.plain character).map Item.character = text := by
        rw [List.map_map]
        refine (List.map_congr_left fun character _ => ?_).trans
          (List.map_id text)
        change Item.character (if _ then _ else _) = character
        split <;> rfl
      change reading.add (Segment.text (.double _)) true = _
      rw [Segment.text, same]
      rfl
  | code character =>
      simp [segments, Reading.after, Reading.add, Segment.text,
        Segment.isQuoted, text, isArgument]

end Token

theorem segmentsOf_valid
    {tokens : List Token}
    (valid : ∀ token ∈ tokens, token.Valid) :
    ∀ segment ∈ segmentsOf tokens, segment.Valid := by
  induction tokens with
  | nil => simp [segmentsOf]
  | cons token later inductionHypothesis =>
      have first := Token.segments_valid (valid token List.mem_cons_self)
      have rest := inductionHypothesis fun other among =>
        valid other (List.mem_cons_of_mem _ among)
      cases later with
      | nil => exact first
      | cons next later =>
          intro segment member
          rcases List.mem_append.mp member with inFirst | behind
          · exact first segment inFirst
          · rcases List.mem_cons.mp behind with rfl | inRest
            · exact (by decide : isWhitespace ' ' = true)
            · exact rest segment inRest

/-- The line of some tokens is made of their segments. -/
theorem spellAll_segmentsOf
    (tokens : List Token) :
    spellAll (segmentsOf tokens) = lineOf tokens := by
  induction tokens with
  | nil => rfl
  | cons token later inductionHypothesis =>
      cases later with
      | nil =>
          rw [segmentsOf, Token.spellAll_segments]
          simp [lineOf, List.intercalate]
      | cons next later =>
          have split : lineOf (token :: next :: later) =
              token.spell ++ ' ' :: lineOf (next :: later) := by
            simp [lineOf, List.intercalate]
          rw [split, ← inductionHypothesis, ← Token.spellAll_segments]
          simp [spellAll, segmentsOf, Segment.spell]

/-- What is read of a line.  An argument that is empty is no argument, but what
follows it is taken for quoted. -/
def readTokens (quoted : Bool) : List Token → List (List Char × Bool)
  | [] => []
  | token :: later =>
      if token.text = [] then
        readTokens (quoted || token.isArgument) later
      else
        (token.text, quoted || token.isArgument) :: readTokens false later

theorem finished_segmentsOf
    (tokens : List Token)
    (reading : Reading)
    (fresh : reading.argument = []) :
    ((segmentsOf tokens).foldl Reading.after reading).finished =
      reading.arguments ++ readTokens reading.argumentWasQuoted tokens := by
  induction tokens generalizing reading with
  | nil => simp [segmentsOf, Reading.finished, fresh, readTokens]
  | cons token later inductionHypothesis =>
      cases later with
      | nil =>
          rw [segmentsOf, Token.foldl_segments, Reading.finished,
            Reading.add, fresh, List.nil_append]
          by_cases empty : token.text = []
          · simp [readTokens, empty]
          · simp [readTokens, empty]
      | cons next later =>
          have rest := inductionHypothesis
            (reading.add token.text token.isArgument).separated
            (Reading.separated_argument _)
          have apart : segmentsOf (token :: next :: later) =
              token.segments ++ .blank ' ' :: segmentsOf (next :: later) :=
            rfl
          rw [apart, List.foldl_append, Token.foldl_segments]
          refine rest.trans ?_
          unfold Reading.separated Reading.add
          rw [fresh, List.nil_append]
          by_cases empty : token.text = []
          · simp [readTokens, empty]
          · simp [readTokens, empty]

theorem parseExec_lineOf
    {tokens : List Token}
    (valid : ∀ token ∈ tokens, token.Valid)
    (entry : Entry) :
    parseExec (lineOf tokens) entry =
      expandAll entry (readTokens false tokens) := by
  obtain ⟨same, unquoted⟩ :=
    readCharacters_spellAll (segmentsOf_valid valid) .start rfl []
  have finished := finished_segmentsOf tokens .start rfl
  rw [List.append_nil, spellAll_segmentsOf] at same
  rw [parseExec, same]
  change (if _ then _ else _) = _
  rw [unquoted]
  change expandAll entry (Reading.finished _) = _
  rw [finished]
  rfl

/-! ## What comes back -/

theorem expandCharacters_of_notMem
    {text : List Char}
    (plain : percent ∉ text)
    (entry : Entry)
    (wasQuoted : Bool) :
    expandCharacters entry wasQuoted text = .ok text := by
  induction text with
  | nil => rfl
  | cons character later inductionHypothesis =>
      have different : character ≠ percent := by
        rintro rfl
        exact plain List.mem_cons_self
      rw [expand_plain different,
        inductionHypothesis (List.not_mem_of_not_mem_cons plain)]
      rfl

/-- An argument without a percent sign is what it is, unless it is empty. -/
theorem expandFieldCodes_of_notMem
    {text : List Char}
    (plain : percent ∉ text)
    (solid : text ≠ [])
    (entry : Entry)
    (wasQuoted : Bool) :
    expandFieldCodes entry text wasQuoted = .ok [text] := by
  have noCode : ∀ code, text ≠ [percent, code] := by
    rintro code rfl
    exact plain List.mem_cons_self
  have noFile : text ∉ [[percent, 'f'], [percent, 'F'], [percent, 'u'],
      [percent, 'U']] := by
    simp [noCode]
  unfold expandFieldCodes
  rw [if_neg noFile, if_neg (noCode 'i'),
    expandCharacters_of_notMem plain]
  change (if _ then _ else _) = _
  rw [if_neg solid]

/-- The code of a file is dropped, or is an error in quotes. -/
theorem expandFieldCodes_file
    {code : Char}
    (file : isFileCode code = true)
    (entry : Entry)
    (wasQuoted : Bool) :
    expandFieldCodes entry [percent, code] wasQuoted =
      if wasQuoted then
        .error "desktop entry has a quoted file field code"
      else
        .ok [] := by
  have isFile : [percent, code] ∈ [[percent, 'f'], [percent, 'F'],
      [percent, 'u'], [percent, 'U']] := by
    simpa [isFileCode] using file
  unfold expandFieldCodes
  rw [if_pos isFile]

/-- Tokens without an empty argument come back as their arguments. -/
theorem expandAll_readTokens
    {tokens : List Token}
    (valid : ∀ token ∈ tokens, token.Valid)
    (solid : [] ∉ argumentsOf tokens)
    (entry : Entry) :
    expandAll entry (readTokens false tokens) = .ok (argumentsOf tokens) := by
  induction tokens with
  | nil => rfl
  | cons token later inductionHypothesis =>
      have tokenValid := valid token List.mem_cons_self
      have restValid : ∀ other ∈ later, other.Valid := fun other among =>
        valid other (List.mem_cons_of_mem _ among)
      cases token with
      | argument text =>
          have first : text ≠ [] := fun empty =>
            solid (empty ▸ List.mem_cons_self)
          have read : readTokens false (.argument text :: later) =
              (text, true) :: readTokens false later := by
            simp [readTokens, Token.text, Token.isArgument, first]
          rw [read, expandAll, expandFieldCodes_of_notMem tokenValid first,
            inductionHypothesis restValid
              (List.not_mem_of_not_mem_cons solid)]
          rfl
      | code character =>
          have read : readTokens false (.code character :: later) =
              ([percent, character], false) :: readTokens false later := by
            simp [readTokens, Token.text, Token.isArgument]
          rw [read, expandAll, expandFieldCodes_file tokenValid,
            inductionHypothesis restValid solid]
          rfl

/-- No argument that comes back is empty. -/
theorem solid_of_expandAll
    {tokens : List Token}
    (valid : ∀ token ∈ tokens, token.Valid)
    {entry : Entry}
    {quoted : Bool}
    {results : List (List Char)}
    (expanded : expandAll entry (readTokens quoted tokens) = .ok results) :
    [] ∉ results := by
  induction tokens generalizing quoted results with
  | nil =>
      cases expanded
      exact List.not_mem_nil
  | cons token later inductionHypothesis =>
      have tokenValid := valid token List.mem_cons_self
      have restValid : ∀ other ∈ later, other.Valid := fun other among =>
        valid other (List.mem_cons_of_mem _ among)
      rw [readTokens] at expanded
      split at expanded
      case isTrue empty => exact inductionHypothesis restValid expanded
      case isFalse solid =>
          rw [expandAll] at expanded
          cases token with
          | argument text =>
              rw [Token.text,
                expandFieldCodes_of_notMem tokenValid solid] at expanded
              cases behind : expandAll entry (readTokens false later) with
              | error error => rw [behind] at expanded; cases expanded
              | ok rest =>
                  rw [behind] at expanded
                  cases expanded
                  intro member
                  rcases List.mem_cons.mp member with empty | among
                  · exact solid empty.symm
                  · exact inductionHypothesis restValid behind among
          | code character =>
              rw [Token.text, expandFieldCodes_file tokenValid] at expanded
              split at expanded
              case isTrue inQuotes => cases expanded
              case isFalse unquoted =>
                  cases behind : expandAll entry (readTokens false later) with
                  | error error => rw [behind] at expanded; cases expanded
                  | ok rest =>
                      rw [behind] at expanded
                      cases expanded
                      exact inductionHypothesis restValid behind

/-- Arguments that are quoted come back as they were, and codes of files are
dropped from among them, exactly when no argument is empty.  A line that is
broken off or not complete in another way, or has a code that is misplaced or
unknown, is an error. -/
theorem exec_lines_come_back_iff
    (entry : Entry) :
    (∀ tokens : List Token, (∀ token ∈ tokens, token.Valid) →
      (parseExec (lineOf tokens) entry = .ok (argumentsOf tokens) ↔
        [] ∉ argumentsOf tokens)) ∧
    (∀ (segments : List Segment) (tail : List Char),
      (∀ segment ∈ segments, segment.Valid) → Broken tail →
      ∃ error,
        parseExec (spellAll segments ++ tail) entry = .error error) ∧
    (∀ (value : List Char) (results : List (List Char)),
      parseExec value entry = .ok results →
      ∃ segments : List Segment, (∀ segment ∈ segments, segment.Valid) ∧
        spellAll segments = value) ∧
    (∀ segments : List Segment, (∀ segment ∈ segments, segment.Valid) →
      ∀ word ∈ words segments, Misplaced word →
      ∃ error, parseExec (spellAll segments) entry = .error error) := by
  refine ⟨?_, ?_, fun value results => complete_of_parseExec, ?_⟩
  · intro tokens valid
    rw [parseExec_lineOf valid]
    exact ⟨solid_of_expandAll valid,
      fun solid => expandAll_readTokens valid solid entry⟩
  · intro segments tail valid broken
    exact parseExec_broken valid broken entry
  · intro segments valid word member misplaced
    exact parseExec_misplaced valid member misplaced entry

/-- An empty argument is lost. -/
theorem empty_argument_is_lost :
    parseExec (lineOf [.argument ['a'], .argument []]) ⟨['/'], none, none⟩ =
        .ok [['a']] ∧
      parseExec (lineOf [.argument ['a'], .argument []]) ⟨['/'], none, none⟩ ≠
        .ok (argumentsOf [.argument ['a'], .argument []]) := by
  refine ⟨rfl, ?_⟩
  intro same
  cases same

end ExecLine
end Bridge
end Hearthdeck
