import Hearthdeck.Foundation.Frames
import Hearthdeck.Protocol.Input

/-!
# Framing on the input socket

A value crosses the socket as one line of JSON.  The writer refuses a line
longer than the limit before it sends any of it; the reader gives up on the
byte that makes a line longer than the limit.  The two agree at the limit, so
what a reader reads is what was written, however the bytes arrive.

Writing and reading JSON is the business of another library, and a parameter
here.
-/

namespace Hearthdeck
namespace Protocol
namespace Transport

open Foundation.Frames

/-- `b'\n'`. -/
def newline : UInt8 := 10

/-- The longest line accepted (`input::MAX_FRAME`). -/
def maxFrame : Nat := 1024

/-- The kinds of `io::Error` told apart. -/
inductive ErrorKind
  | invalidData
  | other
  | external
  deriving DecidableEq, Repr

/-- `io::Error`. -/
structure IoError where
  kind : ErrorKind
  text : String
  deriving DecidableEq, Repr

/-- `io::Error::other`. -/
def IoError.other (text : String) : IoError := ⟨.other, text⟩

/-- The error of both sides for a line past the limit. -/
def frameTooLarge : IoError := ⟨.invalidData, "input frame too large"⟩

/-- `serde_json` for one type: `to_vec` and `from_slice`. -/
structure Json (Value : Type) where
  toVec : Value → Except String (List UInt8)
  fromSlice : List UInt8 → Except String Value

/-- What the transport relies on: every value has an encoding, which is one
line and reads back as the value. -/
structure Json.Lawful {Value : Type} (json : Json Value) : Prop where
  encodes : ∀ value, ∃ body, json.toVec value = .ok body
  oneLine : ∀ value body, json.toVec value = .ok body → newline ∉ body
  decodes : ∀ value body, json.toVec value = .ok body →
    json.fromSlice body = .ok value

variable {Value : Type} (json : Json Value)

/-! ## Reading -/

/-- The reading end of a connection: what has arrived in pieces, and the error
once it has run out. -/
structure Reader where
  arrivals : List (List UInt8)
  ending : IoError

/-- The bytes a reader has before it. -/
def Reader.stream (reader : Reader) : List UInt8 :=
  reader.arrivals.flatten

/-- `read_u8`. -/
def Reader.readU8 (reader : Reader) : Except IoError (UInt8 × Reader) :=
  match takeByte reader.arrivals with
  | none => .error reader.ending
  | some (byte, arrivals) => .ok (byte, { reader with arrivals })

/-- The loop of `read`, with the bytes pushed so far. -/
def readFrom
    (bytes : List UInt8)
    (reader : Reader) : Except IoError Value × Reader :=
  match reader.readU8 with
  | .error error => (.error error, reader)
  | .ok (byte, reader) =>
      if byte = newline then
        ((json.fromSlice bytes).mapError IoError.other, reader)
      else if maxFrame < (bytes ++ [byte]).length then
        (.error frameTooLarge, reader)
      else
        readFrom (bytes ++ [byte]) reader
  termination_by maxFrame - bytes.length
  decreasing_by
    simp only [List.length_append, List.length_singleton] at *
    omega

/-- `transport::read`. -/
def read (reader : Reader) : Except IoError Value × Reader :=
  readFrom json [] reader

/-- Successive calls of `read` on one connection. -/
def readAll : Nat → Reader → List (Except IoError Value) × Reader
  | 0, reader => ([], reader)
  | count + 1, reader =>
      let (value, reader) := read json reader
      let (values, reader) := readAll count reader
      (value :: values, reader)

/-- What `read` makes of the front of its stream, and the stream it leaves. -/
def outcome
    (ending : IoError) : Sight UInt8 → Except IoError Value × List UInt8
  | .frame body rest => ((json.fromSlice body).mapError IoError.other, rest)
  | .oversized rest => (.error frameTooLarge, rest)
  | .unfinished => (.error ending, [])

theorem stream_of_readU8_eq_error
    {reader : Reader}
    {error : IoError}
    (ends : reader.readU8 = .error error) :
    reader.stream = [] ∧ error = reader.ending := by
  rw [Reader.readU8] at ends
  split at ends
  case h_1 none_left =>
      cases ends
      exact ⟨flatten_of_takeByte_eq_none none_left, rfl⟩
  case h_2 => cases ends

theorem stream_of_readU8_eq_ok
    {reader rest : Reader}
    {byte : UInt8}
    (takes : reader.readU8 = .ok (byte, rest)) :
    reader.stream = byte :: rest.stream ∧ rest.ending = reader.ending := by
  rw [Reader.readU8] at takes
  split at takes
  case h_1 => cases takes
  case h_2 found =>
      cases takes
      exact ⟨flatten_of_takeByte_eq_some found, rfl⟩

/-- The loop sees what stands at the front of the pushed bytes and the stream,
however it arrives. -/
theorem readFrom_eq_outcome
    (bytes : List UInt8)
    (reader : Reader)
    (whole : newline ∉ bytes)
    (fits : bytes.length ≤ maxFrame) :
    ((readFrom json bytes reader).1, (readFrom json bytes reader).2.stream) =
      outcome json reader.ending
        (sight newline maxFrame (bytes ++ reader.stream)) := by
  induction bytes, reader using readFrom.induct with
  | case1 bytes reader error ends =>
      obtain ⟨isEmpty, rfl⟩ := stream_of_readU8_eq_error ends
      rw [readFrom, ends, isEmpty, List.append_nil,
        sight_unfinished whole fits, outcome]
  | case2 bytes reader rest takes =>
      obtain ⟨isStream, _⟩ := stream_of_readU8_eq_ok takes
      rw [readFrom, takes, isStream, sight_mark whole fits, outcome]
      simp
  | case3 bytes reader byte rest takes differs exceeds =>
      obtain ⟨isStream, _⟩ := stream_of_readU8_eq_ok takes
      have wholePushed : newline ∉ bytes ++ [byte] := by
        simp [whole, Ne.symm differs]
      have length : (bytes ++ [byte]).length = maxFrame + 1 := by
        simp only [List.length_append, List.length_singleton] at exceeds ⊢
        omega
      rw [readFrom, takes, isStream, List.append_cons,
        sight_oversized wholePushed exceeds, ← length, List.drop_left, outcome]
      simp only [if_neg differs, if_pos exceeds]
  | case4 bytes reader byte rest takes differs within ih =>
      obtain ⟨isStream, isEnding⟩ := stream_of_readU8_eq_ok takes
      have wholePushed : newline ∉ bytes ++ [byte] := by
        simp [whole, Ne.symm differs]
      have again := ih wholePushed (Nat.not_lt.mp within)
      rw [isEnding] at again
      rw [isStream, List.append_cons, ← again, readFrom, takes]
      simp only [if_neg differs, if_neg within]

/-- Reading depends on the bytes alone. -/
theorem read_eq_outcome (reader : Reader) :
    ((read json reader).1, (read json reader).2.stream) =
      outcome json reader.ending (sight newline maxFrame reader.stream) :=
  readFrom_eq_outcome json [] reader (by simp) (by simp)

/-- A line within the limit is read as what it decodes to. -/
theorem read_frame
    {body rest : List UInt8}
    {reader : Reader}
    (whole : newline ∉ body)
    (fits : body.length ≤ maxFrame)
    (arrives : reader.stream = body ++ newline :: rest) :
    (read json reader).1 = (json.fromSlice body).mapError IoError.other ∧
      (read json reader).2.stream = rest := by
  have seen := read_eq_outcome json reader
  rw [arrives, sight_mark whole fits] at seen
  exact Prod.mk.inj seen

/-- A line past the limit is refused at the first byte past it. -/
theorem read_oversized
    {body rest : List UInt8}
    {reader : Reader}
    (whole : newline ∉ body)
    (exceeds : maxFrame < body.length)
    (arrives : reader.stream = body ++ rest) :
    (read json reader).1 = .error frameTooLarge ∧
      (read json reader).2.stream = (body ++ rest).drop (maxFrame + 1) := by
  have seen := read_eq_outcome json reader
  rw [arrives, sight_oversized whole exceeds] at seen
  exact Prod.mk.inj seen

/-! ## Writing -/

/-- How `write_all` ends under its timeout: with everything on the wire, or
with an error or out of time after some of it. -/
inductive Sending
  | whole
  | failed (count : Nat) (error : IoError)
  | elapsed (count : Nat)

/-- The result of sending, and what it puts on the wire. -/
def Sending.result
    (frame : List UInt8) : Sending → Except IoError Unit × List UInt8
  | .whole => (.ok (), frame)
  | .failed count error => (.error error, frame.take count)
  | .elapsed count =>
      (.error (IoError.other "deadline has elapsed"), frame.take count)

/-- `transport::write`: its result, and the wire after it. -/
def write
    (value : Value)
    (sending : Sending)
    (wire : List UInt8) : Except IoError Unit × List UInt8 :=
  match json.toVec value with
  | .error text => (.error (IoError.other text), wire)
  | .ok bytes =>
      if maxFrame < bytes.length then
        (.error frameTooLarge, wire)
      else
        let (result, sent) := sending.result (bytes ++ [newline])
        (result, wire ++ sent)

/-- Successive calls of `write` on one connection. -/
def writeAll : List (Value × Sending) → List UInt8 →
    List (Except IoError Unit) × List UInt8
  | [], wire => ([], wire)
  | (value, sending) :: writes, wire =>
      let (result, wire) := write json value sending wire
      let (results, wire) := writeAll writes wire
      (result :: results, wire)

/-- The values whose write came back without an error. -/
def accepted :
    List (Value × Sending) → List (Except IoError Unit) → List Value
  | (value, _) :: writes, .ok () :: results => value :: accepted writes results
  | _ :: writes, .error _ :: results => accepted writes results
  | _, _ => []

variable {json}

/-- A write refuses a line past the limit and leaves the wire alone. -/
theorem write_eq_of_oversized
    {value : Value}
    {body : List UInt8}
    (encodes : json.toVec value = .ok body)
    (exceeds : maxFrame < body.length)
    (sending : Sending)
    (wire : List UInt8) :
    write json value sending wire = (.error frameTooLarge, wire) := by
  simp [write, encodes, exceeds]

/-- A write of any other line appends its frame, when the socket takes it. -/
theorem write_eq_of_fits
    {value : Value}
    {body : List UInt8}
    (encodes : json.toVec value = .ok body)
    (fits : body.length ≤ maxFrame)
    (wire : List UInt8) :
    write json value .whole wire =
      (.ok (), wire ++ (body ++ [newline])) := by
  simp [write, encodes, Nat.not_lt.mpr fits, Sending.result]

/-- Reading as often as writes were accepted reads the accepted values, and
leaves what follows them. -/
theorem readAll_of_writeAll
    (lawful : json.Lawful)
    (writes : List (Value × Sending))
    (taken : ∀ write ∈ writes, write.2 = .whole) :
    ∀ wire : List UInt8, ∃ sent,
      (writeAll json writes wire).2 = wire ++ sent ∧
        ∀ (reader : Reader) (rest : List UInt8),
          reader.stream = sent ++ rest →
          let values := accepted writes (writeAll json writes wire).1
          (readAll json values.length reader).1 = values.map .ok ∧
            (readAll json values.length reader).2.stream = rest := by
  induction writes with
  | nil =>
      intro wire
      refine ⟨[], by simp [writeAll], fun reader rest arrives => ?_⟩
      simpa [accepted, readAll] using arrives
  | cons first writes ih =>
      obtain ⟨value, sending⟩ := first
      have isWhole : sending = .whole := taken _ (List.mem_cons_self ..)
      have ih := ih fun write isIn => taken write (List.mem_cons_of_mem _ isIn)
      subst isWhole
      intro wire
      obtain ⟨body, encodes⟩ := lawful.encodes value
      by_cases exceeds : maxFrame < body.length
      · have refused := write_eq_of_oversized encodes exceeds .whole wire
        simpa only [writeAll, refused, accepted] using ih wire
      · have fits := Nat.not_lt.mp exceeds
        have written := write_eq_of_fits encodes fits wire
        obtain ⟨sent, isSent, reads⟩ := ih (wire ++ (body ++ [newline]))
        refine ⟨body ++ [newline] ++ sent, ?_, fun reader rest arrives => ?_⟩
        · simp only [writeAll, written, isSent, List.append_assoc]
        · have frameFirst :
              reader.stream = body ++ newline :: (sent ++ rest) := by
            simpa using arrives
          obtain ⟨isValue, isLeft⟩ := read_frame json
            (lawful.oneLine value body encodes) fits frameFirst
          rw [lawful.decodes value body encodes] at isValue
          obtain ⟨areValues, isRest⟩ := reads _ rest isLeft
          simp only [writeAll, written, accepted, List.length_cons, readAll,
            List.map_cons, isValue, areValues, isRest]
          simp [Except.mapError]

/-! ## The first line of a connection -/

/-- The name `serde_json` gives a role. -/
def roleName : Role → String
  | .frontend => "Frontend"
  | .overlay => "Overlay"

/-- The name `serde_json` gives a delivery. -/
def deliveryName : Delivery → String
  | .observe => "Observe"
  | .handoff => "Handoff"
  | .frontend => "Frontend"
  | .textEntry => "TextEntry"
  | .overlay => "Overlay"

def roles : List Role := [.frontend, .overlay]

def deliveries : List Delivery :=
  [.observe, .handoff, .frontend, .textEntry, .overlay]

/-- What opens a greeting. -/
def opening : List Char := "\x7b\x22version\x22:".toList

/-- What follows the version in a greeting. -/
def surface (role : Role) (delivery : Delivery) : List Char :=
  ",\x22role\x22:\x22".toList ++ (roleName role).toList ++
    "\x22,\x22delivery\x22:\x22".toList ++ (deliveryName delivery).toList ++
      "\x22\x7d".toList

/-- The compact JSON of a greeting. -/
def helloText (hello : Hello) : List Char :=
  opening ++ (Nat.toDigits 10 hello.version ++
    surface hello.role hello.delivery)

/-- `to_vec` and `from_slice` of a greeting as the socket carries it. -/
def helloJson : Json Hello where
  toVec hello := .ok ((helloText hello).map fun char => UInt8.ofNat char.toNat)
  fromSlice bytes :=
    let text := (bytes.map fun byte => Char.ofNat byte.toNat).drop 11
    let named := roles.flatMap fun role => deliveries.map fun delivery =>
      (role, delivery)
    match named.find? fun names =>
        surface names.1 names.2 == text.dropWhile Char.isDigit with
    | some (role, delivery) => .ok
        { version := Nat.ofDigitChars 10 (text.takeWhile Char.isDigit) 0
          role
          delivery }
    | none => .error "not a greeting"

theorem surface_ascii (role : Role) (delivery : Delivery) :
    (surface role delivery).all (fun char => char.toNat < 128 ∧ char ≠ '\n') =
      true := by
  cases role <;> cases delivery <;> decide +kernel

theorem surface_head (role : Role) (delivery : Delivery) :
    ∃ rest, surface role delivery = ',' :: rest := by
  cases role <;> cases delivery <;> exact ⟨_, rfl⟩

theorem find?_surface (role : Role) (delivery : Delivery) :
    ((roles.flatMap fun role => deliveries.map fun delivery =>
      (role, delivery)).find? fun names =>
        surface names.1 names.2 == surface role delivery) =
      some (role, delivery) := by
  cases role <;> cases delivery <;> decide +kernel

/-- A greeting is plain text in one line. -/
theorem helloText_ascii {hello : Hello} {char : Char}
    (isIn : char ∈ helloText hello) :
    char.toNat < 128 ∧ char ≠ '\n' := by
  rw [helloText, List.mem_append, List.mem_append] at isIn
  obtain inOpening | inVersion | inSurface := isIn
  · have plain : opening.all
        (fun char => char.toNat < 128 ∧ char ≠ '\n') = true := by
      decide +kernel
    simpa using List.all_eq_true.mp plain char inOpening
  · have isDigit :=
      Nat.isDigit_of_mem_toDigits (by decide) (by decide) inVersion
    simp only [Char.isDigit, Bool.and_eq_true, decide_eq_true_eq] at isDigit
    obtain ⟨atLeast, atMost⟩ := isDigit
    have small : char.toNat ≤ 57 := atMost
    refine ⟨by omega, fun same => ?_⟩
    subst same
    exact absurd atLeast (by decide)
  · have plain := surface_ascii hello.role hello.delivery
    simpa using List.all_eq_true.mp plain char inSurface

theorem ofNat_ascii {char : Char} (plain : char.toNat < 128) :
    Char.ofNat (UInt8.ofNat char.toNat).toNat = char := by
  have kept : (UInt8.ofNat char.toNat).toNat = char.toNat := by
    simp only [UInt8.toNat_ofNat']
    omega
  rw [kept, Char.ofNat_toNat]

/-- The JSON of greetings is what the transport relies on. -/
theorem helloJson_lawful : helloJson.Lawful where
  encodes hello := ⟨_, rfl⟩
  oneLine hello body encodes := by
    cases encodes
    intro isIn
    obtain ⟨char, inText, isNewline⟩ := List.mem_map.mp isIn
    obtain ⟨plain, differs⟩ := helloText_ascii inText
    have kept := ofNat_ascii plain
    rw [isNewline] at kept
    exact differs (by rw [← kept]; decide)
  decodes hello body encodes := by
    cases encodes
    have kept : (((helloText hello).map fun char =>
        UInt8.ofNat char.toNat).map fun byte => Char.ofNat byte.toNat) =
          helloText hello := by
      rw [List.map_map]
      exact (List.map_congr_left fun char isIn =>
        ofNat_ascii (helloText_ascii isIn).1).trans (List.map_id _)
    have afterOpening : (helloText hello).drop 11 =
        Nat.toDigits 10 hello.version ++ surface hello.role hello.delivery :=
      List.drop_left' (by decide +kernel)
    have areDigits : ∀ char ∈ Nat.toDigits 10 hello.version,
        char.isDigit = true := fun char isIn =>
      Nat.isDigit_of_mem_toDigits (by decide) (by decide) isIn
    obtain ⟨rest, isComma⟩ := surface_head hello.role hello.delivery
    have version : (Nat.toDigits 10 hello.version ++
        surface hello.role hello.delivery).takeWhile Char.isDigit =
          Nat.toDigits 10 hello.version := by
      rw [List.takeWhile_append_of_pos areDigits, isComma]
      simp
    have names : (Nat.toDigits 10 hello.version ++
        surface hello.role hello.delivery).dropWhile Char.isDigit =
          surface hello.role hello.delivery := by
      rw [List.dropWhile_append_of_pos areDigits, isComma]
      simp
    simp only [helloJson, kept, afterOpening, version, names, find?_surface,
      Nat.ofDigitChars_ten_toDigits]

/-! ## Round trip -/

/-- What is written is what is read. -/
theorem frames_round_trip
    (lawful : json.Lawful) :
    (∀ value wire,
      (∃ body, json.toVec value = .ok body ∧ maxFrame < body.length ∧
        ∀ sending,
          write json value sending wire = (.error frameTooLarge, wire)) ∨
      ∃ body, json.toVec value = .ok body ∧ body.length ≤ maxFrame ∧
        write json value .whole wire =
          (.ok (), wire ++ (body ++ [newline]))) ∧
    (∀ (writes : List (Value × Sending)) (reader : Reader)
      (rest : List UInt8),
      (∀ write ∈ writes, write.2 = .whole) →
      reader.stream = (writeAll json writes []).2 ++ rest →
      let values := accepted writes (writeAll json writes []).1
      (readAll json values.length reader).1 = values.map .ok ∧
        (readAll json values.length reader).2.stream = rest) ∧
    (∀ (body rest : List UInt8) (reader : Reader),
      newline ∉ body → maxFrame < body.length →
      reader.stream = body ++ newline :: rest →
      (read json reader).1 = .error frameTooLarge) ∧
    ∀ (body rest : List UInt8) (value : Value) (reader : Reader),
      newline ∉ body → body.length ≤ maxFrame →
      json.fromSlice body = .ok value →
      reader.stream = body ++ newline :: rest →
      (read json reader).1 = .ok value ∧
        (read json reader).2.stream = rest := by
  refine ⟨fun value wire => ?_, fun writes reader rest taken arrives => ?_,
    fun body rest reader whole exceeds arrives =>
      (read_oversized json whole exceeds arrives).1,
    fun body rest value reader whole fits decodes arrives => ?_⟩
  · obtain ⟨body, encodes⟩ := lawful.encodes value
    by_cases exceeds : maxFrame < body.length
    · exact .inl ⟨body, encodes, exceeds, fun sending =>
        write_eq_of_oversized encodes exceeds sending wire⟩
    · have fits := Nat.not_lt.mp exceeds
      exact .inr ⟨body, encodes, fits, write_eq_of_fits encodes fits wire⟩
  · obtain ⟨sent, isSent, reads⟩ := readAll_of_writeAll lawful writes taken []
    rw [isSent, List.nil_append] at arrives
    exact reads reader rest arrives
  · have reads := read_frame json whole fits arrives
    rwa [decodes] at reads

/-- Two greetings that arrive byte by byte. -/
theorem frames_round_trip_greetings :
    let writes : List (Hello × Sending) :=
      [(⟨1, .frontend, .observe⟩, .whole), (⟨1, .overlay, .overlay⟩, .whole)]
    let wire := (writeAll helloJson writes []).2
    (readAll helloJson 2 ⟨wire.map ([·]), IoError.other "closed"⟩).1 =
      [.ok ⟨1, .frontend, .observe⟩, .ok ⟨1, .overlay, .overlay⟩] := by
  intro writes wire
  have arrives : Reader.stream ⟨wire.map ([·]), IoError.other "closed"⟩ =
      wire ++ [] := by
    rw [Reader.stream, List.append_nil, ← List.flatMap_def]
    exact List.flatMap_singleton' wire
  have taken : ∀ write ∈ writes, write.2 = .whole := by
    simp [writes]
  exact ((frames_round_trip helloJson_lawful).2.1 writes _ [] taken arrives).1

end Transport
end Protocol
end Hearthdeck
