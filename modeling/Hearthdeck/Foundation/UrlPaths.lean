import Hearthdeck.Foundation.Pieces
import Mathlib.Data.List.Infix

/-!
# Paths of addresses

An address is read as the URL standard has it, for the schemes of the web.
Blanks at its ends and tabs and newlines in it do not count.  Behind the scheme
and the slashes is the authority, and behind that the path, up to a question
mark or a hash.  A backslash is a slash.  A segment of two dots takes back the
segment before it, and a dot in it may be spelled with a percent sign.

What an authority is read as is the work of a library.  Only that it is not
empty is asked of it here.
-/

namespace Hearthdeck
namespace Foundation
namespace UrlPath

/-- What stands between two slashes of a path. -/
abbrev Segment := List Char

/-! ## Characters -/

/-- C0 controls and the space. -/
def isBlank (character : Char) : Bool :=
  decide (character.toNat ≤ 0x20)

/-- Tabs and newlines. -/
def isSkipped (character : Char) : Bool :=
  character == '\t' || character == '\n' || character == '\r'

def isSlash (character : Char) : Bool :=
  character == '/' || character == '\\'

/-- What ends a path. -/
def endsPath (character : Char) : Bool :=
  character == '?' || character == '#'

/-- What an authority goes on with. -/
def inAuthority (character : Char) : Bool :=
  !(isSlash character || endsPath character)

/-! ## Texts -/

/-- A text without the blanks at its end. -/
def stripBack (text : List Char) : List Char :=
  (text.reverse.dropWhile isBlank).reverse

/-- What is read of a text that something stands before. -/
def visible (text : List Char) : List Char :=
  (stripBack text).filter fun character => !isSkipped character

/-- What is read of a text. -/
def cleaned (text : List Char) : List Char :=
  visible (text.dropWhile isBlank)

/-- The scheme, and what stands behind it. -/
def afterScheme (text : List Char) : Option (String × List Char) :=
  if "http:".toList.isPrefixOf (text.map Char.toLower) then
    some ("http", text.drop 5)
  else if "https:".toList.isPrefixOf (text.map Char.toLower) then
    some ("https", text.drop 6)
  else
    none

/-! ## Segments -/

/-- The segments of a path without its first slash. -/
def segments (text : List Char) : List Segment :=
  pieces '/' (text.map fun character =>
    if character = '\\' then '/' else character)

/-- A segment that takes back the one before it. -/
def isDoubleDot (segment : Segment) : Bool :=
  ["..".toList, ".%2e".toList, "%2e.".toList, "%2e%2e".toList].contains
    (segment.map Char.toLower)

/-- A segment that leads nowhere. -/
def isSingleDot (segment : Segment) : Bool :=
  [".".toList, "%2e".toList].contains (segment.map Char.toLower)

/-- A segment is read, with another one behind it. -/
def enter
    (encode : Segment → Segment)
    (kept : List Segment)
    (segment : Segment) : List Segment :=
  if isDoubleDot segment then
    kept.dropLast
  else if isSingleDot segment then
    kept
  else
    kept ++ [encode segment]

/-- The last segment is read. -/
def arrive
    (encode : Segment → Segment)
    (kept : List Segment)
    (segment : Segment) : List Segment :=
  if isDoubleDot segment then
    kept.dropLast ++ [[]]
  else if isSingleDot segment then
    kept ++ [[]]
  else
    kept ++ [encode segment]

/-- Segments are read. -/
def resolve
    (encode : Segment → Segment)
    (kept : List Segment) : List Segment → List Segment
  | [] => kept
  | [last] => arrive encode kept last
  | segment :: next :: later =>
      resolve encode (enter encode kept segment) (next :: later)

/-- The path of what stands behind an authority. -/
def pathOf
    (encode : Segment → Segment)
    (text : List Char) : List Segment :=
  resolve encode [] (segments
    (match text with
      | [] => []
      | head :: later => if isSlash head then later else head :: later))

/-- A path as text. -/
def render (path : List Segment) : List Char :=
  path.flatMap fun segment => '/' :: segment

/-! ## Percent encoding -/

/-- What is spelled with percent signs in a path. -/
def inPathSet (character : Char) : Bool :=
  character.toNat < 0x21 || 0x7E < character.toNat ||
    ['\x22', '#', '<', '>', '?', '^', '\x60', '\x7b', '\x7d'].contains
      character

def hexDigit (digit : Nat) : Char :=
  (Nat.digitChar digit).toUpper

/-- A byte spelled with a percent sign. -/
def percentByte (byte : UInt8) : List Char :=
  ['%', hexDigit (byte.toNat / 16), hexDigit (byte.toNat % 16)]

/-- A segment as an address has it. -/
def percentEncoded (segment : Segment) : Segment :=
  segment.flatMap fun character =>
    if inPathSet character then
      (String.utf8EncodeChar character).flatMap percentByte
    else
      [character]

/-! ## Addresses -/

/-- How authorities are read. -/
structure Hosts where
  read : List Char → Option String
  solid : read [] = none

/-- An address. -/
structure Url where
  scheme : String
  host : String
  path : List Segment

/-- An address is read. -/
def parse
    (hosts : Hosts)
    (encode : Segment → Segment)
    (text : List Char) : Option Url :=
  (afterScheme (cleaned text)).bind fun (scheme, behind) =>
    let rest := behind.dropWhile isSlash
    (hosts.read (rest.takeWhile inAuthority)).map fun host =>
      { scheme := scheme
        host := host
        path := pathOf encode
          ((rest.dropWhile inAuthority).takeWhile fun character =>
            !endsPath character) }

/-! ## How far a path climbs -/

/-- How many folders segments lead up, and the names they then lead down. -/
structure Climb where
  up : Nat
  down : List Segment
  deriving DecidableEq

/-- A climb goes on by a segment that is read with another one behind it. -/
def Climb.enter
    (encode : Segment → Segment)
    (climb : Climb)
    (segment : Segment) : Climb :=
  if isDoubleDot segment && climb.down.isEmpty then
    { up := climb.up + 1, down := [] }
  else
    { climb with down := UrlPath.enter encode climb.down segment }

/-- A climb ends with a segment. -/
def Climb.arrive
    (encode : Segment → Segment)
    (climb : Climb)
    (segment : Segment) : Climb :=
  if isDoubleDot segment && climb.down.isEmpty then
    { up := climb.up + 1, down := [[]] }
  else
    { climb with down := UrlPath.arrive encode climb.down segment }

/-- How far segments climb. -/
def Climb.along
    (encode : Segment → Segment)
    (climb : Climb) : List Segment → Climb
  | [] => climb
  | [last] => climb.arrive encode last
  | segment :: next :: later =>
      along encode (climb.enter encode segment) (next :: later)

/-- How far segments climb from where they start. -/
def climbOf (encode : Segment → Segment) (path : List Segment) : Climb :=
  Climb.along encode { up := 0, down := [] } path

/-- Where a climb leads from folders. -/
def Climb.goal (climb : Climb) (folders : List Segment) : List Segment :=
  folders.take (folders.length - climb.up) ++ climb.down

/-- A climb leads back down the folders it left, and further. -/
def Climb.LeadsBack (climb : Climb) (folders : List Segment) : Prop :=
  folders.drop (folders.length - climb.up) <+: climb.down ∧
    (folders.drop (folders.length - climb.up)).length < climb.down.length

instance (climb : Climb) (folders : List Segment) :
    Decidable (climb.LeadsBack folders) :=
  inferInstanceAs (Decidable (_ ∧ _))

variable {encode : Segment → Segment}

theorem dropLast_take
    (folders : List Segment)
    (count : Nat) :
    (folders.take (folders.length - count)).dropLast =
      folders.take (folders.length - (count + 1)) := by
  rw [List.dropLast_eq_take, List.length_take, List.take_take]
  congr 1
  omega

theorem Climb.goal_enter
    (climb : Climb)
    (folders : List Segment)
    (segment : Segment) :
    (climb.enter encode segment).goal folders =
      UrlPath.enter encode (climb.goal folders) segment := by
  obtain ⟨up, down⟩ := climb
  unfold Climb.enter UrlPath.enter Climb.goal
  cases double : isDoubleDot segment with
  | true =>
      cases down with
      | nil => simp [dropLast_take]
      | cons first later => simp [List.dropLast_append_of_ne_nil]
  | false =>
      cases isSingleDot segment with
      | true => simp
      | false => simp

theorem Climb.goal_arrive
    (climb : Climb)
    (folders : List Segment)
    (segment : Segment) :
    (climb.arrive encode segment).goal folders =
      UrlPath.arrive encode (climb.goal folders) segment := by
  obtain ⟨up, down⟩ := climb
  unfold Climb.arrive UrlPath.arrive Climb.goal
  cases double : isDoubleDot segment with
  | true =>
      cases down with
      | nil => simp [dropLast_take]
      | cons first later => simp [List.dropLast_append_of_ne_nil]
  | false =>
      cases isSingleDot segment with
      | true => simp
      | false => simp

/-- Segments lead from folders where they climb. -/
theorem Climb.goal_along
    (climb : Climb)
    (folders path : List Segment) :
    (Climb.along encode climb path).goal folders =
      resolve encode (climb.goal folders) path := by
  induction path generalizing climb with
  | nil => rfl
  | cons segment later inductionHypothesis =>
      cases later with
      | nil => exact climb.goal_arrive folders segment
      | cons next later =>
          change ((climb.enter encode segment).along encode
            (next :: later)).goal folders = resolve encode
              (UrlPath.enter encode (climb.goal folders) segment) _
          rw [inductionHypothesis, climb.goal_enter]

/-- What segments lead to from folders. -/
theorem goal_climbOf
    (folders path : List Segment) :
    (climbOf encode path).goal folders = resolve encode folders path := by
  unfold climbOf
  rw [Climb.goal_along]
  unfold Climb.goal
  rw [Nat.sub_zero, List.take_length, List.append_nil]

/-- A climb leads to something below its folders when it leads back down
them. -/
theorem Climb.leadsBack_iff
    {climb : Climb}
    {folders : List Segment} :
    (folders <+: climb.goal folders ∧
      folders.length < (climb.goal folders).length) ↔
      climb.LeadsBack folders := by
  unfold Climb.goal Climb.LeadsBack
  have split := List.take_append_drop (folders.length - climb.up) folders
  have front : folders <+: folders.take (folders.length - climb.up) ++
      climb.down ↔
      folders.drop (folders.length - climb.up) <+: climb.down := by
    conv_lhs => rw [← split]
    rw [List.take_append_drop]
    conv_lhs => lhs; rw [← split]
    exact List.prefix_append_right_inj _
  rw [front, List.length_append, List.length_take, List.length_drop]
  constructor
  · rintro ⟨leads, longer⟩
    exact ⟨leads, by omega⟩
  · rintro ⟨leads, longer⟩
    exact ⟨leads, by omega⟩

/-! ## Segments -/

theorem segments_append
    (front back : List Char) :
    segments (front ++ '/' :: back) = segments front ++ segments back := by
  unfold segments
  rw [List.map_append, List.map_cons]
  exact pieces_append _ _ _

theorem segments_ne_nil
    (text : List Char) :
    segments text ≠ [] :=
  pieces_ne_nil _ _

theorem slash_notMem_of_mem_segments
    {text : List Char}
    {segment : Segment}
    (member : segment ∈ segments text) :
    '/' ∉ segment :=
  notMem_of_mem_pieces member

/-- Segments are read one after the other. -/
theorem resolve_append
    (kept front : List Segment)
    {back : List Segment}
    (goesOn : back ≠ []) :
    resolve encode kept (front ++ back) =
      resolve encode (front.foldl (enter encode) kept) back := by
  induction front generalizing kept with
  | nil => rfl
  | cons segment front inductionHypothesis =>
      have step : resolve encode kept (segment :: (front ++ back)) =
          resolve encode (enter encode kept segment) (front ++ back) := by
        cases rest : front ++ back with
        | nil => exact absurd (List.append_eq_nil_iff.mp rest).2 goesOn
        | cons next later => rfl
      rw [List.cons_append, step, inductionHypothesis, List.foldl_cons]

/-- No segment has a slash. -/
def SlashFree (path : List Segment) : Prop :=
  ∀ segment ∈ path, '/' ∉ segment

theorem SlashFree.enter
    {kept : List Segment}
    (free : SlashFree kept)
    {segment : Segment}
    (plain : '/' ∉ encode segment) :
    SlashFree (enter encode kept segment) := by
  unfold UrlPath.enter
  split
  case isTrue =>
      exact fun other member => free other (List.mem_of_mem_dropLast member)
  case isFalse =>
      split
      case isTrue => exact free
      case isFalse =>
          intro other member
          rcases List.mem_append.mp member with old | new
          · exact free other old
          · rw [List.mem_singleton.mp new]
            exact plain

theorem SlashFree.arrive
    {kept : List Segment}
    (free : SlashFree kept)
    {segment : Segment}
    (plain : '/' ∉ encode segment) :
    SlashFree (arrive encode kept segment) := by
  unfold UrlPath.arrive
  split
  case isTrue =>
      intro other member
      rcases List.mem_append.mp member with old | new
      · exact free other (List.mem_of_mem_dropLast old)
      · rw [List.mem_singleton.mp new]
        exact List.not_mem_nil
  case isFalse =>
      split
      case isTrue =>
          intro other member
          rcases List.mem_append.mp member with old | new
          · exact free other old
          · rw [List.mem_singleton.mp new]
            exact List.not_mem_nil
      case isFalse =>
          intro other member
          rcases List.mem_append.mp member with old | new
          · exact free other old
          · rw [List.mem_singleton.mp new]
            exact plain

theorem SlashFree.foldl
    {kept path : List Segment}
    (free : SlashFree kept)
    (plain : ∀ segment ∈ path, '/' ∉ encode segment) :
    SlashFree (path.foldl (UrlPath.enter encode) kept) := by
  induction path generalizing kept with
  | nil => exact free
  | cons segment later inductionHypothesis =>
      exact inductionHypothesis
        (free.enter (plain segment List.mem_cons_self))
        fun other member => plain other (List.mem_cons_of_mem _ member)

theorem SlashFree.resolve
    {kept path : List Segment}
    (free : SlashFree kept)
    (plain : ∀ segment ∈ path, '/' ∉ encode segment) :
    SlashFree (resolve encode kept path) := by
  induction path generalizing kept with
  | nil => exact free
  | cons segment later inductionHypothesis =>
      have first := plain segment List.mem_cons_self
      cases later with
      | nil => exact free.arrive first
      | cons next later =>
          exact inductionHypothesis (free.enter first)
            fun other member => plain other (List.mem_cons_of_mem _ member)

theorem hexDigit_ne_slash :
    ∀ digit < 16, hexDigit digit ≠ '/' := by
  decide

/-- No slash comes from percent signs. -/
theorem slash_notMem_percentEncoded
    {segment : Segment}
    (plain : '/' ∉ segment) :
    '/' ∉ percentEncoded segment := by
  intro inside
  obtain ⟨character, member, spelled⟩ := List.mem_flatMap.mp inside
  split at spelled
  case isFalse =>
      rw [List.mem_singleton] at spelled
      exact plain (spelled ▸ member)
  case isTrue =>
      obtain ⟨byte, _, spelled⟩ := List.mem_flatMap.mp spelled
      have low : byte.toNat < 256 := byte.toNat_lt
      have first := hexDigit_ne_slash (byte.toNat / 16) (by omega)
      have second := hexDigit_ne_slash (byte.toNat % 16) (by omega)
      unfold percentByte at spelled
      rw [List.mem_cons, List.mem_cons, List.mem_singleton] at spelled
      rcases spelled with percent | same | same
      · cases percent
      · exact first same.symm
      · exact second same.symm

/-! ## Paths as text -/

/-- Two texts that each go on with a slash or end, and have none before. -/
theorem append_prefix_iff
    {left right front back : List Char}
    (leftFree : '/' ∉ left)
    (rightFree : '/' ∉ right)
    (ends : back = [] ∨ back.head? = some '/') :
    left ++ '/' :: front <+: right ++ back ↔
      left = right ∧ '/' :: front <+: back := by
  induction left generalizing right with
  | nil =>
      cases right with
      | nil => simp
      | cons first later =>
          rw [List.mem_cons, not_or] at rightFree
          simp [List.cons_prefix_cons, rightFree.1]
  | cons head left inductionHypothesis =>
      rw [List.mem_cons, not_or] at leftFree
      cases right with
      | nil =>
          constructor
          · intro leads
            rcases ends with empty | slashed
            · rw [empty] at leads
              cases List.prefix_nil.mp leads
            · obtain ⟨later, rfl⟩ := List.head?_eq_some_iff.mp slashed
              rw [List.nil_append, List.cons_append,
                List.cons_prefix_cons] at leads
              exact absurd leads.1.symm leftFree.1
          · rintro ⟨same, _⟩
            cases same
      | cons first later =>
          rw [List.mem_cons, not_or] at rightFree
          rw [List.cons_append, List.cons_append, List.cons_prefix_cons,
            inductionHypothesis leftFree.2 rightFree.2, List.cons.injEq,
            and_assoc]

/-- A path as text starts with another and a slash when it goes on behind
it. -/
theorem render_prefix_iff
    {front path : List Segment}
    (frontFree : SlashFree front)
    (pathFree : SlashFree path) :
    render front ++ ['/'] <+: render path ↔
      front <+: path ∧ front.length < path.length := by
  induction front generalizing path with
  | nil =>
      cases path with
      | nil => simp [render]
      | cons segment later => simp [render]
  | cons segment front inductionHypothesis =>
      cases path with
      | nil => simp [render]
      | cons first later =>
          have ends : render later = [] ∨
              (render later).head? = some '/' := by
            cases later with
            | nil => exact .inl rfl
            | cons next later => exact .inr rfl
          have goesOn : ∃ text, render front ++ ['/'] = '/' :: text := by
            cases front with
            | nil => exact ⟨[], rfl⟩
            | cons next front => exact ⟨next ++ render front ++ ['/'], by
                simp [render]⟩
          obtain ⟨text, isText⟩ := goesOn
          have cut : render (segment :: front) ++ ['/'] =
              '/' :: (segment ++ '/' :: text) := by
            rw [← isText]
            simp [render]
          have here : render (first :: later) =
              '/' :: (first ++ render later) := rfl
          rw [cut, here, List.cons_prefix_cons, append_prefix_iff
            (frontFree segment List.mem_cons_self)
            (pathFree first List.mem_cons_self) ends, ← isText,
            inductionHypothesis
              (fun other member =>
                frontFree other (List.mem_cons_of_mem _ member))
              (fun other member =>
                pathFree other (List.mem_cons_of_mem _ member)),
            List.cons_prefix_cons, List.length_cons, List.length_cons]
          constructor
          · rintro ⟨_, same, leads, longer⟩
            exact ⟨⟨same, leads⟩, by omega⟩
          · rintro ⟨⟨same, leads⟩, longer⟩
            exact ⟨rfl, same, leads, by omega⟩

end UrlPath
end Foundation
end Hearthdeck
