import Hearthdeck.Foundation.Pieces
import Mathlib.Data.Bool.AllAny
import Mathlib.Data.String.Basic

/-!
# Titles in Stremio

A title is opened by a URI that is built from the id of its video.  The id is
an IMDb id, and behind it there may be a season and an episode.
-/

namespace Hearthdeck
namespace Bridge
namespace StremioTitle

open Foundation

/-- `StremioMediaType`. -/
inductive StremioMediaType
  | movie
  | series
  deriving DecidableEq

/-- `StremioMediaType::as_str`. -/
def StremioMediaType.asStr : StremioMediaType → List Char
  | movie => "movie".toList
  | series => "series".toList

/-- `is_imdb_id`. -/
def isImdbId : List Char → Bool
  | 't' :: 't' :: digits =>
      digits ≠ [] && decide (digits.length ≤ 10) && digits.all Char.isDigit
  | _ => false

/-- `is_small_number`. -/
def isSmallNumber (value : List Char) : Bool :=
  value ≠ [] && decide (value.length ≤ 4) && value.all Char.isDigit &&
    decide (value ≠ ['0'])

/-- `stremio_detail_uri`. -/
def stremioDetailUri
    (videoId : List Char)
    (mediaType : StremioMediaType) : Except String (List Char) :=
  match pieces ':' videoId with
  | [] => .error "a video id must be an IMDb id"
  | base :: parts =>
      if isImdbId base then
        match parts with
        | [] =>
            .ok ("stremio:///detail/".toList ++ mediaType.asStr ++
              '/' :: base)
        | [season, episode] =>
            if isSmallNumber season && isSmallNumber episode then
              .ok ("stremio:///detail/series/".toList ++ base ++ '/' :: base ++
                ':' :: season ++ ':' :: episode)
            else
              .error "a season and an episode must be numbers"
        | [_] => .error "a video id needs both a season and an episode"
        | _ => .error "a video id has at most a season and an episode"
      else
        .error "a video id must be an IMDb id"

/-! ## Video ids -/

/-- What a video id names. -/
inductive Video
  | title (base : List Char)
  | inSeries (base season episode : List Char)

namespace Video

/-- The parts of a video id that is accepted. -/
def Valid : Video → Prop
  | title base => isImdbId base = true
  | inSeries base season episode =>
      isImdbId base = true ∧ isSmallNumber season = true ∧
        isSmallNumber episode = true

/-- The id of a video. -/
def id : Video → List Char
  | title base => base
  | inSeries base season episode =>
      base ++ ':' :: season ++ ':' :: episode

/-- What its URI has behind the route of details. -/
def place (mediaType : StremioMediaType) : Video → List Char
  | title base => mediaType.asStr ++ '/' :: base
  | inSeries base season episode =>
      StremioMediaType.series.asStr ++ '/' ::
        (base ++ '/' :: (inSeries base season episode).id)

/-- The URI of a video. -/
def uri (mediaType : StremioMediaType) (video : Video) : List Char :=
  "stremio:///detail/".toList ++ video.place mediaType

end Video

/-- An IMDb id is two letters and one to ten digits. -/
theorem isImdbId_iff
    {value : List Char} :
    isImdbId value = true ↔
      ∃ digits, value = 't' :: 't' :: digits ∧ digits ≠ [] ∧
        digits.length ≤ 10 ∧ ∀ digit ∈ digits, digit.isDigit = true := by
  unfold isImdbId
  split
  · simp [and_assoc]
  case h_2 other =>
      refine iff_of_false Bool.false_ne_true ?_
      rintro ⟨digits, rfl, _⟩
      exact other digits rfl

theorem isSmallNumber_iff
    {value : List Char} :
    isSmallNumber value = true ↔
      value ≠ [] ∧ value.length ≤ 4 ∧ value ≠ ['0'] ∧
        ∀ digit ∈ value, digit.isDigit = true := by
  unfold isSmallNumber
  simp
  tauto

/-- What an id and a number are written with. -/
def Written (character : Char) : Prop :=
  character = 't' ∨ character.isDigit = true

theorem written_of_isImdbId
    {value : List Char}
    (isId : isImdbId value = true) :
    ∀ character ∈ value, Written character := by
  obtain ⟨digits, rfl, _, _, areDigits⟩ := isImdbId_iff.mp isId
  intro character member
  rcases List.mem_cons.mp member with rfl | rest
  · exact .inl rfl
  · rcases List.mem_cons.mp rest with rfl | among
    · exact .inl rfl
    · exact .inr (areDigits character among)

theorem written_of_isSmallNumber
    {value : List Char}
    (isNumber : isSmallNumber value = true) :
    ∀ character ∈ value, Written character :=
  fun character member =>
    .inr ((isSmallNumber_iff.mp isNumber).2.2.2 character member)

theorem notMem_of_written
    {value : List Char}
    (written : ∀ character ∈ value, Written character)
    {separator : Char}
    (other : ¬ Written separator) :
    separator ∉ value :=
  fun member => other (written separator member)

theorem colon_not_written : ¬ Written ':' := by
  rintro (same | isDigit)
  · exact absurd same (by decide)
  · exact absurd isDigit (by decide)

theorem slash_not_written : ¬ Written '/' := by
  rintro (same | isDigit)
  · exact absurd same (by decide)
  · exact absurd isDigit (by decide)

theorem uri_eq
    (video : Video)
    (mediaType : StremioMediaType) :
    video.uri mediaType =
      "stremio:///detail/".toList ++ video.place mediaType := rfl

theorem uri_title
    (base : List Char)
    (mediaType : StremioMediaType) :
    (Video.title base).uri mediaType =
      "stremio:///detail/".toList ++ mediaType.asStr ++ '/' :: base := by
  rw [List.append_assoc, uri_eq, Video.place]

theorem uri_inSeries
    (base season episode : List Char)
    (mediaType : StremioMediaType) :
    (Video.inSeries base season episode).uri mediaType =
      "stremio:///detail/series/".toList ++ base ++ '/' :: base ++
        ':' :: season ++ ':' :: episode := by
  have route : "stremio:///detail/series/".toList =
      "stremio:///detail/".toList ++
        (StremioMediaType.series.asStr ++ ['/']) := by decide
  have place : (Video.inSeries base season episode).place mediaType =
      StremioMediaType.series.asStr ++ '/' :: (base ++ '/' ::
        (base ++ ':' :: season ++ ':' :: episode)) := rfl
  rw [route, uri_eq, place]
  simp only [List.append_assoc, List.cons_append, List.nil_append]

/-- A valid video is opened by its URI. -/
theorem stremioDetailUri_id
    {video : Video}
    (valid : video.Valid)
    (mediaType : StremioMediaType) :
    stremioDetailUri video.id mediaType = .ok (video.uri mediaType) := by
  cases video with
  | title base =>
      have cut : pieces ':' base = [base] := pieces_of_notMem
        (notMem_of_written (written_of_isImdbId valid) colon_not_written)
      unfold stremioDetailUri Video.id
      have isId : isImdbId base = true := valid
      rw [cut, uri_title]
      dsimp only
      rw [if_pos isId]
  | inSeries base season episode =>
      obtain ⟨isId, isSeason, isEpisode⟩ := valid
      have inBase := notMem_of_written (written_of_isImdbId isId)
        colon_not_written
      have inSeason := notMem_of_written (written_of_isSmallNumber isSeason)
        colon_not_written
      have inEpisode := notMem_of_written
        (written_of_isSmallNumber isEpisode) colon_not_written
      have cut : pieces ':' (base ++ ':' :: season ++ ':' :: episode) =
          [base, season, episode] := by
        rw [List.append_assoc, List.cons_append, pieces_cons inBase,
          pieces_cons inSeason, pieces_of_notMem inEpisode]
      unfold stremioDetailUri Video.id
      rw [cut, uri_inSeries]
      dsimp only
      rw [if_pos isId, isSeason, isEpisode, Bool.and_self, if_pos rfl]

/-- Only the id of a valid video is opened. -/
theorem video_of_stremioDetailUri
    {videoId uri : List Char}
    {mediaType : StremioMediaType}
    (opens : stremioDetailUri videoId mediaType = .ok uri) :
    ∃ video : Video, video.Valid ∧ video.id = videoId ∧
      video.uri mediaType = uri := by
  have whole := intercalate_pieces ':' videoId
  unfold stremioDetailUri at opens
  split at opens
  case h_1 => cases opens
  case h_2 base parts cut =>
      rw [cut] at whole
      split at opens
      case isFalse noId => cases opens
      case isTrue isId =>
          split at opens
          case h_1 =>
              cases opens
              have same : base = videoId := by
                simpa [List.intercalate] using whole
              exact ⟨.title base, isId, same, uri_title base mediaType⟩
          case h_2 season episode =>
              split at opens
              case isFalse noNumbers => cases opens
              case isTrue numbers =>
                  cases opens
                  obtain ⟨isSeason, isEpisode⟩ :=
                    Bool.and_eq_true_iff.mp numbers
                  refine ⟨.inSeries base season episode,
                    ⟨isId, isSeason, isEpisode⟩, ?_,
                    uri_inSeries base season episode mediaType⟩
                  rw [← whole]
                  simp [Video.id, List.intercalate]
          case h_3 => cases opens
          case h_4 => cases opens

/-! ## URIs -/

/-- The parts of a URI before the kind of the title. -/
def uriHead : List (List Char) :=
  ["stremio:".toList, [], [], "detail".toList]

theorem pieces_uri
    (rest : List Char) :
    pieces '/' ("stremio:///detail/".toList ++ rest) =
      uriHead ++ pieces '/' rest := by
  have head : "stremio:///detail/".toList ++ rest =
      "stremio:".toList ++ '/' :: ([] ++ '/' :: ([] ++ '/' ::
        ("detail".toList ++ '/' :: rest))) := by
    simp
  rw [head, pieces_cons (by decide), pieces_cons (by decide),
    pieces_cons (by decide), pieces_cons (by decide), uriHead]
  simp only [List.cons_append, List.nil_append]

theorem asStr_single
    (mediaType : StremioMediaType) :
    '/' ∉ mediaType.asStr := by
  cases mediaType <;> decide

theorem pieces_uri_title
    {base : List Char}
    (isId : isImdbId base = true)
    (mediaType : StremioMediaType) :
    pieces '/' ((Video.title base).uri mediaType) =
      uriHead ++ [mediaType.asStr, base] := by
  have single := notMem_of_written (written_of_isImdbId isId)
    slash_not_written
  rw [uri_eq, pieces_uri, Video.place, pieces_cons (asStr_single mediaType),
    pieces_of_notMem single]

theorem pieces_uri_inSeries
    {base season episode : List Char}
    (valid : (Video.inSeries base season episode).Valid)
    (mediaType : StremioMediaType) :
    pieces '/' ((Video.inSeries base season episode).uri mediaType) =
      uriHead ++ [StremioMediaType.series.asStr, base,
        (Video.inSeries base season episode).id] := by
  obtain ⟨isId, isSeason, isEpisode⟩ := valid
  have inBase := notMem_of_written (written_of_isImdbId isId)
    slash_not_written
  have inSeason := notMem_of_written (written_of_isSmallNumber isSeason)
    slash_not_written
  have inEpisode := notMem_of_written (written_of_isSmallNumber isEpisode)
    slash_not_written
  have single : '/' ∉ (Video.inSeries base season episode).id := by
    simp [Video.id, inBase, inSeason, inEpisode]
  rw [uri_eq, pieces_uri, Video.place, pieces_cons (asStr_single _),
    pieces_cons inBase, pieces_of_notMem single]

theorem asStr_injective
    {first second : StremioMediaType}
    (same : first.asStr = second.asStr) :
    first = second := by
  cases first <;> cases second <;> first | rfl | exact absurd same (by decide)

/-- The URI of a video tells its id, and the kind of a title. -/
theorem uri_injective
    {left right : Video}
    (validLeft : left.Valid)
    (validRight : right.Valid)
    {first second : StremioMediaType}
    (same : left.uri first = right.uri second) :
    left.id = right.id ∧
      ((∃ base, left = .title base) → first = second) := by
  have parts := congrArg (pieces '/') same
  cases left with
  | title base =>
      cases right with
      | title other =>
          rw [pieces_uri_title validLeft, pieces_uri_title validRight]
            at parts
          obtain ⟨kinds, ids⟩ := List.cons.inj (List.append_cancel_left parts)
          exact ⟨(List.cons.inj ids).1, fun _ => asStr_injective kinds⟩
      | inSeries other season episode =>
          rw [pieces_uri_title validLeft, pieces_uri_inSeries validRight]
            at parts
          cases congrArg List.length (List.append_cancel_left parts)
  | inSeries base season episode =>
      refine ⟨?_, by rintro ⟨_, absurd⟩; cases absurd⟩
      cases right with
      | title other =>
          rw [pieces_uri_inSeries validLeft, pieces_uri_title validRight]
            at parts
          cases congrArg List.length (List.append_cancel_left parts)
      | inSeries other otherSeason otherEpisode =>
          rw [pieces_uri_inSeries validLeft, pieces_uri_inSeries validRight]
            at parts
          have last := congrArg List.getLast? (List.append_cancel_left parts)
          exact Option.some.inj last

/-- The characters of a URI. -/
def Plain (character : Char) : Prop :=
  'a' ≤ character ∧ character ≤ 'z' ∨ '0' ≤ character ∧ character ≤ '9' ∨
    character = ':' ∨ character = '/'

instance : DecidablePred Plain := fun character =>
  inferInstanceAs (Decidable ('a' ≤ character ∧ character ≤ 'z' ∨
    '0' ≤ character ∧ character ≤ '9' ∨ character = ':' ∨ character = '/'))

theorem plain_of_written
    {character : Char}
    (written : Written character) :
    Plain character := by
  rcases written with rfl | isDigit
  · decide
  · right
    left
    simpa [Char.isDigit, Char.le_def] using isDigit

theorem plain_uri
    {video : Video}
    (valid : video.Valid)
    (mediaType : StremioMediaType) :
    ∀ character ∈ video.uri mediaType, Plain character := by
  have route : ∀ character ∈ "stremio:///detail/".toList,
      Plain character := List.all_iff_forall_prop.mp (by decide)
  have kinds : ∀ mediaType : StremioMediaType,
      ∀ character ∈ mediaType.asStr, Plain character := by
    intro mediaType
    refine List.all_iff_forall_prop.mp ?_
    cases mediaType <;> decide
  have slash : Plain '/' := by decide
  have colon : Plain ':' := by decide
  intro character member
  rcases List.mem_append.mp member with inRoute | inPlace
  · exact route character inRoute
  · cases video with
    | title base =>
        have inId := fun member => plain_of_written
          (written_of_isImdbId valid character member)
        have inKind := kinds mediaType character
        simp only [Video.place, List.mem_append, List.mem_cons] at inPlace
        grind
    | inSeries base season episode =>
        obtain ⟨isId, isSeason, isEpisode⟩ := valid
        have inId := fun member => plain_of_written
          (written_of_isImdbId isId character member)
        have inSeason := fun member => plain_of_written
          (written_of_isSmallNumber isSeason character member)
        have inEpisode := fun member => plain_of_written
          (written_of_isSmallNumber isEpisode character member)
        have inKind := kinds .series character
        simp only [Video.place, Video.id, List.mem_append, List.mem_cons]
          at inPlace
        grind

/-- Exactly the ids of videos are opened. -/
theorem opens_iff
    (videoId : List Char)
    (mediaType : StremioMediaType) :
    (∃ uri, stremioDetailUri videoId mediaType = .ok uri) ↔
      ∃ video : Video, video.Valid ∧ video.id = videoId := by
  constructor
  · rintro ⟨uri, opens⟩
    obtain ⟨video, valid, same, _⟩ := video_of_stremioDetailUri opens
    exact ⟨video, valid, same⟩
  · rintro ⟨video, valid, rfl⟩
    exact ⟨_, stremioDetailUri_id valid mediaType⟩

/-- An id without a colon is only opened as a title. -/
theorem opens_single_iff
    {videoId : List Char}
    (single : ':' ∉ videoId)
    (mediaType : StremioMediaType) :
    (∃ uri, stremioDetailUri videoId mediaType = .ok uri) ↔
      isImdbId videoId = true := by
  rw [opens_iff]
  constructor
  · rintro ⟨video, valid, rfl⟩
    cases video with
    | title base => exact valid
    | inSeries base season episode =>
        exact absurd (by simp [Video.id]) single
  · intro isId
    exact ⟨.title videoId, isId, rfl⟩

/-- URIs are the same only for one id, and for one kind of a title. -/
theorem stremioDetailUri_injective
    {left right : List Char}
    {first second : StremioMediaType}
    {uri : List Char}
    (opensLeft : stremioDetailUri left first = .ok uri)
    (opensRight : stremioDetailUri right second = .ok uri) :
    left = right ∧ (':' ∉ left → first = second) := by
  obtain ⟨video, valid, rfl, isUri⟩ := video_of_stremioDetailUri opensLeft
  obtain ⟨other, otherValid, rfl, otherUri⟩ :=
    video_of_stremioDetailUri opensRight
  obtain ⟨ids, kinds⟩ := uri_injective valid otherValid
    (isUri.trans otherUri.symm)
  refine ⟨ids, fun single => kinds ?_⟩
  cases video with
  | title base => exact ⟨base, rfl⟩
  | inSeries base season episode =>
      exact absurd (by simp [Video.id]) single

end StremioTitle
end Bridge
end Hearthdeck
