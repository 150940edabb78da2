import Mathlib.Data.List.Basic

/-!
# Frames that end with a mark

A stream arrives in pieces of any size and is read byte by byte.  A frame is
what stands before a mark.  A reader that gives up on a frame longer than its
limit sees a frame, an oversized one or the end of the stream, and what it
sees depends on the bytes alone, not on the pieces they came in.
-/

namespace Hearthdeck
namespace Foundation
namespace Frames

variable {Byte : Type*}

/-! ## Pieces -/

/-- The next byte of a stream that came in pieces, and what came after it. -/
def takeByte : List (List Byte) → Option (Byte × List (List Byte))
  | [] => none
  | [] :: arrivals => takeByte arrivals
  | (byte :: arrived) :: arrivals => some (byte, arrived :: arrivals)

theorem flatten_of_takeByte_eq_none
    {arrivals : List (List Byte)}
    (ends : takeByte arrivals = none) :
    arrivals.flatten = [] := by
  induction arrivals using takeByte.induct with
  | case1 => simp
  | case2 arrivals ih =>
      rw [takeByte] at ends
      simpa using ih ends
  | case3 byte arrived arrivals => simp [takeByte] at ends

theorem flatten_of_takeByte_eq_some
    {arrivals rest : List (List Byte)}
    {byte : Byte}
    (takes : takeByte arrivals = some (byte, rest)) :
    arrivals.flatten = byte :: rest.flatten := by
  induction arrivals using takeByte.induct with
  | case1 => simp [takeByte] at takes
  | case2 arrivals ih =>
      rw [takeByte] at takes
      simpa using ih takes
  | case3 first arrived arrivals =>
      simp only [takeByte, Option.some.injEq, Prod.mk.injEq] at takes
      obtain ⟨rfl, rfl⟩ := takes
      simp

/-! ## What a reader sees -/

/-- What stands at the front of a stream, and the stream after it. -/
inductive Sight (Byte : Type*)
  | frame (body rest : List Byte)
  | oversized (rest : List Byte)
  | unfinished

variable [DecidableEq Byte]

/-- The front of a stream, to a reader that keeps at most the limit. -/
def sight (mark : Byte) (limit : Nat) (stream : List Byte) : Sight Byte :=
  let body := stream.takeWhile (fun byte => byte ≠ mark)
  if limit < body.length then
    .oversized (stream.drop (limit + 1))
  else
    match stream.drop body.length with
    | [] => .unfinished
    | _ :: rest => .frame body rest

variable {mark : Byte} {limit : Nat} {body : List Byte}

theorem takeWhile_of_notMem (whole : mark ∉ body) (rest : List Byte) :
    (body ++ rest).takeWhile (fun byte => byte ≠ mark) =
      body ++ rest.takeWhile (fun byte => byte ≠ mark) := by
  refine List.takeWhile_append_of_pos fun byte isIn => ?_
  have differs : byte ≠ mark := fun same => whole (same ▸ isIn)
  simpa using differs

theorem sight_mark
    (whole : mark ∉ body)
    (fits : body.length ≤ limit)
    (rest : List Byte) :
    sight mark limit (body ++ mark :: rest) = .frame body rest := by
  have isBody : (body ++ mark :: rest).takeWhile (fun byte => byte ≠ mark) =
      body := by
    rw [takeWhile_of_notMem whole]
    simp
  simp only [sight, isBody, List.drop_left]
  exact if_neg (Nat.not_lt.mpr fits)

theorem sight_oversized
    (whole : mark ∉ body)
    (exceeds : limit < body.length)
    (rest : List Byte) :
    sight mark limit (body ++ rest) =
      .oversized ((body ++ rest).drop (limit + 1)) := by
  rw [sight, takeWhile_of_notMem whole, if_pos]
  rw [List.length_append]
  omega

theorem sight_unfinished
    (whole : mark ∉ body)
    (fits : body.length ≤ limit) :
    sight mark limit body = .unfinished := by
  have isBody : body.takeWhile (fun byte => byte ≠ mark) = body := by
    simpa using takeWhile_of_notMem whole []
  simp only [sight, isBody, List.drop_length]
  exact if_neg (Nat.not_lt.mpr fits)

end Frames
end Foundation
end Hearthdeck
