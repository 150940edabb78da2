import Mathlib.Data.List.Basic
import Mathlib.Data.List.TakeDrop

/-!
# Broadcast channels

What is sent on a broadcast channel is kept for all who subscribed, up to a
number of messages.  A subscriber has the place of the next message that it
reads, which is behind the last one when it subscribes.  One that has fallen
behind is told so, and goes on with the oldest message that is kept.
-/

namespace Hearthdeck
namespace Foundation

universe u

/-- What a subscriber reads. -/
inductive Reception (Message : Type u)
  | message (message : Message) (next : Nat)
  | lagged (next : Nat)
  | nothing

variable {Message : Type u}

/-- Read the next message. -/
def receive
    (capacity : Nat)
    (sent : List Message)
    (next : Nat) : Reception Message :=
  if next + capacity < sent.length then
    .lagged (sent.length - capacity)
  else
    match sent[next]? with
    | some message => .message message (next + 1)
    | none => .nothing

variable {capacity : Nat} {sent : List Message} {next : Nat}

theorem receive_eq_message
    {message : Message}
    {later : Nat}
    (received : receive capacity sent next = .message message later) :
    sent[next]? = some message ∧ later = next + 1 := by
  unfold receive at received
  split at received
  case isTrue behind => cases received
  case isFalse near =>
      cases found : sent[next]? with
      | none =>
          rw [found] at received
          cases received
      | some other =>
          rw [found] at received
          cases received
          exact ⟨rfl, rfl⟩

theorem receive_eq_lagged
    {later : Nat}
    (received : receive capacity sent next = .lagged later) :
    next + capacity < sent.length ∧ later = sent.length - capacity := by
  unfold receive at received
  split at received
  case isTrue behind =>
      cases received
      exact ⟨behind, rfl⟩
  case isFalse near =>
      cases found : sent[next]? with
      | none =>
          rw [found] at received
          cases received
      | some other =>
          rw [found] at received
          cases received

/-- What was read, with the message that is read next, is in order a part of
what was sent. -/
theorem sublist_receive
    {read : List Message}
    (sublist : read.Sublist (sent.take next))
    {message : Message}
    (found : sent[next]? = some message) :
    (read ++ [message]).Sublist (sent.take (next + 1)) := by
  rw [List.take_add_one, found]
  exact sublist.append (List.Sublist.refl _)

/-- Messages are sent behind what was read. -/
theorem sublist_send
    {read : List Message}
    (sublist : read.Sublist (sent.take next))
    (message : Message) :
    read.Sublist ((sent ++ [message]).take next) := by
  rw [List.take_append]
  exact sublist.trans (List.sublist_append_left _ _)

/-- A message that is still to be read is the one that is read, or still to be
read. -/
theorem ahead_of_message
    {place : Nat}
    (ahead : next ≤ place)
    {message : Message}
    {later : Nat}
    (received : receive capacity sent next = .message message later) :
    later ≤ place ∨ sent[place]? = some message := by
  obtain ⟨found, rfl⟩ := receive_eq_message received
  rcases Nat.lt_or_eq_of_le ahead with before | rfl
  · exact .inl before
  · exact .inr found

/-- A message that is kept is not skipped. -/
theorem ahead_of_lagged
    {place later : Nat}
    (kept : sent.length ≤ place + capacity)
    (received : receive capacity sent next = .lagged later) :
    later ≤ place := by
  obtain ⟨_, rfl⟩ := receive_eq_lagged received
  omega

end Foundation
end Hearthdeck
