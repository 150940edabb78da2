import Hearthdeck.Daemon.RommApprovals
import Hearthdeck.Daemon.StremioLink

/-!
# Disconnecting an account

Whoever disconnects an account first drops the pending approval, so that no
link arrives after the credentials were removed.  A poll that has copied the
approval, and a call that has begun to store credentials or to put an
approval, do not see that.  Disconnecting is final, and a poll meets only its
own approval, in the runs in which none of these overlap it in the ways that
matter.
-/

namespace Hearthdeck
namespace Daemon

open Foundation

/-- As long as no approval is put by a call that a removal has outrun, while a
removal is under way, or while a poll is not done with another approval; none
is removed while a poll has yet to store what it was given for it; nothing is
stored by a call that a removal has outrun; and no poll is answered about an
approval in the place of which another one is pending, or is given one that
was removed: credentials come from calls that began after the last completed
removal; a poll leaves every approval but its own as it is; and what a poll
stores is for the approval put last and not removed.  If moreover no poll of
RomM decides to ask while another one has yet to send its request or has just
sent it, the requests for a device code are the interval apart. -/
theorem disconnecting_is_final
    (service : RommService)
    (rommRow : Option (String × String × String))
    (rommMoves : List (Move RommCall RommReply))
    (rommCalm : (RommAccount.machine service rommRow).Along
      (fun pool move => ¬ RommAccount.Slips service pool move) rommMoves)
    (stremioRow : Option (String × String × String))
    (items : List String)
    (stremioMoves : List (Move StremioCall StremioReply))
    (stremioCalm : (StremioAccount.machine stremioRow items).Along
      (fun pool move => ¬ StremioAccount.Slips pool move) stremioMoves) :
    RommAccount.Settled service
        ((RommAccount.machine service rommRow).run rommMoves) ∧
      StremioAccount.Settled
        ((StremioAccount.machine stremioRow items).run stremioMoves) :=
  ⟨RommAccount.settled_run service rommRow rommMoves rommCalm,
    StremioAccount.settled_run stremioRow items stremioMoves stremioCalm⟩

/-- A service in which every address is one of this machine. -/
def localService : RommService where
  parse := fun _ => some ⟨"http", some "localhost"⟩
  loopback := fun _ => true
  phoneLink := fun baseUrl path _ => baseUrl ++ path

/-- RomM offers a device code, to be asked about every five seconds. -/
def offersDevice (deviceCode : String) : RommReply where
  device := some ⟨200, "200 OK", some ⟨deviceCode, "ABCD", "/pair", 600, 5⟩⟩

/-- RomM gives the approval. -/
def givesToken : RommReply where
  token := some ⟨200, "200 OK",
    some (.object [("access_token", .string "rmm_token")])⟩

/-- RomM denies the approval. -/
def denies : RommReply where
  token := some ⟨400, "400 Bad Request",
    some (.object [("detail", .string "access_denied")])⟩

/-- A link to RomM is started, approved and disconnected. -/
def linkedAndCleared : List (Move RommCall RommReply) :=
  [.call (.startLink "http://localhost"), .advance 0 (offersDevice "device"),
    .advance 0 {}, .call .pollLink, .advance 0 {}, .advance 0 {},
    .advance 0 givesToken, .advance 0 {}, .advance 0 {}, .call .clear,
    .advance 0 {}, .advance 0 {}]

/-- The link service offers a code. -/
def offersCode (code : String) : StremioReply where
  answer := .ok (.object [("code", .string code)])

/-- The link service gives the session. -/
def givesSession : StremioReply where
  answer := .ok (.object
    [("result", .object [("authKey", .string "session")])])

/-- A link to Stremio is started and approved. -/
def startedAndLinked : List (Move StremioCall StremioReply) :=
  [.call .startLink, .advance 0 (offersCode "ABCD"), .advance 0 {},
    .call .pollLink, .advance 0 {}, .advance 0 givesSession, .advance 0 {},
    .advance 0 {}, .advance 0 {}]

theorem disconnecting_is_final_linked :
    ((RommAccount.machine localService none).run
        linkedAndCleared).shared.stored = none ∧
      RommAccount.Settled localService
        ((RommAccount.machine localService none).run linkedAndCleared) ∧
      StremioAccount.Settled
        ((StremioAccount.machine none []).run startedAndLinked) := by
  have rommCalm : (RommAccount.machine localService none).Along
      (fun pool move => ¬ RommAccount.Slips localService pool move)
      linkedAndCleared := by
    have still : ¬ (False ∨ False) := by simp
    apply Machine.along_of_alongFrom
    refine ⟨still, still, ?_, still, ?_, still, ?_, still, still, still, ?_,
      still, trivial⟩
    · rintro ((late | ⟨task, member, busy⟩) | none)
      · exact absurd late (Nat.lt_irrefl 0)
      · rw [List.mem_singleton.mp member] at busy
        cases busy
      · exact none
    · rintro (none | ⟨pending, found, _, _, ⟨task, member, sends⟩ |
        ⟨time, sent, _⟩⟩)
      · exact none
      · rw [List.mem_singleton.mp member] at sends
        cases sends
      · cases sent
    · rintro ((⟨_, gone⟩ | ⟨other, found, different⟩) | none)
      · exact gone rfl
      · cases found
        exact different rfl
      · exact none
    · rintro (⟨task, member, given⟩ | none)
      · rw [List.mem_singleton.mp member] at given
        cases given
      · exact none
  have stremioCalm : (StremioAccount.machine none []).Along
      (fun pool move => ¬ StremioAccount.Slips pool move)
      startedAndLinked := by
    apply Machine.along_of_alongFrom
    refine ⟨id, id, ?_, id, id, ?_, id, id, id, trivial⟩
    · rintro (late | ⟨task, member, busy⟩)
      · exact absurd late (Nat.lt_irrefl 0)
      · rw [List.mem_singleton.mp member] at busy
        cases busy
    · rintro (⟨_, gone⟩ | ⟨other, found, different⟩)
      · exact gone rfl
      · cases found
        exact different rfl
  exact ⟨rfl, disconnecting_is_final localService none linkedAndCleared
    rommCalm none [] startedAndLinked stremioCalm⟩

/-- A link is started, and a poll is given the approval; the account is
disconnected, and the poll goes on. -/
def clearedMeanwhile : List (Move RommCall RommReply) :=
  linkedAndCleared.take 7 ++
    [.call .clear, .advance 1 {}, .advance 1 {}, .advance 0 {},
      .advance 0 {}]

/-- The same with Stremio. -/
def unlinkedMeanwhile : List (Move StremioCall StremioReply) :=
  startedAndLinked.take 6 ++
    [.call .clear, .advance 1 {}, .advance 1 {}, .advance 1 {}, .advance 0 {},
      .advance 0 {}]

/-- A poll asks about an approval; another link is started, and the poll is
about to end the approval it was denied. -/
def startedMeanwhile : List (Move RommCall RommReply) :=
  linkedAndCleared.take 6 ++
    [.call (.startLink "http://localhost"), .advance 1 (offersDevice "second"),
      .advance 1 {}, .advance 0 denies]

/-- Two polls read the approval before either notes the time. -/
def polledTwice : List (Move RommCall RommReply) :=
  linkedAndCleared.take 3 ++
    [.call .pollLink, .call .pollLink, .advance 0 {}, .advance 0 {},
      .advance 0 {}, .advance 0 {}, .advance 0 {}, .advance 0 {}]

/-- After the account was disconnected, and nothing else has begun, a poll
stores the credentials, of RomM and of Stremio; a poll that is denied one
approval removes another; and two requests for one device code are sent at one
moment. -/
theorem polls_outrun_other_calls :
    let romm := RommAccount.machine localService none
    let stremio := StremioAccount.machine none []
    let cleared := (romm.run clearedMeanwhile).shared
    let unlinked := (stremio.run unlinkedMeanwhile).shared
    let replaced := romm.run startedMeanwhile
    let ended := romm.run (startedMeanwhile ++ [.advance 0 {}])
    (cleared.clears = 1 ∧
        cleared.stored.map RommRow.token = some "rmm_token") ∧
      (unlinked.clears = 1 ∧
        unlinked.stored.map StremioRow.authKey = some "session") ∧
      (replaced.tasks.map (fun task =>
          task.copy.map PendingDevice.deviceCode) = [some "device"] ∧
        replaced.shared.pending.map PendingDevice.deviceCode =
          some "second" ∧
        ended.shared.pending = none) ∧
      (romm.run polledTwice).shared.sent = [("device", 0), ("device", 0)] := by
  decide

end Daemon
end Hearthdeck
