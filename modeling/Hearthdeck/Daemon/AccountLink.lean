import Hearthdeck.Foundation.Pool

/-!
# One account and one pending approval

An account is linked by an approval that a user gives elsewhere.  At most one
approval is pending.  A poll copies it, asks about it, and then ends it and
stores the credentials it was given.  Whoever disconnects the account removes
the pending approval and after that the credentials.

This is what the links of the daemon have in common, without what they ask and
answer.  Between any two sections of a call others run.  An approval that is
put, or a removal, may come between what a poll read and what it does with it;
the steps after which that matters are named here, and what holds in the runs
without them.
-/

namespace Hearthdeck
namespace Daemon

open Foundation

/-- An approval: how many were put before it, and how many removals had
completed when the call began that put it. -/
structure Approval where
  number : Nat
  began : Nat
  deriving DecidableEq, Repr

/-- The account as the calls share it. -/
structure Account where
  pending : Option Approval := none
  /-- The approval that was put last, unless it was removed since.  A poll
  that ends it does not remove it. -/
  standing : Option Approval := none
  /-- The credentials: how many removals had completed when the call began
  that they come from. -/
  stored : Option Nat := none
  /-- How many approvals were put. -/
  puts : Nat := 0
  /-- How many removals have completed. -/
  clears : Nat := 0

/-- What a call has before it. -/
inductive LinkTask
  /-- To put an approval, or, after `save`, to store credentials; and when the
  call began. -/
  | start (began : Nat)
  | login (began : Nat)
  | save (began : Nat)
  | poll
  /-- A poll that read an approval: to note that it asks, to end it as
  expired, to ask, to end it as answered, to store what it was answered. -/
  | note (approval : Approval)
  | expire (approval : Approval)
  | ask (approval : Approval)
  | finish (approval : Approval) (approved : Bool)
  | store (approval : Approval)
  /-- To remove the pending approval, then the credentials, then to end. -/
  | clear
  | cleared
  | purged
  /-- Nothing that concerns the account. -/
  | rest
  deriving DecidableEq

/-- How a section comes out. -/
inductive Outcome
  /-- The call ends. -/
  | ends
  /-- The call goes on without having done it. -/
  | goes
  /-- It is done. -/
  | acts
  /-- A question is answered for good. -/
  | answered (approved : Bool)

/-- The calls. -/
inductive LinkCall
  | start
  | login
  | save
  | poll
  | clear
  /-- A call that is refused at once. -/
  | refused

namespace LinkTask

/-- The call is a poll that has yet to note or end the approval it read, or to
store what it was answered. -/
def settles : LinkTask → Bool
  | note _ => true
  | expire _ => true
  | finish _ _ => true
  | store _ => true
  | _ => false

/-- The call is a poll whose approval was given, and which has not stored the
credentials. -/
def given : LinkTask → Bool
  | finish _ approved => approved
  | store _ => true
  | _ => false

/-- The call has removed the pending approval and is removing the
credentials. -/
def removes : LinkTask → Bool
  | cleared => true
  | purged => true
  | _ => false

end LinkTask

namespace Account

/-- The pending approval is removed. -/
def cancel (account : Account) : Account :=
  { account with pending := none, standing := none }

/-- An approval is put. -/
def put (account : Account) (began : Nat) : Account :=
  let approval := ⟨account.puts, began⟩
  { account with
    pending := some approval
    standing := some approval
    puts := account.puts + 1 }

/-- A call begins. -/
def enter (account : Account) : LinkCall → Account × List LinkTask
  | .start => (account, [.start account.clears])
  | .login => (account, [.login account.clears])
  | .save => (account, [.save account.clears])
  | .poll => (account, [.poll])
  | .clear => (account, [.clear])
  | .refused => (account, [])

/-- A poll reads the pending approval. -/
def read (account : Account) (outcome : Outcome) : Account × List LinkTask :=
  match account.pending, outcome with
  | some approval, .goes => (account, [.note approval])
  | some approval, .acts => (account, [.expire approval])
  | some approval, .answered _ => (account, [.ask approval])
  | _, _ => (account, [])

/-- The credentials are removed, by the last or the last but one section of a
removal. -/
def purge (account : Account) : Outcome → Account × List LinkTask
  | .goes => ({ account with stored := none }, [.purged])
  | .acts =>
      ({ account with stored := none, clears := account.clears + 1 }, [])
  | _ => (account, [])

/-- The next section of a call. -/
def perform
    (account : Account)
    (task : LinkTask)
    (outcome : Outcome) : Account × List LinkTask :=
  match task, outcome with
  | .start began, .goes => (account, [.start began])
  | .start began, .acts => (account.put began, [])
  | .login began, .goes => (account, [.login began])
  | .login began, .acts => (account.cancel, [.save began])
  | .save began, .acts => ({ account with stored := some began }, [])
  | .poll, outcome => account.read outcome
  | .note approval, _ => (account, [.ask approval])
  | .expire _, _ => ({ account with pending := none }, [])
  | .ask approval, .answered approved =>
      (account, [.finish approval approved])
  | .finish approval approved, _ =>
      ({ account with pending := none },
        if approved then [.store approval] else [])
  | .store approval, .acts =>
      ({ account with stored := some approval.began }, [])
  | .store approval, .goes =>
      ({ account with stored := some approval.began }, [.rest])
  | .clear, _ => (account.cancel, [.cleared])
  | .cleared, outcome => account.purge outcome
  | .purged, .acts => ({ account with clears := account.clears + 1 }, [])
  | _, _ => (account, [])

/-- The account as a program of calls. -/
def program : Program Account LinkTask LinkCall Outcome where
  enter := enter
  perform := perform

/-! ## The steps that matter -/

/-- An approval is put by a call that a removal has outrun, while a removal is
under way, or while a poll is not done with another approval. -/
def PutsLate (pool : Pool Account LinkTask) (began : Nat) : Prop :=
  began < pool.shared.clears ∨
    ∃ task ∈ pool.tasks, (task.removes || task.settles) = true

/-- The pending approval is removed while a poll has yet to store the
credentials it was given for it. -/
def CancelsLate (pool : Pool Account LinkTask) : Prop :=
  ∃ task ∈ pool.tasks, task.given = true

/-- Credentials are stored by a call that a removal has outrun, or while a
removal has only its end before it. -/
def SavesLate (pool : Pool Account LinkTask) (began : Nat) : Prop :=
  began < pool.shared.clears ∨ LinkTask.purged ∈ pool.tasks

/-- A poll is answered about an approval that was removed, or in the place of
which another one is pending. -/
def AnsweredLate
    (pool : Pool Account LinkTask)
    (approval : Approval)
    (approved : Bool) : Prop :=
  approved = true ∧ pool.shared.standing ≠ some approval ∨
    ∃ other, pool.shared.pending = some other ∧ other ≠ approval

/-- A step after which a poll meets an approval that is not its own, or
credentials come back. -/
def Slips
    (pool : Pool Account LinkTask) :
    Move LinkCall Outcome → Prop
  | .call _ => False
  | .advance index outcome =>
      match pool.tasks[index]?, outcome with
      | some (.start began), .acts => PutsLate pool began
      | some (.login _), .acts => CancelsLate pool
      | some .clear, _ => CancelsLate pool
      | some (.save began), .acts => SavesLate pool began
      | some (.ask approval), .answered approved =>
          AnsweredLate pool approval approved
      | _, _ => False

/-! ## The invariant -/

/-- What holds of the account.  What stands, and what is stored, comes from a
call that began after the last removal. -/
structure Whole (account : Account) : Prop where
  stands : ∀ approval, account.pending = some approval →
    account.standing = some approval
  current : ∀ approval, account.standing = some approval →
    approval.began = account.clears
  stored : ∀ began, account.stored = some began → began = account.clears

/-- Only this approval can be pending. -/
def Owns (account : Account) (approval : Approval) : Prop :=
  ∀ other, account.pending = some other → other = approval

/-- What holds of a call under way. -/
def Part (account : Account) : LinkTask → Prop
  | .start began => began ≤ account.clears
  | .login began => began ≤ account.clears
  | .save began => began ≤ account.clears
  | .note approval => account.Owns approval
  | .expire approval => account.Owns approval
  | .finish approval approved =>
      account.Owns approval ∧
        (approved = true → account.standing = some approval)
  | .store approval => account.standing = some approval
  | .cleared => account.standing = none
  | .purged => account.standing = none ∧ account.stored = none
  | _ => True

/-- The invariant of the calls under way. -/
def Sound (pool : Pool Account LinkTask) : Prop :=
  pool.Holds Whole Part

variable
  {pool : Pool Account LinkTask}
  {index : Nat}
  {task : LinkTask}
  {outcome : Outcome}

theorem Sound.call
    (sound : Sound pool)
    (request : LinkCall) :
    Sound (program.step pool (.call request)) := by
  have bound : ∀ other ∈ (pool.shared.enter request).2,
      Part pool.shared other := by
    intro other member
    cases request with
    | refused => cases member
    | start | login | save =>
        rw [List.mem_singleton.mp member]
        exact Nat.le_refl _
    | poll | clear =>
        rw [List.mem_singleton.mp member]
        trivial
  cases request <;>
    exact Pool.Holds.call sound sound.shared (fun _ _ part => part) bound

/-- A section that leaves the account as it is. -/
theorem Sound.idle
    (sound : Sound pool)
    (stands : pool.tasks[index]? = some task)
    {left : List LinkTask}
    (performs : pool.shared.perform task outcome = (pool.shared, left))
    (parts : ∀ other ∈ left, Part pool.shared other) :
    Sound (program.step pool (.advance index outcome)) := by
  apply Pool.Holds.advance sound stands
  · change Whole (pool.shared.perform task outcome).1
    rw [performs]
    exact sound.shared
  · intro other member part
    change Part (pool.shared.perform task outcome).1 other
    rw [performs]
    exact part
  · intro other member
    change other ∈ (pool.shared.perform task outcome).2 at member
    change Part (pool.shared.perform task outcome).1 other
    rw [performs] at member ⊢
    exact parts other member

/-- Nothing is pending any longer. -/
theorem Part.taken
    {account : Account}
    (part : Part account task) :
    Part { account with pending := none } task := by
  cases task with
  | note approval => nofun
  | expire approval => nofun
  | finish approval approved => exact ⟨nofun, part.2⟩
  | _ => exact part

/-- The approval is removed while no poll has credentials for it. -/
theorem Part.cancel
    {account : Account}
    (part : Part account task)
    (other : task.given = false) :
    Part account.cancel task := by
  cases task with
  | note approval => nofun
  | expire approval => nofun
  | finish approval approved =>
      refine ⟨nofun, ?_⟩
      intro given
      exact absurd (other.symm.trans given) nofun
  | store approval => cases other
  | cleared => rfl
  | purged => exact ⟨rfl, part.2⟩
  | _ => exact part

/-- An approval is put while no poll is busy with another one and no removal
is under way. -/
theorem Part.put
    {account : Account}
    (part : Part account task)
    (other : (task.removes || task.settles) = false)
    (began : Nat) :
    Part (account.put began) task := by
  cases task with
  | note approval => cases other
  | expire approval => cases other
  | finish approval approved => cases other
  | store approval => cases other
  | cleared => cases other
  | purged => cases other
  | _ => exact part

theorem Sound.put
    (sound : Sound pool)
    {began : Nat}
    (stands : pool.tasks[index]? = some (.start began))
    (calm : ¬ PutsLate pool began) :
    Sound (program.step pool (.advance index .acts)) := by
  have bound : began ≤ pool.shared.clears :=
    sound.each _ (List.mem_of_getElem? stands)
  obtain ⟨current, others⟩ := not_or.mp calm
  apply Pool.Holds.advance sound stands
  · refine ⟨fun _ => id, ?_, sound.shared.stored⟩
    intro approval same
    cases same
    exact Nat.le_antisymm bound (Nat.not_lt.mp current)
  · intro other member part
    apply part.put
    apply Bool.eq_false_iff.mpr
    intro busy
    exact others ⟨other, List.mem_of_mem_eraseIdx member, busy⟩
  · nofun

/-- A section that removes the approval. -/
theorem Sound.cancel
    (sound : Sound pool)
    (stands : pool.tasks[index]? = some task)
    (calm : ¬ CancelsLate pool)
    {left : List LinkTask}
    (performs : pool.shared.perform task outcome =
      (pool.shared.cancel, left))
    (parts : ∀ other ∈ left, Part pool.shared.cancel other) :
    Sound (program.step pool (.advance index outcome)) := by
  apply Pool.Holds.advance sound stands
  · change Whole (pool.shared.perform task outcome).1
    rw [performs]
    exact ⟨nofun, nofun, sound.shared.stored⟩
  · intro other member part
    change Part (pool.shared.perform task outcome).1 other
    rw [performs]
    apply part.cancel
    apply Bool.eq_false_iff.mpr
    intro given
    exact calm ⟨other, List.mem_of_mem_eraseIdx member, given⟩
  · intro other member
    change other ∈ (pool.shared.perform task outcome).2 at member
    change Part (pool.shared.perform task outcome).1 other
    rw [performs] at member ⊢
    exact parts other member

/-- A section of a poll that ends the pending approval. -/
theorem Sound.taken
    (sound : Sound pool)
    (stands : pool.tasks[index]? = some task)
    {left : List LinkTask}
    (performs : pool.shared.perform task outcome =
      ({ pool.shared with pending := none }, left))
    (parts : ∀ other ∈ left, Part pool.shared other) :
    Sound (program.step pool (.advance index outcome)) := by
  apply Pool.Holds.advance sound stands
  · change Whole (pool.shared.perform task outcome).1
    rw [performs]
    exact ⟨nofun, sound.shared.current, sound.shared.stored⟩
  · intro other member part
    change Part (pool.shared.perform task outcome).1 other
    rw [performs]
    exact part.taken
  · intro other member
    change other ∈ (pool.shared.perform task outcome).2 at member
    change Part (pool.shared.perform task outcome).1 other
    rw [performs] at member ⊢
    exact (parts other member).taken

/-- A section that stores credentials of a call that began after the last
removal. -/
theorem Sound.saves
    (sound : Sound pool)
    (stands : pool.tasks[index]? = some task)
    {began : Nat}
    (current : began = pool.shared.clears)
    (others : LinkTask.purged ∉ pool.tasks)
    {left : List LinkTask}
    (performs : pool.shared.perform task outcome =
      ({ pool.shared with stored := some began }, left))
    (parts : ∀ other ∈ left, other = .rest) :
    Sound (program.step pool (.advance index outcome)) := by
  apply Pool.Holds.advance sound stands
  · change Whole (pool.shared.perform task outcome).1
    rw [performs]
    refine ⟨sound.shared.stands, sound.shared.current, ?_⟩
    intro other same
    cases same
    exact current
  · intro other member part
    change Part (pool.shared.perform task outcome).1 other
    rw [performs]
    cases other with
    | purged => exact absurd (List.mem_of_mem_eraseIdx member) others
    | _ => exact part
  · intro other member
    change other ∈ (pool.shared.perform task outcome).2 at member
    rw [performs] at member
    rw [parts other member]
    trivial

/-- One more removal is complete, with nothing standing and nothing stored. -/
theorem Sound.completes
    (sound : Sound pool)
    (stands : pool.tasks[index]? = some task)
    (gone : pool.shared.standing = none)
    (performs : pool.shared.perform task outcome =
      ({ pool.shared with
          stored := none
          clears := pool.shared.clears + 1 }, [])) :
    Sound (program.step pool (.advance index outcome)) := by
  apply Pool.Holds.advance sound stands
  · change Whole (pool.shared.perform task outcome).1
    rw [performs]
    refine ⟨sound.shared.stands, ?_, nofun⟩
    intro approval stood
    exact absurd (gone.symm.trans stood) nofun
  · intro other member part
    change Part (pool.shared.perform task outcome).1 other
    rw [performs]
    cases other with
    | start began => exact Nat.le_succ_of_le part
    | login began => exact Nat.le_succ_of_le part
    | save began => exact Nat.le_succ_of_le part
    | purged => exact ⟨part.1, rfl⟩
    | _ => exact part
  · intro other member
    change other ∈ (pool.shared.perform task outcome).2 at member
    rw [performs] at member
    cases member

/-- The credentials are removed, and the removal goes on. -/
theorem Sound.purge
    (sound : Sound pool)
    (stands : pool.tasks[index]? = some .cleared)
    (gone : pool.shared.standing = none) :
    Sound (program.step pool (.advance index .goes)) := by
  apply Pool.Holds.advance sound stands
  · exact ⟨sound.shared.stands, sound.shared.current, nofun⟩
  · intro other member part
    cases other with
    | purged => exact ⟨part.1, rfl⟩
    | _ => exact part
  · intro other member
    rw [List.mem_singleton.mp member]
    exact ⟨gone, rfl⟩

theorem Sound.store
    (sound : Sound pool)
    {approval : Approval}
    (stands : pool.tasks[index]? = some (.store approval))
    {left : List LinkTask}
    (performs : pool.shared.perform (.store approval) outcome =
      ({ pool.shared with stored := some approval.began }, left))
    (parts : ∀ other ∈ left, other = .rest) :
    Sound (program.step pool (.advance index outcome)) := by
  have own : pool.shared.standing = some approval :=
    sound.each _ (List.mem_of_getElem? stands)
  refine sound.saves stands (sound.shared.current _ own) ?_ performs parts
  intro member
  have gone := (sound.each _ member).1
  exact absurd (gone.symm.trans own) nofun

/-- A poll reads what is pending, which is what it goes on with. -/
theorem Sound.read
    (sound : Sound pool)
    (stands : pool.tasks[index]? = some .poll)
    (outcome : Outcome) :
    Sound (program.step pool (.advance index outcome)) := by
  have performs : pool.shared.perform .poll outcome =
      pool.shared.read outcome := by
    cases outcome <;> rfl
  unfold Account.read at performs
  cases pending : pool.shared.pending with
  | none =>
      simp only [pending] at performs
      exact sound.idle stands performs nofun
  | some approval =>
      have owns : pool.shared.Owns approval := by
        intro other same
        cases pending.symm.trans same
        rfl
      cases outcome with
      | ends =>
          simp only [pending] at performs
          exact sound.idle stands performs nofun
      | goes =>
          simp only [pending] at performs
          apply sound.idle stands performs
          intro other member
          rw [List.mem_singleton.mp member]
          exact owns
      | acts =>
          simp only [pending] at performs
          apply sound.idle stands performs
          intro other member
          rw [List.mem_singleton.mp member]
          exact owns
      | answered approved =>
          simp only [pending] at performs
          apply sound.idle stands performs
          intro other member
          rw [List.mem_singleton.mp member]
          trivial

theorem Sound.ask
    (sound : Sound pool)
    {approval : Approval}
    {approved : Bool}
    (stands : pool.tasks[index]? = some (.ask approval))
    (calm : ¬ AnsweredLate pool approval approved) :
    Sound (program.step pool (.advance index (.answered approved))) := by
  obtain ⟨standing, pending⟩ := not_or.mp calm
  apply sound.idle stands rfl
  intro other member
  rw [List.mem_singleton.mp member]
  constructor
  · intro second same
    by_contra different
    exact pending ⟨second, same, different⟩
  · intro given
    by_contra gone
    exact standing ⟨given, gone⟩

theorem Sound.finish
    (sound : Sound pool)
    {approval : Approval}
    {approved : Bool}
    (stands : pool.tasks[index]? = some (.finish approval approved)) :
    Sound (program.step pool (.advance index outcome)) := by
  obtain ⟨_, standing⟩ := sound.each _ (List.mem_of_getElem? stands)
  apply sound.taken stands rfl
  intro other member
  cases approved with
  | false => cases member
  | true =>
      rw [List.mem_singleton.mp member]
      exact standing rfl

theorem Sound.step
    (sound : Sound pool)
    (move : Move LinkCall Outcome)
    (calm : ¬ Slips pool move) :
    Sound (program.step pool move) := by
  cases move with
  | call request => exact sound.call request
  | advance index outcome =>
      cases stands : pool.tasks[index]? with
      | none =>
          rw [program.step_idle stands]
          exact sound
      | some task =>
          have own := sound.each _ (List.mem_of_getElem? stands)
          simp only [Slips, stands] at calm
          cases task with
          | start began =>
              cases outcome with
              | acts => exact sound.put stands calm
              | goes =>
                  apply sound.idle stands rfl
                  intro other member
                  rw [List.mem_singleton.mp member]
                  exact own
              | ends => exact sound.idle stands rfl nofun
              | answered approved => exact sound.idle stands rfl nofun
          | login began =>
              cases outcome with
              | acts =>
                  apply sound.cancel stands calm rfl
                  intro other member
                  rw [List.mem_singleton.mp member]
                  exact own
              | goes =>
                  apply sound.idle stands rfl
                  intro other member
                  rw [List.mem_singleton.mp member]
                  exact own
              | ends => exact sound.idle stands rfl nofun
              | answered approved => exact sound.idle stands rfl nofun
          | save began =>
              cases outcome with
              | acts =>
                  obtain ⟨current, others⟩ := not_or.mp calm
                  have began := Nat.le_antisymm own (Nat.not_lt.mp current)
                  exact sound.saves stands began others rfl nofun
              | goes => exact sound.idle stands rfl nofun
              | ends => exact sound.idle stands rfl nofun
              | answered approved => exact sound.idle stands rfl nofun
          | poll => exact sound.read stands outcome
          | note approval =>
              apply sound.idle stands rfl
              intro other member
              rw [List.mem_singleton.mp member]
              trivial
          | expire approval => exact sound.taken stands rfl nofun
          | ask approval =>
              cases outcome with
              | answered approved => exact sound.ask stands calm
              | goes => exact sound.idle stands rfl nofun
              | ends => exact sound.idle stands rfl nofun
              | acts => exact sound.idle stands rfl nofun
          | finish approval approved => exact sound.finish stands
          | store approval =>
              cases outcome with
              | acts => exact sound.store stands rfl nofun
              | goes => exact sound.store stands rfl (by simp)
              | ends => exact sound.idle stands rfl nofun
              | answered approved => exact sound.idle stands rfl nofun
          | clear =>
              apply sound.cancel stands calm rfl
              intro other member
              rw [List.mem_singleton.mp member]
              rfl
          | cleared =>
              cases outcome with
              | acts => exact sound.completes stands own rfl
              | goes => exact sound.purge stands own
              | ends => exact sound.idle stands rfl nofun
              | answered approved => exact sound.idle stands rfl nofun
          | purged =>
              cases outcome with
              | acts =>
                  apply sound.completes stands own.1
                  rw [← own.2]
                  rfl
              | goes => exact sound.idle stands rfl nofun
              | ends => exact sound.idle stands rfl nofun
              | answered approved => exact sound.idle stands rfl nofun
          | rest => exact sound.idle stands rfl nofun

end Account
end Daemon
end Hearthdeck
