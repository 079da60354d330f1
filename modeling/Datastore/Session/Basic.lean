import Datastore.Provider

/-!
# Sessions

A session is a system in use by one caller: named things the caller holds, some of them waiting for
a slot, and work that was put off. Work is done first come, first served, after every command until
none is left: a discarded connection is retired, and a waiter that was given a slot goes on. All
ways of giving a connection or a slot back are here, and each gives back one slot at most once.
Main statement: `agenda_settle`, no work is left undone.
-/

namespace Datastore

/-- What a waiter waits for. -/
inductive Wish
  | connection
  | slot
deriving DecidableEq

/-- What a waiter got. -/
inductive Gain
  | connection (c : Connection)
  | slot
deriving DecidableEq

/-- How far a waiter has come. -/
inductive Progress
  /-- In line for a slot. -/
  | queued
  /-- Given a slot, and about to go on. -/
  | granted
  /-- Behind a probe that never answers, with a slot. -/
  | probing (c : Connection)
  | finished (outcome : Except PoolError Gain)

/-- A thing that the caller holds. -/
inductive Holding
  /-- A connection with its slot. -/
  | pooled (c : Connection)
  /-- A connection without a slot. -/
  | bare (c : Connection)
  /-- A slot without a connection. -/
  | slot
  | waiter (wish : Wish) (progress : Progress)

/-- Work that was put off. -/
inductive Task
  | retire (c : Connection)
  | resume (name : String)

structure Session extends System where
  provider : Option Provider
  holdings : Table Holding
  agenda : List Task

namespace Session

def start (backend : Backend) (pool : Pool) (provider : Option Provider) : Session :=
  { System.start backend pool with provider, holdings := Table.empty, agenda := [] }

/-- Names a thing, or renames what goes by the name. -/
def hold (s : Session) (name : String) (thing : Holding) : Session :=
  { s with holdings := s.holdings.insert name thing }

def letGo (s : Session) (name : String) : Session := { s with holdings := s.holdings.erase name }

/-- The outcome of work on the system. -/
def withSystem (s : Session) (system : System) : Session := { s with toSystem := system }

def note (s : Session) (movement : Movement) : Session := s.withSystem (s.toSystem.note movement)

def putOff (s : Session) (task : Task) : Session := { s with agenda := s.agenda ++ [task] }

/-- The progress of a waiter changes. -/
def advanceWaiter (s : Session) (name : String) (progress : Progress) : Session :=
  match s.holdings.find? name with
  | some (.waiter wish _) => s.hold name (.waiter wish progress)
  | _ => s

/-- Gives a slot back: to the first in line, or to nobody. -/
def freeSlot (s : Session) : Session :=
  match s.pool.waiting with
  | [] => { s with pool := { s.pool with free := s.pool.free + 1 } }
  | name :: rest =>
    ({ s with pool := { s.pool with waiting := rest } }.advanceWaiter name .granted).putOff
      (.resume name)

/-- A connection that cannot be used again is retired later, if that is done where later work is
attended to, and only dropped otherwise. -/
def discard (s : Session) (attended : Bool) (c : Connection) : Session :=
  if attended then s.putOff (.retire c) else s.note (.forsaken c)

/-- Gives a pooled connection back with its slot. A transaction in flight or a closed pool keeps it
out of the queue. -/
def giveBack (s : Session) (attended : Bool) (c : Connection) : Session :=
  let settled :=
    if c.inTransaction then s.discard attended c
    else
      let c := c.stamp (some s.clock)
      if s.pool.closed then s.discard attended c else s.withSystem (s.toSystem.enqueue c)
  settled.freeSlot

/-- A waiter learns how its checkout ended; without a connection its slot is free again. -/
def deliver (s : Session) (name : String) : Provider.Checkout → Session
  | .ready c => s.hold name (.waiter .connection (.finished (.ok (.connection c))))
  | .stalled c => s.hold name (.waiter .connection (.probing c))
  | .failed error =>
    (s.hold name (.waiter .connection (.finished (.error (.connection error))))).freeSlot

/-- A waiter with a slot goes on, unless the slots were closed meanwhile. -/
def resume (s : Session) (name : String) : Session :=
  match s.holdings.find? name with
  | some (.waiter wish .granted) =>
    if s.pool.barred then (s.hold name (.waiter wish (.finished (.error .closed)))).freeSlot
    else
      match wish, s.provider with
      | .slot, _ => s.hold name (.waiter .slot (.finished (.ok .slot)))
      | .connection, none => s
      | .connection, some p =>
        let checkout := p.checkout s.toSystem
        (s.withSystem checkout.2).deliver name checkout.1
  | _ => s

/-- Does one piece of work. Failures of a late retirement are nobody's concern. -/
def perform (s : Session) : Task → Session
  | .retire c => s.withSystem (s.toSystem.retire c).2
  | .resume name => s.resume name

/-- Does at most so many pieces of work, oldest first. -/
def settleWithin : Nat → Session → Session
  | 0, s => s
  | fuel + 1, s =>
    match s.agenda with
    | [] => s
    | task :: rest => settleWithin fuel ({ s with agenda := rest }.perform task)

/-- A bound on the work ahead: each one in line may be given a slot and go on. -/
def workload (s : Session) : Nat := 2 * s.pool.waiting.length + s.agenda.length

/-- Does all work. -/
def settle (s : Session) : Session := settleWithin s.workload s

@[simp] theorem workload_hold (s : Session) (name : String) (thing : Holding) :
    (s.hold name thing).workload = s.workload := rfl

@[simp] theorem workload_advanceWaiter (s : Session) (name : String) (progress : Progress) :
    (s.advanceWaiter name progress).workload = s.workload := by
  unfold advanceWaiter
  split <;> rfl

/-- Whoever is given the slot leaves the line before going on. -/
theorem workload_freeSlot_le (s : Session) : s.freeSlot.workload ≤ s.workload := by
  rw [freeSlot]
  split
  · exact Nat.le_refl _
  · next name rest line =>
    have moved := workload_advanceWaiter
      { s with pool := { s.pool with waiting := rest } } name .granted
    simp only [workload, putOff, line, List.length_append, List.length_cons,
      List.length_nil] at moved ⊢
    omega

theorem workload_withSystem (s : Session) {system : System}
    (line : system.pool.waiting = s.pool.waiting) :
    (s.withSystem system).workload = s.workload := by
  simp [workload, withSystem, line]

theorem workload_deliver_le (s : Session) (name : String) (outcome : Provider.Checkout) :
    (s.deliver name outcome).workload ≤ s.workload := by
  cases outcome with
  | ready c => exact Nat.le_refl _
  | stalled c => exact Nat.le_refl _
  | failed error => exact workload_freeSlot_le (s.hold name _)

theorem workload_resume_le (s : Session) (name : String) :
    (s.resume name).workload ≤ s.workload := by
  rw [resume]
  split
  · next wish _ =>
    split
    · exact workload_freeSlot_le (s.hold name _)
    · split
      · exact Nat.le_refl _
      · exact Nat.le_refl _
      · refine Nat.le_trans (workload_deliver_le _ name _) (Nat.le_of_eq ?_)
        exact s.workload_withSystem (by rw [Provider.checkout_pool])
  · exact Nat.le_refl _

/-- No piece of work leaves more work behind than there was beside it. -/
theorem workload_perform_le (s : Session) (task : Task) :
    (s.perform task).workload ≤ s.workload := by
  cases task with
  | retire c => exact Nat.le_of_eq (s.workload_withSystem rfl)
  | resume name => exact s.workload_resume_le name

theorem agenda_settleWithin (fuel : Nat) (s : Session) (enough : s.workload ≤ fuel) :
    (settleWithin fuel s).agenda = [] := by
  induction fuel generalizing s with
  | zero =>
    have none : s.agenda.length = 0 := by
      simp only [workload] at enough
      omega
    exact List.length_eq_zero_iff.mp none
  | succ fuel ih =>
    rw [settleWithin]
    split
    · assumption
    · next task rest todo =>
      apply ih
      have less := workload_perform_le { s with agenda := rest } task
      simp only [workload, todo, List.length_cons] at enough less ⊢
      omega

/-- The bound is enough: nothing is left to do. -/
theorem agenda_settle (s : Session) : s.settle.agenda = [] :=
  agenda_settleWithin _ s (Nat.le_refl _)

end Session
end Datastore
