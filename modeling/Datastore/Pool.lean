import Datastore.Connection

/-!
# Pools

A pool bounds how many connections are out at once by slots, and keeps idle connections in a queue,
first in first out. Whoever finds no free slot waits in line, and a slot that is given back goes to
the first in line. The queue itself has no bound. A closed pool keeps nothing. The queue and the
slots are closed one after the other, and each has a mark of its own that it is.
-/

namespace Datastore

structure Pool where
  /-- How many slots there are. -/
  capacity : Nat
  /-- Slots that nobody holds. -/
  free : Nat
  /-- Who waits for a slot, the first in line first. -/
  waiting : List String
  /-- Connections at rest, the longest idle first. -/
  idle : List Connection
  /-- Nothing is put into the queue any more. -/
  closed : Bool
  /-- No slot is given out any more. -/
  barred : Bool
deriving DecidableEq

/-- What a pool tells about itself. -/
structure PoolStatus where
  available : Nat
  inUse : Nat
  max : Nat
deriving DecidableEq

namespace Pool

/-- The most slots a pool can have. -/
def maxCapacity : Nat := Nat.pow 2 61 - 1

/-- An open pool without connections; no slots stands for one. -/
def ofCapacity (capacity : Nat) : Pool := ⟨max capacity 1, max capacity 1, [], [], false, false⟩

/-- A closed pool no longer counts its slots. -/
def status (p : Pool) : PoolStatus where
  available := p.idle.length
  inUse := if p.closed then 0 else p.capacity - p.free
  max := p.capacity

/-- Takes one of the free slots. -/
def takeSlot (p : Pool) : Pool := { p with free := p.free - 1 }

/-- Puts a connection behind the others. -/
def enqueue (p : Pool) (c : Connection) : Pool := { p with idle := p.idle ++ [c] }

def describe (p : Pool) : String :=
  let status := p.status
  Text.record "ConnectionPool"
    [("status", Text.record "PoolStatus"
       [("available", Text.count status.available),
        ("in_use", Text.count status.inUse),
        ("max", Text.count status.max)]),
     ("closed", Text.flag p.closed)]

end Pool
end Datastore
