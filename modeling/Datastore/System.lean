import Datastore.Pool

/-!
# The system around a pool

The backend, the pool, the clock and the count of connections made, with a journal of what became
of every connection. Nothing is decided by the journal: it keeps in one list, with times, what
would otherwise be spread over a whole run.
-/

namespace Datastore

/-- How the examination of an idle connection ended. -/
inductive Finding
  /-- Not idle for long enough to be probed. -/
  | recent
  | alive
  | failed
  | stalled
deriving DecidableEq

/-- What happens to a connection or handle. -/
inductive Movement
  /-- Wrapped for the first time. -/
  | made (c : Connection)
  /-- Left open by a failed initial statement, with nobody to hold it. -/
  | orphaned (handle : Nat)
  /-- Put into the idle queue. -/
  | entered (c : Connection)
  /-- Taken out of the queue by a checkout. -/
  | taken (c : Connection)
  /-- Taken out of the queue for the caller. -/
  | withdrawn (c : Connection)
  /-- Taken out of the queue by closing the pool. -/
  | drained (c : Connection)
  /-- Examined after it was taken. -/
  | examined (c : Connection) (finding : Finding)
  /-- Handed out by a checkout. -/
  | issued (c : Connection)
  /-- Probed by its holder. -/
  | probed (c : Connection)
  /-- Retired, which closes its handle. -/
  | retired (c : Connection)
  /-- Dropped without closing its handle. -/
  | forsaken (c : Connection)
deriving DecidableEq

structure System where
  backend : Backend
  pool : Pool
  /-- Time since the start. -/
  clock : Duration
  /-- Connections made so far; the next one gets the next number. -/
  made : Nat
  journal : List (Duration × Movement)

namespace System

def start (backend : Backend) (pool : Pool) : System := ⟨backend, pool, Duration.zero, 0, []⟩

/-- Writes into the journal. -/
def note (s : System) (movement : Movement) : System :=
  { s with journal := s.journal ++ [(s.clock, movement)] }

/-- Makes a connection of an open handle. -/
def wrap (s : System) (handle : Nat) (dialect : Dialect) : Connection × System :=
  let c := Connection.wrap (s.made + 1) handle dialect s.clock
  (c, { s with made := s.made + 1 }.note (.made c))

/-- Closes a connection for good. -/
def retire (s : System) (c : Connection) : Except DriverError Unit × System :=
  let outcome := c.retire s.backend
  (outcome.1, { s with backend := outcome.2 }.note (.retired c))

/-- Puts a connection into the idle queue. -/
def enqueue (s : System) (c : Connection) : System :=
  { s with pool := s.pool.enqueue c }.note (.entered c)

/-- Takes the longest idle connection for the caller. -/
def withdraw (s : System) : Option Connection × System :=
  match s.pool.idle with
  | [] => (none, s)
  | c :: rest => (some c, { s with pool := { s.pool with idle := rest } }.note (.withdrawn c))

/-- Closes the queue and takes out all idle connections, and then closes the slots; nobody waits in
line any more. -/
def close (s : System) : List Connection × System :=
  let emptied := { s with pool := { s.pool with idle := [], closed := true } }
  let barred := { emptied with pool := { emptied.pool with waiting := [], barred := true } }
  (s.pool.idle, s.pool.idle.foldl (fun s c => s.note (.drained c)) barred)

/-- Retires connections one after the other, whatever comes of it. -/
def retireAll (s : System) (cs : List Connection) : System :=
  cs.foldl (fun s c => (s.retire c).2) s

@[simp] theorem note_pool (s : System) (movement : Movement) :
    (s.note movement).pool = s.pool := rfl

@[simp] theorem wrap_pool (s : System) (handle : Nat) (dialect : Dialect) :
    (s.wrap handle dialect).2.pool = s.pool := rfl

@[simp] theorem retire_pool (s : System) (c : Connection) : (s.retire c).2.pool = s.pool := rfl

end System
end Datastore
