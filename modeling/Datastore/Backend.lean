import Datastore.Duration
import Datastore.Error
import Datastore.Table

/-!
# The backend

An in-memory database server behind all handles of a session. It executes nothing: a statement
answers a configured row count or a configured failure, and six switches make other calls fail or
a probe never answer. Every call that counts is written to a log, oldest first; handles and
transactions are numbered from 1 in the order in which they were opened and begun. All counters are
views of the log.
-/

namespace Datastore

/-- A call that the backend took note of. -/
inductive Call
  /-- An attempt to open that failed. -/
  | refused (dsn : String)
  | opened (dsn : String)
  | executed (handle : Nat) (statement : String)
  | pinged (handle : Nat)
  | begun (handle : Nat)
  | committed (transaction : Nat)
  | rolledBack (transaction : Nat)
  | lifetimeSet (handle : Nat) (lifetime : Duration)
  | idleLimitSet (handle : Nat) (limit : Nat)
  | closed (handle : Nat)
deriving DecidableEq

namespace Call

def isOpened : Call → Bool
  | .opened _ => true
  | _ => false

def isPinged : Call → Bool
  | .pinged _ => true
  | _ => false

def isBegun : Call → Bool
  | .begun _ => true
  | _ => false

def isCommitted : Call → Bool
  | .committed _ => true
  | _ => false

def isRolledBack : Call → Bool
  | .rolledBack _ => true
  | _ => false

/-- The data source name of an attempt to open. -/
def dsn? : Call → Option String
  | .refused dsn | .opened dsn => some dsn
  | _ => none

def statement? : Call → Option String
  | .executed _ statement => some statement
  | _ => none

def lifetime? : Call → Option (Nat × Duration)
  | .lifetimeSet handle lifetime => some (handle, lifetime)
  | _ => none

def idleLimit? : Call → Option (Nat × Nat)
  | .idleLimitSet handle limit => some (handle, limit)
  | _ => none

def closed? : Call → Option Nat
  | .closed handle => some handle
  | _ => none

end Call

/-- The switches, by the calls that they affect. -/
inductive Fault
  | opens
  | pings
  /-- A probe never answers; this goes before its failing. -/
  | stalls
  | begins
  | commits
  | rollbacks
deriving DecidableEq

structure Backend where
  log : List Call
  /-- Row counts of statements; zero for all others. -/
  affected : Table Nat
  /-- Statements that fail. -/
  failing : List String
  /-- Switches that are on. -/
  faults : List Fault

namespace Backend

/-- Nothing has happened and nothing fails. -/
def fresh : Backend := ⟨[], Table.empty, [], []⟩

def has (b : Backend) (fault : Fault) : Bool := b.faults.contains fault

def setFault (b : Backend) (fault : Fault) (on : Bool) : Backend :=
  let others := b.faults.filter (· ≠ fault)
  { b with faults := if on then fault :: others else others }

def failStatement (b : Backend) (statement : String) : Backend :=
  { b with failing := statement :: b.failing }

def record (b : Backend) (call : Call) : Backend := { b with log := b.log ++ [call] }

def opens (b : Backend) : Nat := b.log.countP Call.isOpened

def pings (b : Backend) : Nat := b.log.countP Call.isPinged

def begins (b : Backend) : Nat := b.log.countP Call.isBegun

def commits (b : Backend) : Nat := b.log.countP Call.isCommitted

def rollbacks (b : Backend) : Nat := b.log.countP Call.isRolledBack

/-- The handles that were closed, in order. -/
def closedHandles (b : Backend) : List Nat := b.log.filterMap Call.closed?

def closes (b : Backend) : Nat := b.closedHandles.length

def isClosed (b : Backend) (handle : Nat) : Bool := b.closedHandles.contains handle

/-- Opens a handle and gives its number. -/
def openHandle (b : Backend) (dsn : String) : Except DriverError Nat × Backend :=
  if b.has .opens then (.error (.ofLink "connection refused"), b.record (.refused dsn))
  else
    let after := b.record (.opened dsn)
    (.ok after.opens, after)

def closedError : DriverError := .ofLink "database is closed"

/-- Runs a statement without asking whether the handle is open. -/
def run (b : Backend) (handle : Nat) (statement : String) : Except DriverError Nat × Backend :=
  let result := if b.failing.contains statement then
      .error (.permanent ("statement rejected: " ++ statement))
    else .ok ((b.affected.find? statement).getD 0)
  (result, b.record (.executed handle statement))

/-- Runs a statement on an open handle. -/
def execute (b : Backend) (handle : Nat) (statement : String) : Except DriverError Nat × Backend :=
  if b.isClosed handle then (.error closedError, b) else b.run handle statement

/-- The end of a probe, if it has one. -/
inductive Probe
  | alive
  | failed (error : DriverError)
  | stalled
deriving DecidableEq

def ping (b : Backend) (handle : Nat) : Probe × Backend :=
  let outcome :=
    if b.isClosed handle then .failed closedError
    else if b.has .stalls then .stalled
    else if b.has .pings then .failed (.ofLink "connection reset by peer")
    else .alive
  (outcome, b.record (.pinged handle))

/-- Begins a transaction and gives its number. -/
def beginTransaction (b : Backend) (handle : Nat) : Except DriverError Nat × Backend :=
  if b.isClosed handle then (.error closedError, b)
  else if b.has .begins then (.error (.permanent "cannot begin transaction"), b)
  else
    let after := b.record (.begun handle)
    (.ok after.begins, after)

def commit (b : Backend) (transaction : Nat) : Except DriverError Unit × Backend :=
  (if b.has .commits then .error (.permanent "commit failed") else .ok (),
    b.record (.committed transaction))

def rollback (b : Backend) (transaction : Nat) : Except DriverError Unit × Backend :=
  (if b.has .rollbacks then .error (.permanent "rollback failed") else .ok (),
    b.record (.rolledBack transaction))

def setLifetime (b : Backend) (handle : Nat) (lifetime : Duration) : Backend :=
  b.record (.lifetimeSet handle lifetime)

def setIdleLimit (b : Backend) (handle : Nat) (limit : Nat) : Backend :=
  b.record (.idleLimitSet handle limit)

def close (b : Backend) (handle : Nat) : Except DriverError Unit × Backend :=
  if b.isClosed handle then (.error (.permanent "database already closed"), b)
  else (.ok (), b.record (.closed handle))

end Backend
end Datastore
