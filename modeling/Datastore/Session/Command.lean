import Datastore.Session.Basic

/-!
# Commands and answers

What a caller can ask of a session and what it is told. A command names the things it makes and the
things it uses; `Misuse` lists what can be wrong with that.
-/

namespace Datastore.Session

/-- Which native handle a statement goes to. -/
inductive NativeKind
  | database
  | transaction
deriving DecidableEq

inductive Command
  /-- Check a connection out, unless that would have to wait. -/
  | get (name : String)
  /-- Check a connection out if a slot is free. -/
  | tryGet (name : String)
  /-- Take a slot, unless that would have to wait. -/
  | acquire (name : String)
  /-- Take a slot if one is free. -/
  | tryAcquire (name : String)
  /-- Begin to check a connection out. -/
  | waitGet (name : String)
  /-- Begin to take a slot. -/
  | waitAcquire (name : String)
  /-- Collect what a waiter got. -/
  | poll (name : String)
  /-- Give a waiter up, and back what it got. -/
  | cancel (name : String)
  /-- Make a connection outside of the pool. -/
  | newConnection (name : String)
  /-- Open a handle and wrap it, outside of the pool and the configuration. -/
  | openDirect (name driver dsn : String)
  /-- Take an idle connection out of the queue. -/
  | dequeue (name : String)
  | closeProvider
  | closePool
  | describeProvider
  | describePool
  /-- Let time pass. -/
  | advance (time : Duration)
  | setFault (fault : Fault) (on : Bool)
  | failStatement (statement : String)
  /-- Give a pooled connection back. -/
  | release (name : String)
  /-- Let go of a connection or a slot. -/
  | drop (name : String)
  /-- Let go of a pooled connection that the pool does not take back, where no later work is
  attended to. -/
  | dropUnattended (name : String)
  /-- Let go of a connection or a slot, or give a waiter up, where no later work is attended to. -/
  | abandon (name : String)
  | closeNow (name : String)
  /-- Take a pooled connection out of the pool for good. -/
  | detach (name bareName : String)
  /-- Put a bare connection into the idle queue. -/
  | enqueue (name : String)
  | beginTransaction (name : String)
  | commit (name : String)
  | rollback (name : String)
  | execute (name statement : String)
  | ping (name : String)
  /-- Stamp a connection with the time, or take the stamp off. -/
  | setLastUsed (name : String) (now : Bool)
  | inspect (name : String)
  | describe (name : String)
  /-- Run a statement on a native handle. -/
  | native (name : String) (kind : NativeKind) (statement : String)
  | nativeClose (name : String)
  /-- Begin a native transaction and end it at once. -/
  | nativeBegin (name : String) (commit : Bool)
  | tune (name : String) (tuning : Tuning)
deriving DecidableEq

/-- The name of the thing that a command makes. -/
def Command.newName? : Command → Option String
  | .get name | .tryGet name | .acquire name | .tryAcquire name | .waitGet name
  | .waitAcquire name | .newConnection name | .openDirect name _ _ | .dequeue name
  | .detach _ name => some name
  | _ => none

/-- What is wrong with a command that is not carried out. -/
inductive Misuse
  | nameInUse
  | noProvider
  | noSuchHandle
  | noSuchConnection
  | wrongKind
deriving DecidableEq

def Misuse.message : Misuse → String
  | .nameInUse => "name in use"
  | .noProvider => "no provider"
  | .noSuchHandle => "no such handle"
  | .noSuchConnection => "no such connection"
  | .wrongKind => "wrong kind of handle"

/-- What a connection tells about itself. -/
structure ConnectionInfo where
  id : Nat
  dialect : Dialect
  inTransaction : Bool
  idleFor : Option Duration
  age : Duration
deriving DecidableEq

inductive Answer
  | done
  | nothing
  /-- It would have to wait, and was given up. -/
  | blocked
  | waiting
  | slot
  | connection (id : Nat)
  /-- The closed pool does not take this connection. -/
  | refused (id : Nat)
  | rows (count : Nat)
  /-- Is the pool closed? -/
  | closed (value : Bool)
  | drained (ids : List Nat)
  | cancelled (wasDone : Bool)
  | provider (driver descriptor : String) (maxPoolSize : Nat) (description : String)
  | pool (capacity : Nat) (description : String)
  | info (value : ConnectionInfo)
  | text (description : String)
  /-- No result: there is no transaction. -/
  | native (view : NativeView) (result : Option (Except DriverError Nat))
  | tuned (tuning : Tuning)
  | poolError (error : PoolError)
  | error (error : Error)
  | driverError (error : DriverError)
  | misuse (misuse : Misuse)

end Datastore.Session
