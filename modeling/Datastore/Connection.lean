import Datastore.Backend
import Datastore.Dialect
import Datastore.Text.Quoted
import Datastore.Tuning

/-!
# Connections

A connection wraps one native handle and at most one transaction on it. With a dialect that has no
transactions, all transaction calls succeed and reach nobody. Otherwise a transaction that is begun
stays until it is committed or rolled back, successfully or not, or the connection is retired.
-/

namespace Datastore

structure Connection where
  id : Nat
  /-- The number of the native handle. -/
  handle : Nat
  dialect : Dialect
  /-- The number of the native transaction in flight. -/
  transaction : Option Nat
  createdAt : Duration
  /-- When it was last given back. -/
  lastUsed : Option Duration
deriving DecidableEq

/-- A native handle as seen through a connection. -/
inductive NativeView
  | database
  | transaction (active : Bool)
deriving DecidableEq

def NativeView.describe : NativeView → String
  | .database => "NativeHandle::Database"
  | .transaction true => "NativeHandle::Transaction(active)"
  | .transaction false => "NativeHandle::Transaction(none)"

namespace Connection

/-- Wraps a handle that was just opened. -/
def wrap (id handle : Nat) (dialect : Dialect) (now : Duration) : Connection :=
  ⟨id, handle, dialect, none, now, none⟩

def inTransaction (c : Connection) : Bool := c.transaction.isSome

def stamp (c : Connection) (at? : Option Duration) : Connection := { c with lastUsed := at? }

def idleFor (c : Connection) (now : Duration) : Option Duration := c.lastUsed.map now.since

def age (c : Connection) (now : Duration) : Duration := now.since c.createdAt

/-- Begins a transaction; one in flight is left alone. -/
def beginTransaction (c : Connection) (b : Backend) : Except Error Unit × Connection × Backend :=
  if !c.dialect.transactional then (.ok (), c, b)
  else if c.inTransaction then (.error .transactionAlreadyActive, c, b)
  else
    match b.beginTransaction c.handle with
    | (.error source, b) => (.error (.driver source), c, b)
    | (.ok number, b) => (.ok (), { c with transaction := some number }, b)

/-- Ends the transaction in flight by a native call; it is gone even if the call fails. -/
def finish (c : Connection) (b : Backend)
    (call : Backend → Nat → Except DriverError Unit × Backend) :
    Except Error Unit × Connection × Backend :=
  if !c.dialect.transactional then (.ok (), c, b)
  else
    match c.transaction with
    | none => (.error .noActiveTransaction, c, b)
    | some number =>
      let outcome := call b number
      (outcome.1.mapError .driver, { c with transaction := none }, outcome.2)

def commit (c : Connection) (b : Backend) : Except Error Unit × Connection × Backend :=
  c.finish b Backend.commit

def rollback (c : Connection) (b : Backend) : Except Error Unit × Connection × Backend :=
  c.finish b Backend.rollback

/-- Runs a statement, in the transaction if there is one. -/
def execute (c : Connection) (b : Backend) (statement : String) :
    Except Error Nat × Backend :=
  let outcome :=
    if c.inTransaction then b.run c.handle statement else b.execute c.handle statement
  (outcome.1.mapError .driver, outcome.2)

/-- The lifetime set right before closing, so that links the driver still holds go away soon. -/
def retireLifetime : Duration := Duration.ofMillis 1000

/-- Closes the native handle; a transaction in flight is left to the driver. -/
def retire (c : Connection) (b : Backend) : Except DriverError Unit × Backend :=
  (b.setLifetime c.handle retireLifetime).close c.handle

/-- Applies the settings that are present, the lifetime first. -/
def tune (c : Connection) (tuning : Tuning) (b : Backend) : Backend :=
  let b := match tuning.lifetime with
    | some lifetime => b.setLifetime c.handle lifetime
    | none => b
  match tuning.maxIdle with
  | some limit => b.setIdleLimit c.handle limit
  | none => b

def describe (c : Connection) : String :=
  Text.record "Connection"
    [("id", Text.count c.id),
     ("dialect", Text.quoted c.dialect.name),
     ("in_transaction", Text.flag c.inTransaction),
     ("last_used", Text.optional (c.lastUsed.map fun _ => ".."))]

end Connection
end Datastore
