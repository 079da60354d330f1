import Datastore.Config.Basic

/-!
# Tuning

Two settings of a native handle that a configuration may carry as parameters. Each is applied when
an idle connection is checked out, and only if its parameter is present.
-/

namespace Datastore

structure Tuning where
  /-- How long the handle may keep a link. -/
  lifetime : Option Duration
  /-- How many idle links the handle may keep. -/
  maxIdle : Option Nat
deriving DecidableEq

namespace Tuning

def lifetimeKey : String := "connMaxLifetimeMs"

/-- Milliseconds for a lifetime that is not a number. -/
def defaultLifetime : Nat := 1000

def maxIdleKey : String := "maxIdleConns"

/-- The limit for one that is not a number. -/
def defaultMaxIdle : Int := 1

def none : Tuning := ⟨.none, .none⟩

/-- Reads the two parameters. A lifetime of zero is no lifetime, a negative limit is zero. -/
def ofConfig (c : Config) : Tuning where
  lifetime :=
    if c.has lifetimeKey then
      (c.duration? lifetimeKey (Duration.ofMillis 1) defaultLifetime).filter (· ≠ Duration.zero)
    else .none
  maxIdle := if c.has maxIdleKey then some (c.integer maxIdleKey defaultMaxIdle).toNat else .none

def isEmpty (t : Tuning) : Bool := t.lifetime.isNone && t.maxIdle.isNone

def describe (t : Tuning) : String :=
  Text.record "PoolTuning"
    [("conn_max_lifetime", Text.optional (t.lifetime.map Duration.describe)),
     ("max_idle_conns", Text.optional (t.maxIdle.map Text.count))]

end Tuning
end Datastore
