import Datastore.Config.Dsn
import Datastore.Dialect
import Datastore.Driver
import Datastore.System

/-!
# Providers

A provider makes connections as its configuration says and lends them out of a pool. A checkout,
which holds a slot already, takes the longest idle connection. One that has been idle for more than
a minute is probed first: if the probe fails, the connection is tuned, retired and replaced by a
new one; if it never answers, the checkout never ends. With no idle connection a new one is made.
Main statement: `checkout_pool`, a checkout takes the front of the queue and nothing else.
-/

namespace Datastore

structure Provider where
  config : Config
  /-- The names under which the backend can be reached. -/
  drivers : DriverRegistry Unit
  dialects : DialectRegistry
  tuning : Tuning

namespace Provider

/-- Refuses a configuration without a driver name; an unset pool size becomes one. -/
def build (config : Config) (drivers : DriverRegistry Unit) (dialects : DialectRegistry) :
    Except PoolError Provider :=
  match config.validate with
  | .error error => .error (.configuration error.message)
  | .ok () =>
    .ok {
      config := if config.maxPoolSize = 0 then config.withMaxPoolSize 1 else config
      drivers, dialects
      tuning := Tuning.ofConfig config }

/-- The pool that a provider starts with. -/
def pool (p : Provider) : Pool := Pool.ofCapacity p.config.effectivePoolSize

def describe (p : Provider) (pool : Pool) : String :=
  Text.record "ConnectionProvider"
    [("driver", Text.quoted p.config.driverName),
     ("descriptor", Text.quoted p.config.descriptor),
     ("pool", pool.describe),
     ("tuning", p.tuning.describe)]

/-- Runs the initial statements on a handle until one fails. -/
def initialise (p : Provider) (handle : Nat) :
    List String → Backend → Except Error Unit × Backend
  | [], b => (.ok (), b)
  | statement :: rest, b =>
    match b.execute handle statement with
    | (.error source, b) => (.error (.initSqlFailed statement p.config.descriptor source), b)
    | (.ok _, b) => p.initialise handle rest b

/-- Makes a connection: names the data source, finds the driver, opens a handle, runs the initial
statements and wraps the handle. The first failure ends it, and an open handle stays open. -/
def manufacture (p : Provider) (s : System) : Except Error Connection × System :=
  match p.config.dsn with
  | .error error => (.error error, s)
  | .ok dsn =>
    match p.drivers.find? p.config.driverName with
    | none => (.error (.unknownDriver p.config.driverName), s)
    | some () =>
      match s.backend.openHandle dsn with
      | (.error source, backend) =>
        (.error (.openFailed p.config.driverName p.config.descriptor source), { s with backend })
      | (.ok handle, backend) =>
        match p.initialise handle p.config.initSql backend with
        | (.error error, backend) => (.error error, { s with backend }.note (.orphaned handle))
        | (.ok (), backend) =>
          let wrapped := { s with backend }.wrap handle (p.dialects.resolve p.config.driverName)
          (.ok wrapped.1, wrapped.2)

/-- Longer than this at rest, a connection is probed before use. -/
def staleAfter : Duration := Duration.ofParts 60 0

def isStale (now : Duration) (c : Connection) : Bool :=
  match c.idleFor now with
  | some idle => decide (staleAfter.nanos < idle.nanos)
  | none => false

def findingOf : Backend.Probe → Finding
  | .alive => .alive
  | .failed _ => .failed
  | .stalled => .stalled

/-- Probes a connection that was at rest for too long. -/
def examine (s : System) (c : Connection) : Finding × System :=
  if isStale s.clock c then
    let outcome := s.backend.ping c.handle
    let finding := findingOf outcome.1
    (finding, { s with backend := outcome.2 }.note (.examined c finding))
  else (.recent, s.note (.examined c .recent))

/-- What becomes of a checkout. -/
inductive Checkout
  | ready (c : Connection)
  | failed (error : Error)
  /-- The probe of this connection never answers. -/
  | stalled (c : Connection)
deriving DecidableEq

/-- Hands out a new connection. -/
def checkoutNew (p : Provider) (s : System) : Checkout × System :=
  match p.manufacture s with
  | (.error error, s) => (.failed error, s)
  | (.ok c, s) => (.ready c, s.note (.issued c))

/-- Hands out a connection taken from the queue, or a new one in its place. -/
def recycle (p : Provider) (s : System) (c : Connection) : Checkout × System :=
  let examined := examine s c
  let s := examined.2
  let tuned := { s with backend := c.tune p.tuning s.backend }
  match examined.1 with
  | .stalled => (.stalled c, s)
  | .recent | .alive => (.ready c, tuned.note (.issued c))
  | .failed => p.checkoutNew (tuned.retire c).2

/-- A checkout by a holder of a slot. -/
def checkout (p : Provider) (s : System) : Checkout × System :=
  match s.pool.idle with
  | [] => p.checkoutNew s
  | c :: rest => p.recycle ({ s with pool := { s.pool with idle := rest } }.note (.taken c)) c

@[simp] theorem manufacture_pool (p : Provider) (s : System) :
    (p.manufacture s).2.pool = s.pool := by
  unfold manufacture
  split
  · rfl
  · split
    · rfl
    · split
      · rfl
      · split <;> rfl

@[simp] theorem examine_pool (s : System) (c : Connection) : (examine s c).2.pool = s.pool := by
  rw [examine]
  split <;> rfl

@[simp] theorem checkoutNew_pool (p : Provider) (s : System) :
    (p.checkoutNew s).2.pool = s.pool := by
  have made := p.manufacture_pool s
  rw [checkoutNew]
  split <;> simp_all

@[simp] theorem recycle_pool (p : Provider) (s : System) (c : Connection) :
    (p.recycle s c).2.pool = s.pool := by
  unfold recycle
  dsimp only
  split <;> simp

/-- A checkout takes at most the front of the queue and leaves the rest of the pool alone. -/
theorem checkout_pool (p : Provider) (s : System) :
    (p.checkout s).2.pool = { s.pool with idle := s.pool.idle.tail } := by
  rw [checkout]
  split
  · next empty =>
    rw [checkoutNew_pool, empty]
    cases hp : s.pool with
    | mk => simp_all
  · next c rest front => simp [front]

end Provider
end Datastore
