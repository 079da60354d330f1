import Datastore.Session.Command

/-!
# Carrying out commands

`Session.step` carries out one command and then all work that became due; `Session.run` does so for
a list of commands and reports the state after each. A misused command changes nothing.
-/

namespace Datastore.Session

/-- The connection of a pooled or bare holding. -/
def connection? (s : Session) (name : String) : Option Connection :=
  match s.holdings.find? name with
  | some (.pooled c) | some (.bare c) => some c
  | _ => none

/-- Replaces the connection of a pooled or bare holding. -/
def setConnection (s : Session) (name : String) (c : Connection) : Session :=
  match s.holdings.find? name with
  | some (.pooled _) => s.hold name (.pooled c)
  | some (.bare _) => s.hold name (.bare c)
  | _ => s

def misused (s : Session) (misuse : Misuse) : Answer × Session := (.misuse misuse, s)

def withProvider (s : Session) (use : Provider → Answer × Session) : Answer × Session :=
  match s.provider with
  | some p => use p
  | none => s.misused .noProvider

def withHolding (s : Session) (name : String) (use : Holding → Answer × Session) :
    Answer × Session :=
  match s.holdings.find? name with
  | some thing => use thing
  | none => s.misused .noSuchHandle

def withConnection (s : Session) (name : String) (use : Connection → Answer × Session) :
    Answer × Session :=
  match s.connection? name with
  | some c => use c
  | none => s.misused .noSuchConnection

def takeSlot (s : Session) : Session := { s with pool := s.pool.takeSlot }

/-- Whoever would wait for a slot asks first whether the pool is closed. -/
def unlessClosed (s : Session) (outcome : Answer × Session) : Answer × Session :=
  if s.pool.closed then (.poolError .closed, s) else outcome

/-- A checkout at once. One that fails or does not end gives its slot back. -/
def checkOut (s : Session) (p : Provider) (name : String) (noSlot : Answer) : Answer × Session :=
  if s.pool.barred then (.poolError .closed, s)
  else if s.pool.free = 0 then (noSlot, s)
  else
    let checkout := p.checkout s.takeSlot.toSystem
    let s := s.withSystem checkout.2
    match checkout.1 with
    | .ready c => (.connection c.id, s.hold name (.pooled c))
    | .failed error => (.poolError (.connection error), s.freeSlot)
    | .stalled c => (.blocked, (s.discard true c).freeSlot)

/-- A slot at once. -/
def acquireSlot (s : Session) (name : String) (noSlot : Answer) : Answer × Session :=
  if s.pool.barred then (.poolError .closed, s)
  else if s.pool.free = 0 then (noSlot, s)
  else (.slot, s.takeSlot.hold name .slot)

/-- A waiter takes a free slot or gets in line. -/
def lineUp (s : Session) (wish : Wish) (name : String) : Session :=
  if s.pool.closed || s.pool.barred then s.hold name (.waiter wish (.finished (.error .closed)))
  else if s.pool.free = 0 then
    { s with pool := { s.pool with waiting := s.pool.waiting ++ [name] } }.hold name
      (.waiter wish .queued)
  else (s.takeSlot.hold name (.waiter wish .granted)).putOff (.resume name)

/-- Collects what a waiter got; an error ends it. -/
def collect (s : Session) (name : String) : Progress → Answer × Session
  | .finished (.ok (.connection c)) => (.connection c.id, s.hold name (.pooled c))
  | .finished (.ok .slot) => (.slot, s.hold name .slot)
  | .finished (.error error) => (.poolError error, s.letGo name)
  | .queued | .granted | .probing _ => (.waiting, s)

/-- Gives a waiter up wherever it is. -/
def giveUp (s : Session) (attended : Bool) (name : String) (progress : Progress) :
    Answer × Session :=
  let s := s.letGo name
  match progress with
  | .queued =>
    (.cancelled false,
      { s with pool := { s.pool with waiting := s.pool.waiting.filter (· ≠ name) } })
  | .granted => (.cancelled false, s.freeSlot)
  | .probing c => (.cancelled false, (s.discard attended c).freeSlot)
  | .finished (.ok (.connection c)) => (.cancelled true, s.giveBack attended c)
  | .finished (.ok .slot) => (.cancelled true, s.freeSlot)
  | .finished (.error _) => (.cancelled true, s)

/-- Lets go of what is held under a name. -/
def partWith (s : Session) (attended : Bool) (name : String) : Holding → Answer × Session
  | .pooled c => (.done, (s.letGo name).giveBack attended c)
  | .bare c => (.done, (s.letGo name).note (.forsaken c))
  | .slot => (.done, (s.letGo name).freeSlot)
  | .waiter _ progress => s.giveUp attended name progress

/-- The waiter of this name learns that the pool is closed. -/
def refuseWaiter (s : Session) (name : String) : Session :=
  s.advanceWaiter name (.finished (.error .closed))

/-- Closes the pool; all in line learn it. -/
def closePool (s : Session) : List Connection × Session :=
  let outcome := s.toSystem.close
  (outcome.1, s.pool.waiting.foldl refuseWaiter (s.withSystem outcome.2))

/-- Wraps a handle and holds the connection. -/
def holdNew (s : Session) (name : String) (made : Connection × System) : Answer × Session :=
  (.connection made.1.id, (s.withSystem made.2).hold name (.bare made.1))

def answerOf : Except Error Unit → Answer
  | .ok () => .done
  | .error error => .error error

def driverAnswerOf : Except DriverError Unit → Answer
  | .ok () => .done
  | .error error => .driverError error

/-- A call that may change the transaction of a connection. -/
def transact (s : Session) (name : String)
    (call : Connection → Backend → Except Error Unit × Connection × Backend) : Answer × Session :=
  s.withConnection name fun c =>
    let outcome := call c s.backend
    (answerOf outcome.1, { s with backend := outcome.2.2 }.setConnection name outcome.2.1)

/-- Ends the holding of a connection by closing its handle. -/
def closeNow (s : Session) (name : String) : Holding → Answer × Session
  | .pooled c =>
    let outcome := s.toSystem.retire c
    let s := ((s.letGo name).withSystem outcome.2).freeSlot
    match outcome.1 with
    | .ok () => (.done, s)
    | .error source => (.poolError (.connection (.driver source)), s)
  | .bare c =>
    let outcome := s.toSystem.retire c
    (answerOf (outcome.1.mapError .driver), (s.letGo name).withSystem outcome.2)
  | .slot | .waiter _ _ => s.misused .wrongKind

def execute (s : Session) (name statement : String) : Answer × Session :=
  s.withConnection name fun c =>
    let outcome := c.execute s.backend statement
    let s := { s with backend := outcome.2 }
    match outcome.1 with
    | .ok count => (.rows count, s)
    | .error error => (.error error, s)

def ping (s : Session) (name : String) : Answer × Session :=
  s.withConnection name fun c =>
    let outcome := s.backend.ping c.handle
    let s := { s with backend := outcome.2 }.note (.probed c)
    match outcome.1 with
    | .alive => (.done, s)
    | .failed source => (.error (.driver source), s)
    | .stalled => (.blocked, s)

/-- Runs a statement on the database handle or on the transaction. -/
def native (s : Session) (name : String) (kind : NativeKind) (statement : String) :
    Answer × Session :=
  s.withConnection name fun c =>
    match kind, c.inTransaction with
    | .database, _ =>
      let outcome := s.backend.execute c.handle statement
      (.native .database (some outcome.1), { s with backend := outcome.2 })
    | .transaction, true =>
      let outcome := s.backend.run c.handle statement
      (.native (.transaction true) (some outcome.1), { s with backend := outcome.2 })
    | .transaction, false => (.native (.transaction false) none, s)

/-- Begins a transaction on the database handle itself and ends it at once. -/
def nativeBegin (s : Session) (name : String) (commit : Bool) : Answer × Session :=
  s.withConnection name fun c =>
    match s.backend.beginTransaction c.handle with
    | (.error source, backend) => (.driverError source, { s with backend })
    | (.ok number, backend) =>
      let outcome := if commit then backend.commit number else backend.rollback number
      (driverAnswerOf outcome.1, { s with backend := outcome.2 })

/-- Carries out a command whose new name, if it has one, is free. -/
def carryOut (s : Session) : Command → Answer × Session
  | .get name => s.withProvider fun p => s.unlessClosed (s.checkOut p name .blocked)
  | .tryGet name => s.withProvider fun p => s.checkOut p name .nothing
  | .acquire name => s.unlessClosed (s.acquireSlot name .blocked)
  | .tryAcquire name => s.acquireSlot name .nothing
  | .waitGet name => s.withProvider fun _ => (.waiting, s.lineUp .connection name)
  | .waitAcquire name => (.waiting, s.lineUp .slot name)
  | .poll name => s.withHolding name fun
    | .waiter _ progress => s.collect name progress
    | _ => s.misused .wrongKind
  | .cancel name => s.withHolding name fun
    | .waiter wish progress => s.partWith true name (.waiter wish progress)
    | _ => s.misused .wrongKind
  | .newConnection name => s.withProvider fun p =>
    match p.manufacture s.toSystem with
    | (.ok c, system) => s.holdNew name (c, system)
    | (.error error, system) => (.poolError (.connection error), s.withSystem system)
  | .openDirect name driver dsn =>
    match s.backend.openHandle dsn with
    | (.ok handle, backend) =>
      s.holdNew name
        ({ s.toSystem with backend }.wrap handle (DialectRegistry.builtin.resolve driver))
    | (.error source, backend) => (.driverError source, { s with backend })
  | .dequeue name =>
    match s.toSystem.withdraw with
    | (some c, system) => s.holdNew name (c, system)
    | (none, _) => (.nothing, s)
  | .closeProvider => s.withProvider fun _ =>
    let outcome := s.closePool
    let s := outcome.2
    (.closed s.pool.closed, s.withSystem (s.toSystem.retireAll outcome.1))
  | .closePool =>
    let outcome := s.closePool
    (.drained (outcome.1.map Connection.id),
      outcome.1.foldl (fun s c => s.note (.forsaken c)) outcome.2)
  | .describeProvider => s.withProvider fun p =>
    (.provider p.config.driverName p.config.descriptor p.config.maxPoolSize.toNat
      (p.describe s.pool), s)
  | .describePool => (.pool s.pool.capacity s.pool.describe, s)
  | .advance time => (.done, { s with clock := s.clock.add time })
  | .setFault fault on => (.done, { s with backend := s.backend.setFault fault on })
  | .failStatement statement => (.done, { s with backend := s.backend.failStatement statement })
  | .release name => s.withHolding name fun
    | .pooled c => s.partWith true name (.pooled c)
    | _ => s.misused .wrongKind
  | .drop name => s.withHolding name fun
    | .waiter _ _ => s.misused .wrongKind
    | thing => s.partWith true name thing
  | .dropUnattended name => s.withHolding name fun
    | .pooled c =>
      if c.inTransaction || s.pool.closed then s.partWith false name (.pooled c)
      else s.misused .wrongKind
    | _ => s.misused .wrongKind
  | .abandon name => s.withHolding name (s.partWith false name)
  | .closeNow name => s.withHolding name (s.closeNow name)
  | .detach name bareName => s.withHolding name fun
    | .pooled c => (.connection c.id, ((s.letGo name).hold bareName (.bare c)).freeSlot)
    | _ => s.misused .wrongKind
  | .enqueue name => s.withHolding name fun
    | .bare c =>
      if s.pool.closed then (.refused c.id, s)
      else (.done, (s.letGo name).withSystem (s.toSystem.enqueue c))
    | _ => s.misused .wrongKind
  | .beginTransaction name => s.transact name Connection.beginTransaction
  | .commit name => s.transact name Connection.commit
  | .rollback name => s.transact name Connection.rollback
  | .execute name statement => s.execute name statement
  | .ping name => s.ping name
  | .setLastUsed name now => s.withConnection name fun c =>
    (.done, s.setConnection name (c.stamp (if now then some s.clock else none)))
  | .inspect name => s.withConnection name fun c =>
    (.info ⟨c.id, c.dialect, c.inTransaction, c.idleFor s.clock, c.age s.clock⟩, s)
  | .describe name =>
    match s.holdings.find? name with
    | some (.pooled c) =>
      (.text (Text.record "PooledConnection" [("conn", Text.optional (some c.describe))]), s)
    | some (.bare c) => (.text c.describe, s)
    | _ => s.misused .noSuchConnection
  | .native name kind statement => s.native name kind statement
  | .nativeClose name => s.withConnection name fun c =>
    let outcome := s.backend.close c.handle
    (driverAnswerOf outcome.1, { s with backend := outcome.2 })
  | .nativeBegin name commit => s.nativeBegin name commit
  | .tune name tuning => s.withConnection name fun c =>
    (.tuned tuning, { s with backend := c.tune tuning s.backend })

/-- Carries out a command, unless the name it gives is in use, and then does all due work. -/
def step (s : Session) (command : Command) : Answer × Session :=
  if command.newName?.any s.holdings.contains then s.misused .nameInUse
  else
    let outcome := s.carryOut command
    (outcome.1, outcome.2.settle)

/-- What can be seen of a session from outside, with the calls that the backend took note of since
the last report. -/
structure Report where
  status : PoolStatus
  closed : Bool
  opens : Nat
  closes : Nat
  pings : Nat
  begins : Nat
  commits : Nat
  rollbacks : Nat
  calls : List Call

/-- The report after a number of calls was reported before. -/
def report (s : Session) (reported : Nat) : Report where
  status := s.pool.status
  closed := s.pool.closed
  opens := s.backend.opens
  closes := s.backend.closes
  pings := s.backend.pings
  begins := s.backend.begins
  commits := s.backend.commits
  rollbacks := s.backend.rollbacks
  calls := s.backend.log.drop reported

/-- Carries out commands in order and reports after each. -/
def run : Session → List Command → List (Answer × Report)
  | _, [] => []
  | s, command :: rest =>
    let next := s.step command
    (next.1, next.2.report s.backend.log.length) :: run next.2 rest

end Datastore.Session
