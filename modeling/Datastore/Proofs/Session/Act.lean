import Datastore.Proofs.Session.Circulation

/-!
# Acts

A move is one act on the system: a checkout, a manufacture, one call on a connection, or nothing.
All else that it does concerns slots, the line and what callers hold. Which act it is can be read
off the state before; `System.enact` carries it out. Main statement: `acts`, what is known of the
act of a move.
-/

namespace Datastore

/-- What a caller asks of a connection that it has. -/
inductive Request
  | begin
  | commit
  | rollback
  | execute (statement : String)
  | native (kind : Session.NativeKind) (statement : String)
  | nativeBegin (commits : Bool)
  | nativeClose
  | tune (tuning : Tuning)

/-- The command that asks it of what goes by a name. -/
def Request.command (name : String) : Request → Session.Command
  | .begin => .beginTransaction name
  | .commit => .commit name
  | .rollback => .rollback name
  | .execute statement => .execute name statement
  | .native kind statement => .native name kind statement
  | .nativeBegin commits => .nativeBegin name commits
  | .nativeClose => .nativeClose name
  | .tune tuning => .tune name tuning

/-- The backend after it was asked. -/
def Request.serve (c : Connection) (b : Backend) : Request → Backend
  | .begin => (c.beginTransaction b).2.2
  | .commit => (c.commit b).2.2
  | .rollback => (c.rollback b).2.2
  | .execute statement => (c.execute b statement).2
  | .native .database statement => (b.execute c.handle statement).2
  | .native .transaction statement =>
    if c.inTransaction then (b.run c.handle statement).2 else b
  | .nativeBegin commits =>
    match b.beginTransaction c.handle with
    | (.error _, b) => b
    | (.ok number, b) => (if commits then b.commit number else b.rollback number).2
  | .nativeClose => (b.close c.handle).2
  | .tune tuning => c.tune tuning b

/-- What a move does to the system. -/
inductive Act
  | nothing
  | checkout (p : Provider)
  | manufacture (p : Provider)
  | openDirect (driver dsn : String)
  /-- An idle connection is taken out for the caller. -/
  | withdraw
  /-- A connection goes to rest. -/
  | enqueue (c : Connection)
  /-- The pool is closed, and its idle connections are retired or dropped. -/
  | close (retire : Bool)
  | retire (c : Connection)
  | forsake (c : Connection)
  | probe (c : Connection)
  | ask (c : Connection) (request : Request)
  | setFault (fault : Fault) (on : Bool)
  | failStatement (statement : String)
  | advance (time : Duration)

namespace System

/-- Opens a handle and wraps it, outside of any configuration. -/
def openDirect (s : System) (driver dsn : String) : System :=
  match s.backend.openHandle dsn with
  | (.ok handle, backend) =>
    ({ s with backend }.wrap handle (DialectRegistry.builtin.resolve driver)).2
  | (.error _, backend) => { s with backend }

def forsakeAll (s : System) (cs : List Connection) : System :=
  cs.foldl (fun s c => s.note (.forsaken c)) s

def enact (s : System) : Act → System
  | .nothing => s
  | .checkout p => (p.checkout s).2
  | .manufacture p => (p.manufacture s).2
  | .openDirect driver dsn => s.openDirect driver dsn
  | .withdraw => s.withdraw.2
  | .enqueue c => s.enqueue c
  | .close true => s.close.2.retireAll s.pool.idle
  | .close false => s.close.2.forsakeAll s.pool.idle
  | .retire c => (s.retire c).2
  | .forsake c => s.note (.forsaken c)
  | .probe c => { s with backend := (s.backend.ping c.handle).2 }.note (.probed c)
  | .ask c request => { s with backend := request.serve c s.backend }
  | .setFault fault on => { s with backend := s.backend.setFault fault on }
  | .failStatement statement => { s with backend := s.backend.failStatement statement }
  | .advance time => { s with clock := s.clock.add time }

end System

namespace Session

/-- A connection that is discarded is retired later, or dropped at once. -/
def discarding (attended : Bool) (c : Connection) : Act :=
  if attended then .nothing else .forsake c

/-- A connection that is given back goes to rest, unless it is discarded. -/
def givingBack (s : Session) (attended : Bool) (c : Connection) : Act :=
  if c.inTransaction then discarding attended c
  else if s.pool.closed then discarding attended (c.stamp (some s.clock))
  else .enqueue (c.stamp (some s.clock))

/-- What becomes of a thing that is let go of. -/
def parting (s : Session) (attended : Bool) : Holding → Act
  | .pooled c | .waiter _ (.finished (.ok (.connection c))) => s.givingBack attended c
  | .waiter _ (.probing c) => discarding attended c
  | .bare c => .forsake c
  | _ => .nothing

def asking (s : Session) (name : String) (request : Request) : Act :=
  match s.connection? name with
  | some c => .ask c request
  | none => .nothing

/-- A checkout at once, if there is a slot for it. -/
def checkingOut (s : Session) : Act :=
  match s.provider with
  | some p => if s.pool.barred || s.pool.free = 0 then .nothing else .checkout p
  | none => .nothing

/-- A waiter for a connection that has a slot makes a checkout when it goes on. -/
def goingOn (s : Session) (name : String) : Act :=
  match s.holdings.find? name, s.provider with
  | some (.waiter .connection .granted), some p =>
    if s.pool.barred then .nothing else .checkout p
  | _, _ => .nothing

/-- The act of a command whose new name, if it has one, is free. -/
def commandAct (s : Session) : Command → Act
  | .get _ => if s.pool.closed then .nothing else s.checkingOut
  | .tryGet _ => s.checkingOut
  | .newConnection _ =>
    match s.provider with
    | some p => .manufacture p
    | none => .nothing
  | .openDirect _ driver dsn => .openDirect driver dsn
  | .dequeue _ => .withdraw
  | .closeProvider => if s.provider.isSome then .close true else .nothing
  | .closePool => .close false
  | .advance time => .advance time
  | .setFault fault on => .setFault fault on
  | .failStatement statement => .failStatement statement
  | .release name =>
    match s.holdings.find? name with
    | some (.pooled c) => s.givingBack true c
    | _ => .nothing
  | .drop name =>
    match s.holdings.find? name with
    | some (.pooled c) => s.givingBack true c
    | some (.bare c) => .forsake c
    | _ => .nothing
  | .cancel name =>
    match s.holdings.find? name with
    | some (.waiter wish progress) => s.parting true (.waiter wish progress)
    | _ => .nothing
  | .dropUnattended name =>
    match s.holdings.find? name with
    | some (.pooled c) =>
      if c.inTransaction || s.pool.closed then s.givingBack false c else .nothing
    | _ => .nothing
  | .abandon name =>
    match s.holdings.find? name with
    | some thing => s.parting false thing
    | none => .nothing
  | .closeNow name =>
    match s.connection? name with
    | some c => .retire c
    | none => .nothing
  | .enqueue name =>
    match s.holdings.find? name with
    | some (.bare c) => if s.pool.closed then .nothing else .enqueue c
    | _ => .nothing
  | .beginTransaction name => s.asking name .begin
  | .commit name => s.asking name .commit
  | .rollback name => s.asking name .rollback
  | .execute name statement => s.asking name (.execute statement)
  | .native name kind statement => s.asking name (.native kind statement)
  | .nativeBegin name commit => s.asking name (.nativeBegin commit)
  | .nativeClose name => s.asking name .nativeClose
  | .tune name tuning => s.asking name (.tune tuning)
  | .ping name =>
    match s.connection? name with
    | some c => .probe c
    | none => .nothing
  | .acquire _ | .tryAcquire _ | .waitGet _ | .waitAcquire _ | .poll _ | .describeProvider
  | .describePool | .detach _ _ | .setLastUsed _ _ | .inspect _ | .describe _ => .nothing

def act (s : Session) : Move → Act
  | .command command =>
    if command.newName?.any s.holdings.contains then .nothing else s.commandAct command
  | .work place =>
    match s.agenda[place]? with
    | some (.retire c) => .retire c
    | some (.resume name) => s.goingOn name
    | none => .nothing

/-- The guard that a move drops. -/
def guardDropped? (s : Session) : Move → Option Connection
  | .command (.release name) | .command (.drop name) =>
    match s.holdings.find? name with
    | some (.pooled c) => some c
    | _ => none
  | .command (.cancel name) =>
    match s.holdings.find? name with
    | some (.waiter _ (.finished (.ok (.connection c)))) => some c
    | _ => none
  | .command (.dropUnattended name) =>
    match s.holdings.find? name with
    | some (.pooled c) => if c.inTransaction || s.pool.closed then some c else none
    | _ => none
  | .command (.abandon name) =>
    match s.holdings.find? name with
    | some (.pooled c) | some (.waiter _ (.finished (.ok (.connection c)))) => some c
    | _ => none
  | _ => none

/-- Who drops a guard gives it back, gives a waiter up that got it, or lets go of either where no
later work is attended to. -/
theorem guardDropped?_eq_some {s : Session} {m : Move} {c : Connection}
    (dropped : s.guardDropped? m = some c) :
    (∃ name, (m = .command (.release name) ∨ m = .command (.drop name)) ∧
        s.holdings.find? name = some (.pooled c)) ∨
      (∃ name wish, m = .command (.cancel name) ∧
        s.holdings.find? name = some (.waiter wish (.finished (.ok (.connection c))))) ∨
      (∃ name, m = .command (.dropUnattended name) ∧
        s.holdings.find? name = some (.pooled c) ∧ (c.inTransaction || s.pool.closed) = true) ∨
      ∃ name, m = .command (.abandon name) ∧ (s.holdings.find? name = some (.pooled c) ∨
        ∃ wish, s.holdings.find? name =
          some (.waiter wish (.finished (.ok (.connection c))))) := by
  unfold guardDropped? at dropped
  split at dropped
  · split at dropped
    · next known =>
      cases dropped
      exact Or.inl ⟨_, Or.inl rfl, known⟩
    · cases dropped
  · split at dropped
    · next known =>
      cases dropped
      exact Or.inl ⟨_, Or.inr rfl, known⟩
    · cases dropped
  · split at dropped
    · next known =>
      cases dropped
      exact Or.inr (Or.inl ⟨_, _, rfl, known⟩)
    · cases dropped
  · split at dropped
    · next known =>
      split at dropped
      · next ends =>
        cases dropped
        exact Or.inr (Or.inr (Or.inl ⟨_, rfl, known, ends⟩))
      · cases dropped
    · cases dropped
  · split at dropped
    · next known =>
      cases dropped
      exact Or.inr (Or.inr (Or.inr ⟨_, rfl, Or.inl known⟩))
    · next known =>
      cases dropped
      exact Or.inr (Or.inr (Or.inr ⟨_, rfl, Or.inr ⟨_, known⟩⟩))
    · cases dropped
  · cases dropped

theorem mem_guarded_of_dropped {s : Session} {m : Move} {c : Connection}
    (dropped : s.guardDropped? m = some c) : c ∈ s.held Holding.guarded := by
  rcases guardDropped?_eq_some dropped with ⟨name, -, known⟩ | ⟨name, wish, -, known⟩ |
    ⟨name, -, known, -⟩ | ⟨name, -, known | ⟨wish, known⟩⟩ <;>
    exact mem_held known (List.mem_singleton_self c)

/-- A guard that is dropped in no transaction goes back to an open pool. -/
theorem act_of_dropped {s : Session} {m : Move} {c : Connection}
    (dropped : s.guardDropped? m = some c) (free : c.inTransaction = false)
    (isOpen : s.pool.closed = false) : s.act m = .enqueue (c.stamp (some s.clock)) := by
  have back (attended : Bool) : s.givingBack attended c = .enqueue (c.stamp (some s.clock)) := by
    simp [givingBack, free, isOpen]
  rcases guardDropped?_eq_some dropped with ⟨name, rfl | rfl, known⟩ | ⟨name, wish, rfl, known⟩ |
    ⟨name, rfl, -, kept⟩ | ⟨name, rfl, known | ⟨wish, known⟩⟩
  · simp [act, Command.newName?, commandAct, known, back]
  · simp [act, Command.newName?, commandAct, known, back]
  · simp [act, Command.newName?, commandAct, parting, known, back]
  · simp [free, isOpen] at kept
  · simp [act, Command.newName?, commandAct, parting, known, back]
  · simp [act, Command.newName?, commandAct, parting, known, back]

/-- What is known of an act from the move that it is the act of. -/
inductive Acts (s : Session) : Move → Act → Prop
  | nothing {m} : Acts s m .nothing
  | checkout {m p} (served : s.provider = some p) (unbarred : s.pool.barred = false) :
    Acts s m (.checkout p)
  | manufacture {name p} (served : s.provider = some p) :
    Acts s (.command (.newConnection name)) (.manufacture p)
  | openDirect {name driver dsn} :
    Acts s (.command (.openDirect name driver dsn)) (.openDirect driver dsn)
  | withdraw {name} : Acts s (.command (.dequeue name)) .withdraw
  /-- A guard that is dropped goes to rest. -/
  | returned {m c} (dropped : s.guardDropped? m = some c) (free : c.transaction = none)
      (isOpen : s.pool.closed = false) : Acts s m (.enqueue (c.stamp (some s.clock)))
  | enqueued {name c} (bare : s.holdings.find? name = some (.bare c))
      (isOpen : s.pool.closed = false) : Acts s (.command (.enqueue name)) (.enqueue c)
  | close {m retire} : Acts s m (.close retire)
  | retire {m c} (here : c ∈ s.live) : Acts s m (.retire c)
  | forsake {m c} (here : c ∈ s.live) : Acts s m (.forsake c)
  /-- A guard that is dropped is not taken back, and nobody will retire it. -/
  | rejected {m c} (dropped : s.guardDropped? m = some c) (shut : s.pool.closed = true) :
    Acts s m (.forsake (c.stamp (some s.clock)))
  | probe {name c} (known : s.connection? name = some c) :
    Acts s (.command (.ping name)) (.probe c)
  | ask {name c request} (known : s.connection? name = some c) :
    Acts s (.command (request.command name)) (.ask c request)
  | setFault {m fault on} : Acts s m (.setFault fault on)
  | failStatement {m statement} : Acts s m (.failStatement statement)
  | advance {m time} : Acts s m (.advance time)

variable {s : Session} {name : String}

theorem acts_discarding {m : Move} {c : Connection} (attended : Bool)
    (dropped : Acts s m (.forsake c)) : Acts s m (discarding attended c) := by
  cases attended with
  | true => exact .nothing
  | false => exact dropped

theorem acts_givingBack {m : Move} {c : Connection} (attended : Bool)
    (dropped : s.guardDropped? m = some c) : Acts s m (s.givingBack attended c) := by
  have here : c ∈ s.live := by
    simp [Session.live, circulating, mem_guarded_of_dropped dropped]
  rw [givingBack]
  split
  · exact acts_discarding attended (.forsake here)
  · next rests =>
    split
    · next shut => exact acts_discarding attended (.rejected dropped shut)
    · next isOpen =>
      have free : c.transaction = none := by simpa [Connection.inTransaction] using rests
      exact .returned dropped free (by simpa using isOpen)

/-- Whoever is let go of was there. -/
theorem acts_parting {m : Move} {thing : Holding} (attended : Bool)
    (known : s.holdings.find? name = some thing)
    (dropped : ∀ c ∈ thing.guarded, s.guardDropped? m = some c) :
    Acts s m (s.parting attended thing) := by
  unfold parting
  split
  · next c => exact acts_givingBack attended (dropped c (List.mem_singleton_self c))
  · next c => exact acts_givingBack attended (dropped c (List.mem_singleton_self c))
  · next c =>
    have here : c ∈ s.held Holding.probed := mem_held known (List.mem_singleton_self c)
    exact acts_discarding attended (.forsake (by simp [Session.live, circulating, here]))
  · next c =>
    have here : c ∈ s.held Holding.bared := mem_held known (List.mem_singleton_self c)
    exact .forsake (by simp [Session.live, circulating, here])
  · exact .nothing

theorem acts_asking (request : Request) :
    Acts s (.command (request.command name)) (s.asking name request) := by
  rw [asking]
  split
  · next known => exact .ask known
  · exact .nothing

theorem acts_checkingOut {m : Move} : Acts s m s.checkingOut := by
  rw [checkingOut]
  split
  · next served =>
    split
    · exact .nothing
    · next vacant =>
      rw [Bool.or_eq_true, not_or, Bool.not_eq_true] at vacant
      exact .checkout served vacant.1
  · exact .nothing

theorem acts_goingOn {m : Move} : Acts s m (s.goingOn name) := by
  rw [goingOn]
  split
  · next served =>
    split
    · exact .nothing
    · next unbarred => exact .checkout served (by simpa using unbarred)
  · exact .nothing

theorem acts_command (command : Command) : Acts s (.command command) (s.commandAct command) := by
  cases command with
  | get name =>
    simp only [commandAct]
    split
    · exact .nothing
    · exact acts_checkingOut
  | tryGet => exact acts_checkingOut
  | newConnection name =>
    simp only [commandAct]
    split
    · next served => exact .manufacture served
    · exact .nothing
  | openDirect => exact .openDirect
  | dequeue => exact .withdraw
  | closeProvider =>
    simp only [commandAct]
    split
    · exact .close
    · exact .nothing
  | closePool => exact .close
  | advance => exact .advance
  | setFault => exact .setFault
  | failStatement => exact .failStatement
  | release name =>
    simp only [commandAct]
    split
    · next known => exact acts_givingBack true (by simp only [guardDropped?, known])
    · exact .nothing
  | drop name =>
    simp only [commandAct]
    split
    · next known => exact acts_givingBack true (by simp only [guardDropped?, known])
    · next c known =>
      have known' : s.connection? name = some c := by simp only [connection?, known]
      exact .forsake (mem_live_of_connection? known')
    · exact .nothing
  | cancel name =>
    simp only [commandAct]
    split
    · next wish progress known =>
      refine acts_parting true known fun c here => ?_
      rcases Holding.mem_guarded_iff.mp here with same | ⟨_, same⟩ <;> cases same
      simp only [guardDropped?, known]
    · exact .nothing
  | dropUnattended name =>
    simp only [commandAct]
    split
    · next c known =>
      split
      · next ends =>
        exact acts_givingBack false (by simp only [guardDropped?, known, ends, if_true])
      · exact .nothing
    · exact .nothing
  | abandon name =>
    simp only [commandAct]
    split
    · next thing known =>
      refine acts_parting false known fun c here => ?_
      rcases Holding.mem_guarded_iff.mp here with rfl | ⟨wish, rfl⟩ <;>
        simp only [guardDropped?, known]
    · exact .nothing
  | closeNow name =>
    simp only [commandAct]
    split
    · next known => exact .retire (mem_live_of_connection? known)
    · exact .nothing
  | enqueue name =>
    simp only [commandAct]
    split
    · next known =>
      split
      · exact .nothing
      · next isOpen => exact .enqueued known (by simpa using isOpen)
    · exact .nothing
  | beginTransaction => exact acts_asking .begin
  | commit => exact acts_asking .commit
  | rollback => exact acts_asking .rollback
  | execute name statement => exact acts_asking (.execute statement)
  | native name kind statement => exact acts_asking (.native kind statement)
  | nativeBegin name commits => exact acts_asking (.nativeBegin commits)
  | nativeClose => exact acts_asking .nativeClose
  | tune name tuning => exact acts_asking (.tune tuning)
  | ping name =>
    simp only [commandAct]
    split
    · next known => exact .probe known
    · exact .nothing
  | _ => exact .nothing

/-- Every act is what is known of it. -/
theorem acts (s : Session) (m : Move) : Acts s m (s.act m) := by
  cases m with
  | command command =>
    rw [act]
    split
    · exact .nothing
    · exact acts_command command
  | work place =>
    rw [act]
    split
    · next c due =>
      have here : c ∈ s.doomed := List.mem_filterMap.mpr ⟨_, List.mem_of_getElem? due, rfl⟩
      exact .retire (List.mem_append_right _ here)
    · exact acts_goingOn
    · exact .nothing

end Session
end Datastore
