import Mathlib.Logic.Function.Basic
import Datastore.Proofs.Backend
import Datastore.Proofs.Session.Decomposition

/-!
# The transaction automaton

A connection with transactions has two states, and a fault of the backend never puts it into
another. An automaton says what each call answers, what reaches the backend and which state
follows; a dialect without transactions has one state. Every run on one connection whose handle is
open is a run of the automaton, however the switches are flipped. Main statement:
`connection_follows`.
-/

namespace Datastore

/-- What is asked of one connection, or happens to the backend in between. -/
inductive Exercise
  | begin
  | commit
  | rollback
  | execute (statement : String)
  | ping
  | flip (fault : Fault) (on : Bool)

/-- The command to a session that has the connection under this name. -/
def Exercise.command (name : String) : Exercise → Session.Command
  | .begin => .beginTransaction name
  | .commit => .commit name
  | .rollback => .rollback name
  | .execute statement => .execute name statement
  | .ping => .ping name
  | .flip fault on => .setFault fault on

structure Automaton where
  transactional : Bool
  handle : Nat
  /-- The state: no transaction, or the number of the active one. -/
  transaction : Option Nat
  /-- The calls that reached the backend, oldest first. -/
  calls : List Call
  failing : Fault → Bool
  /-- What the backend answers to a statement. -/
  rows : String → Except DriverError Nat

namespace Automaton

/-- The state after a call that reached the backend. -/
def reach (a : Automaton) (call : Call) (transaction : Option Nat) : Automaton :=
  { a with calls := a.calls ++ [call], transaction }

/-- Native transactions that began so far. -/
def begins (a : Automaton) : Nat := a.calls.countP Call.isBegun

/-- From no transaction into one, unless the backend refuses. -/
def begin (a : Automaton) : Session.Answer × Automaton :=
  match a.transaction with
  | some _ => (.error .transactionAlreadyActive, a)
  | none =>
    if a.failing .begins then (.error (.driver (.permanent "cannot begin transaction")), a)
    else (.done, a.reach (.begun a.handle) (some (a.begins + 1)))

/-- Out of a transaction by one native call, even if that fails. -/
def finish (a : Automaton) (fault : Fault) (reason : String) (call : Nat → Call) :
    Session.Answer × Automaton :=
  match a.transaction with
  | none => (.error .noActiveTransaction, a)
  | some number =>
    (if a.failing fault then .error (.driver (.permanent reason)) else .done,
      a.reach (call number) none)

def turn (a : Automaton) : Exercise → Session.Answer × Automaton
  | .begin => if a.transactional then a.begin else (.done, a)
  | .commit =>
    if a.transactional then a.finish .commits "commit failed" .committed else (.done, a)
  | .rollback =>
    if a.transactional then a.finish .rollbacks "rollback failed" .rolledBack else (.done, a)
  | .execute statement =>
    (match a.rows statement with
      | .ok count => .rows count
      | .error source => .error (.driver source),
      a.reach (.executed a.handle statement) a.transaction)
  | .ping =>
    (if a.failing .stalls then .blocked
      else if a.failing .pings then .error (.driver (.ofLink "connection reset by peer"))
      else .done,
      a.reach (.pinged a.handle) a.transaction)
  | .flip fault on => (.done, { a with failing := Function.update a.failing fault on })

def run (a : Automaton) (exercises : List Exercise) : Automaton :=
  exercises.foldl (fun a exercise => (a.turn exercise).2) a

/-- A turn without transactions: only statements and probes reach the backend. -/
structure Quiet (a a' : Automaton) : Prop where
  transactional : a'.transactional = false
  transaction : a'.transaction = a.transaction
  calls : ∃ calls, a'.calls = a.calls ++ calls ∧ ∀ call ∈ calls, call.isPlain = true

theorem Quiet.refl {a : Automaton} (plain : a.transactional = false) : Quiet a a :=
  ⟨plain, rfl, [], by simp, by simp⟩

theorem Quiet.trans {a a' a'' : Automaton} (first : Quiet a a') (second : Quiet a' a'') :
    Quiet a a'' := by
  obtain ⟨calls, added, plain⟩ := first.calls
  obtain ⟨calls', added', plain'⟩ := second.calls
  refine ⟨second.transactional, second.transaction.trans first.transaction, calls ++ calls', ?_, ?_⟩
  · rw [added', added, List.append_assoc]
  · intro call here
    exact (List.mem_append.mp here).elim (plain call) (plain' call)

theorem Quiet.turn {a : Automaton} (plain : a.transactional = false) (exercise : Exercise) :
    Quiet a (a.turn exercise).2 := by
  cases exercise with
  | begin | commit | rollback => simpa [Automaton.turn, plain] using Quiet.refl plain
  | execute statement => exact ⟨plain, rfl, [_], rfl, by simp [Call.isPlain]⟩
  | ping => exact ⟨plain, rfl, [_], rfl, by simp [Call.isPlain]⟩
  | flip fault on => exact ⟨plain, rfl, [], (List.append_nil _).symm, by simp⟩

theorem Quiet.run {a : Automaton} (plain : a.transactional = false) (exercises : List Exercise) :
    Quiet a (a.run exercises) := by
  induction exercises generalizing a with
  | nil => exact .refl plain
  | cons exercise rest ih =>
    have now := Quiet.turn plain exercise
    exact now.trans (ih now.transactional)

end Automaton

theorem Backend.has_setFault (b : Backend) (fault : Fault) (on : Bool) :
    (b.setFault fault on).has = Function.update b.has fault on := by
  funext other
  by_cases same : other = fault
  · subst same
    cases on <;> simp [has, setFault]
  · cases on <;> simp [has, setFault, same]

namespace Connection

/-- The state of the automaton that a connection is in. -/
def automaton (c : Connection) (b : Backend) : Automaton where
  transactional := c.dialect.transactional
  handle := c.handle
  transaction := c.transaction
  calls := b.log
  failing := b.has
  rows statement := (b.run c.handle statement).1

variable {c : Connection} {b : Backend}

@[simp] theorem automaton_transactional (c : Connection) (b : Backend) :
    (c.automaton b).transactional = c.dialect.transactional := rfl

@[simp] theorem automaton_transaction (c : Connection) (b : Backend) :
    (c.automaton b).transaction = c.transaction := rfl

@[simp] theorem automaton_failing (c : Connection) (b : Backend) :
    (c.automaton b).failing = b.has := rfl

/-- The outcome of a call is that of a turn, and nothing else changes. -/
structure Follows (c : Connection) (b : Backend)
    (outcome : Except Error Unit × Connection × Backend)
    (turn : Session.Answer × Automaton) : Prop where
  answer : Session.answerOf outcome.1 = turn.1
  connection : outcome.2.1 = { c with transaction := turn.2.transaction }
  automaton : outcome.2.1.automaton outcome.2.2 = turn.2
  closed : outcome.2.2.closedHandles = b.closedHandles

/-- A call that is answered at once changes nothing. -/
theorem Follows.idle {result : Except Error Unit} :
    c.Follows b (result, c, b) (Session.answerOf result, c.automaton b) := ⟨rfl, rfl, rfl, rfl⟩

theorem begin_follows (isOpen : b.isClosed c.handle = false) :
    c.Follows b (c.beginTransaction b) ((c.automaton b).turn .begin) := by
  unfold beginTransaction Automaton.turn
  by_cases transactional : c.dialect.transactional
  · simp only [automaton_transactional, transactional, Bool.not_true, Bool.false_eq_true, if_true,
      if_false, Automaton.begin, automaton_transaction, inTransaction]
    rcases Option.eq_none_or_eq_some c.transaction with free | ⟨number, active⟩
    · simp only [free, Option.isSome_none, Backend.beginTransaction, isOpen, automaton_failing,
        Bool.false_eq_true, if_false]
      by_cases fails : b.has .begins
      · simp only [fails, if_true]
        exact .idle
      · simp only [fails, Bool.false_eq_true, if_false]
        have number : (b.record (.begun c.handle)).begins = (c.automaton b).begins + 1 :=
          Backend.begins_record b _
        rw [number]
        exact ⟨rfl, rfl, rfl, by simp [Call.closed?]⟩
    · simp only [active, Option.isSome_some, if_true]
      exact .idle
  · simp only [automaton_transactional, transactional]
    exact .idle

/-- A native call that ends a transaction is made with a transaction only, and is the last one. -/
theorem finish_follows {call : Backend → Nat → Except DriverError Unit × Backend} {fault : Fault}
    {reason : String} {native : Nat → Call} (ends : ∀ number, (native number).closed? = none)
    (made : ∀ b number, call b number =
      (if b.has fault then .error (.permanent reason) else .ok (), b.record (native number))) :
    c.Follows b (c.finish b call)
      (if c.dialect.transactional then (c.automaton b).finish fault reason native
        else (.done, c.automaton b)) := by
  unfold finish
  by_cases transactional : c.dialect.transactional
  · simp only [transactional, Bool.not_true, Bool.false_eq_true, if_true, if_false,
      Automaton.finish, automaton_transaction]
    cases active : c.transaction with
    | none => exact .idle
    | some number =>
      simp only [made, automaton_failing]
      refine ⟨?_, rfl, rfl, by simp [ends]⟩
      by_cases fails : b.has fault
      · simp only [fails, if_true]
        rfl
      · simp only [fails, Bool.false_eq_true, if_false]
        rfl
  · simp only [transactional]
    exact .idle

theorem commit_follows : c.Follows b (c.commit b) ((c.automaton b).turn .commit) :=
  finish_follows (fun _ => rfl) fun _ _ => rfl

theorem rollback_follows : c.Follows b (c.rollback b) ((c.automaton b).turn .rollback) :=
  finish_follows (fun _ => rfl) fun _ _ => rfl

/-- On an open handle a statement goes the same way with and without a transaction. -/
theorem execute_open (isOpen : b.isClosed c.handle = false) (statement : String) :
    c.execute b statement =
      ((b.run c.handle statement).1.mapError .driver, (b.run c.handle statement).2) := by
  simp [execute, Backend.execute, isOpen]

end Connection

namespace Session

variable {s : Session} {name : String} {c : Connection} {a : Automaton}

/-- The connection of this name is in this state of the automaton. -/
structure Follows (s : Session) (name : String) (c : Connection) (a : Automaton) : Prop where
  known : s.connection? name = some { c with transaction := a.transaction }
  automaton : { c with transaction := a.transaction }.automaton s.backend = a
  isOpen : s.backend.isClosed c.handle = false

theorem Follows.transact {call : Connection → Backend → Except Error Unit × Connection × Backend}
    {turn : Answer × Automaton} (follows : Follows s name c a)
    (next : { c with transaction := a.transaction }.Follows s.backend
      (call { c with transaction := a.transaction } s.backend) turn) :
    (s.transact name call).1 = turn.1 ∧ Follows (s.transact name call).2 name c turn.2 := by
  simp only [Session.transact, withConnection, follows.known]
  refine ⟨next.answer, ?_, ?_, ?_⟩
  · rw [← next.connection]
    exact connection?_setConnection (s := { s with backend := _ }) follows.known
  · have same := next.automaton
    rw [next.connection] at same
    rw [backend_setConnection]
    exact same
  · have isOpen := follows.isOpen
    rw [backend_setConnection]
    rwa [← Bool.not_eq_true, Backend.isClosed_iff, next.closed, ← Backend.isClosed_iff,
      Bool.not_eq_true]

theorem Follows.handle (follows : Follows s name c a) : a.handle = c.handle :=
  (congrArg Automaton.handle follows.automaton).symm

theorem Follows.failing (follows : Follows s name c a) : a.failing = s.backend.has :=
  (congrArg Automaton.failing follows.automaton).symm

theorem Follows.rows (follows : Follows s name c a) (statement : String) :
    a.rows statement = (s.backend.run c.handle statement).1 :=
  (congrFun (congrArg Automaton.rows follows.automaton) statement).symm

/-- A call that reaches the backend and leaves the connection as it is. -/
theorem Follows.reach {call : Call} {t : Session} (follows : Follows s name c a)
    (backend : t.backend = s.backend.record call) (holdings : t.holdings = s.holdings)
    (spared : call.closed? = none) : Follows t name c (a.reach call a.transaction) := by
  refine ⟨?_, ?_, ?_⟩
  · have known := follows.known
    rwa [connection?, ← holdings] at known
  · rw [backend]
    exact congrArg (fun a => a.reach call a.transaction) follows.automaton
  · have isOpen := follows.isOpen
    rw [← Bool.not_eq_true, Backend.isClosed_iff] at isOpen ⊢
    simpa [backend, spared] using isOpen

theorem Follows.step (follows : Follows s name c a) (exercise : Exercise) :
    (s.obey (exercise.command name)).1 = (a.turn exercise).1 ∧
      Follows (s.obey (exercise.command name)).2 name c (a.turn exercise).2 := by
  -- Calls about the transaction go through the connection; the others only reach the backend.
  have known := follows.known
  have same := follows.automaton
  have isOpen : s.backend.isClosed { c with transaction := a.transaction }.handle = false :=
    follows.isOpen
  cases exercise with
  | begin =>
    have next := Connection.begin_follows isOpen
    rw [same] at next
    exact follows.transact next
  | commit =>
    have next := Connection.commit_follows (c := { c with transaction := a.transaction })
      (b := s.backend)
    rw [same] at next
    exact follows.transact next
  | rollback =>
    have next := Connection.rollback_follows (c := { c with transaction := a.transaction })
      (b := s.backend)
    rw [same] at next
    exact follows.transact next
  | execute statement =>
    have carried : s.obey (.execute name statement) =
        ((a.turn (.execute statement)).1,
          { s with backend := (s.backend.run c.handle statement).2 }) := by
      simp only [obey, Command.newName?, Option.any_none, Bool.false_eq_true, if_false, carryOut,
        execute, withConnection, known, Connection.execute_open isOpen, Automaton.turn,
        follows.rows]
      cases (s.backend.run c.handle statement).1 <;> rfl
    rw [Exercise.command, carried]
    refine ⟨rfl, ?_⟩
    rw [Automaton.turn, follows.handle]
    exact follows.reach rfl rfl rfl
  | ping =>
    have carried : s.obey (.ping name) = ((a.turn .ping).1,
        { s with backend := s.backend.record (.pinged c.handle) }.note
          (.probed { c with transaction := a.transaction })) := by
      simp only [obey, Command.newName?, Option.any_none, Bool.false_eq_true, if_false, carryOut,
        ping, withConnection, known, Backend.ping, isOpen, Automaton.turn, follows.failing]
      by_cases stalls : s.backend.has .stalls
      · simp only [stalls, if_true]
      · by_cases fails : s.backend.has .pings <;>
          simp only [stalls, fails, Bool.false_eq_true, if_true, if_false]
    rw [Exercise.command, carried]
    refine ⟨rfl, ?_⟩
    rw [Automaton.turn, follows.handle]
    exact follows.reach rfl rfl rfl
  | flip fault on =>
    refine ⟨rfl, follows.known, ?_, follows.isOpen⟩
    have flipped := congrArg
      (fun a => { a with failing := (s.backend.setFault fault on).has : Automaton }) same
    rw [Automaton.turn, follows.failing, ← Backend.has_setFault]
    exact flipped

/-- The moves of these exercises on the connection of this name. -/
def exercising (name : String) (exercises : List Exercise) : List Move :=
  exercises.map fun exercise => .command (exercise.command name)

theorem Follows.run (follows : Follows s name c a) (exercises : List Exercise) :
    Follows (s.after (exercising name exercises)) name c (a.run exercises) := by
  induction exercises generalizing s a with
  | nil => exact follows
  | cons exercise rest ih => exact ih (follows.step exercise).2

/-- Whoever asks for the transaction is told by the state. -/
theorem Follows.shown (follows : Follows s name c a) :
    (s.obey (.inspect name)).1 = .info ⟨c.id, c.dialect, a.transaction.isSome,
        c.idleFor s.clock, c.age s.clock⟩ ∧
      ∀ statement, ∃ result, (s.obey (.native name .transaction statement)).1 =
        .native (.transaction a.transaction.isSome) result ∧
          result.isSome = a.transaction.isSome := by
  constructor
  · simp only [obey, Command.newName?, Option.any_none, Bool.false_eq_true, if_false, carryOut,
      withConnection, follows.known]
    rfl
  · intro statement
    simp only [obey, Command.newName?, Option.any_none, Bool.false_eq_true, if_false, carryOut,
      native, withConnection, follows.known, Connection.inTransaction]
    cases a.transaction with
    | none => exact ⟨none, rfl, rfl⟩
    | some number => exact ⟨_, rfl, rfl⟩

/-- Every run on one connection with an open handle is a run of the automaton, with the switches of
the backend flipped at will in between: the answers, the transaction, what reaches the backend. -/
theorem connection_follows (known : s.connection? name = some c)
    (isOpen : s.backend.isClosed c.handle = false) (exercises : List Exercise) :
    let t := s.after (exercising name exercises)
    let a := (c.automaton s.backend).run exercises
    (∀ exercise, (t.obey (exercise.command name)).1 = (a.turn exercise).1) ∧
      t.connection? name = some { c with transaction := a.transaction } ∧
      { c with transaction := a.transaction }.automaton t.backend = a ∧
      (t.obey (.inspect name)).1 = .info ⟨c.id, c.dialect, a.transaction.isSome,
        c.idleFor t.clock, c.age t.clock⟩ ∧
      (∀ statement, ∃ result, (t.obey (.native name .transaction statement)).1 =
        .native (.transaction a.transaction.isSome) result ∧
          result.isSome = a.transaction.isSome) ∧
      (c.dialect.transactional = false →
        (∀ exercise ∈ [Exercise.begin, .commit, .rollback],
          (t.obey (exercise.command name)).1 = .done) ∧
        a.transaction = c.transaction ∧
        ∃ calls, t.backend.log = s.backend.log ++ calls ∧ ∀ call ∈ calls, call.isPlain = true) := by
  intro t a
  have follows : Follows t name c a := Follows.run ⟨known, rfl, isOpen⟩ exercises
  obtain ⟨inspected, native⟩ := follows.shown
  refine ⟨fun exercise => (follows.step exercise).1, follows.known, follows.automaton, inspected,
    native, ?_⟩
  intro plain
  have quiet := Automaton.Quiet.run (a := c.automaton s.backend) plain exercises
  obtain ⟨calls, added, plainly⟩ := quiet.calls
  have log : t.backend.log = a.calls := congrArg Automaton.calls follows.automaton
  refine ⟨?_, quiet.transaction, calls, log.trans added, plainly⟩
  intro exercise asks
  have answered := (follows.step exercise).1
  have transactional : a.transactional = false := quiet.transactional
  simp only [List.mem_cons, List.not_mem_nil, or_false] at asks
  rcases asks with rfl | rfl | rfl <;>
    exact answered.trans (by simp [Automaton.turn, transactional])

theorem connection_follows_failing :
    let s := (start .fresh (.ofCapacity 1) none).after [.command (.openDirect "a" "mock" "db")]
    let t := s.after (exercising "a" [.begin, .begin, .flip .commits true, .commit])
    ∃ c, s.connection? "a" = some c ∧ s.backend.isClosed c.handle = false ∧
      (t.obey (.commit "a")).1 = .error .noActiveTransaction ∧ t.connection? "a" = some c := by
  have known : ((start .fresh (.ofCapacity 1) none).after
      [.command (.openDirect "a" "mock" "db")]).connection? "a" =
        some ⟨1, 1, .generic "mock", none, .zero, none⟩ := rfl
  obtain ⟨answers, shown, -⟩ :=
    connection_follows known rfl [.begin, .begin, .flip .commits true, .commit]
  exact ⟨_, known, rfl, answers .commit, shown⟩

end Session
end Datastore
