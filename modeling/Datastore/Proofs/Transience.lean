import Datastore.Proofs.Failures
import Datastore.Proofs.Secrets

/-!
# Failures of the driver

What is left of a driver's failure in the error that a caller is told. The message is always there.
That the link is to blame, so that a new connection may help, is kept as well, with one exception:
a failed initial statement never says so. Errors that no driver caused do not say so either. A
request for a connection is therefore worth repeating exactly if the driver refused to open a
handle for it. Main statement: `transience_kept`.
-/

namespace Datastore

/-! ### Errors around a failure -/

/-- The errors that a failure of the driver is told as. -/
inductive Error.Wraps (source : DriverError) : Error → Prop
  | opening (name descriptor : String) : Wraps source (.openFailed name descriptor source)
  | initialising (statement descriptor : String) :
    Wraps source (.initSqlFailed statement descriptor source)
  | calling : Wraps source (.driver source)

inductive PoolError.Wraps (source : DriverError) : PoolError → Prop
  | connection {error : Error} (wraps : error.Wraps source) : Wraps source (.connection error)

namespace Error

variable {source : DriverError} {error : Error}

/-- The words of the driver come last. -/
theorem Wraps.message (wraps : Wraps source error) :
    ∃ words, error.message = words ++ source.message := by
  cases wraps with
  | opening name descriptor => exact ⟨_, rfl⟩
  | initialising statement descriptor => exact ⟨_, rfl⟩
  | calling => exact ⟨"", String.empty_append.symm⟩

theorem Wraps.isTransient (wraps : Wraps source error) :
    error.isTransient = (source.transient && !error.isAbort) := by
  cases wraps with
  | opening name descriptor => exact (Bool.and_true _).symm
  | initialising statement descriptor => exact (Bool.and_false _).symm
  | calling => exact (Bool.and_true _).symm

/-- Only a driver can blame the link. -/
theorem isTransient_of_own (own : ∀ source, ¬ Wraps source error) : error.isTransient = false := by
  cases error with
  | openFailed name descriptor source => exact absurd (.opening name descriptor) (own source)
  | driver source => exact absurd .calling (own source)
  | config | unknownDriver | initSqlFailed | noActiveTransaction | transactionAlreadyActive => rfl

end Error

theorem PoolError.isTransient_of_own {error : PoolError} (own : ∀ source, ¬ error.Wraps source) :
    error.isTransient = false := by
  cases error with
  | connection error =>
    exact Error.isTransient_of_own fun source wraps => own source (.connection wraps)
  | closed | configuration => rfl

/-! ### Making connections -/

namespace Call

/-- The driver refused to open a handle. -/
def isRefused : Call → Bool
  | .refused _ => true
  | _ => false

/-- What the driver says of a call that failed. -/
inductive Reports : Call → DriverError → Prop
  | refused (dsn : String) : Reports (.refused dsn) (.ofLink "connection refused")
  | rejected (handle : Nat) (statement : String) :
    Reports (.executed handle statement) (Backend.rejection statement)

end Call

/-- The calls made for a request that failed show why it did. -/
structure Explains (calls : List Call) (error : PoolError) : Prop where
  refused : error.isTransient = calls.any Call.isRefused
  reported : ∀ source, error.Wraps source → ∃ last, calls.getLast? = some last ∧ last.Reports source

theorem Explains.nothing : Explains [] .closed where
  refused := rfl
  reported := by rintro source ⟨⟩

/-- Calls before that were not refused do not matter. -/
theorem Explains.append {before calls : List Call} {error : PoolError}
    (explains : Explains calls error) (others : ∀ call ∈ before, call.isRefused = false) :
    Explains (before ++ calls) error where
  refused := by
    have none : before.any Call.isRefused = false := by
      rw [List.any_eq_false]
      intro call here
      simp [others call here]
    rw [List.any_append, none, Bool.false_or, explains.refused]
  reported := by
    intro source wraps
    obtain ⟨last, ends, reports⟩ := explains.reported source wraps
    exact ⟨last, by rw [List.getLast?_append, ends, Option.some_or], reports⟩

namespace Provider

variable {p : Provider} {s : System} {error : Error} {calls : List Call}

theorem Produces.explains (produces : p.Produces s (.error error) calls) :
    Explains calls (.connection error) := by
  cases produces with
  | misnamed fault unnamed => exact ⟨rfl, by rintro source ⟨⟨⟩⟩⟩
  | unknown dsn named absent => exact ⟨rfl, by rintro source ⟨⟨⟩⟩⟩
  | refused dsn named known faulty =>
    refine ⟨rfl, ?_⟩
    rintro source ⟨⟨⟩⟩
    exact ⟨_, rfl, .refused dsn⟩
  | aborted dsn done statement rest named known sane listed passed failing =>
    have none : (.opened dsn :: (done ++ [statement]).map
        (Call.executed (s.backend.opens + 1))).any Call.isRefused = false := by
      simp [Call.isRefused]
    refine ⟨none.symm, ?_⟩
    rintro source ⟨⟨⟩⟩
    exact ⟨.executed (s.backend.opens + 1) statement, by simp [List.getLast?_cons],
      .rejected _ statement⟩

theorem isRefused_of_upkeep {call : Call} (upkeep : call.isUpkeep = true) :
    call.isRefused = false := by
  cases call <;> first | rfl | cases upkeep

theorem Serves.explains (serves : p.Serves s (.failed error) calls) :
    Explains calls (.connection error) := by
  have source {outcome : Except Error Connection}
      (same : Checkout.ofMaking outcome = .failed error) : outcome = .error error := by
    cases outcome <;> cases same
    rfl
  generalize ended : Checkout.failed error = outcome at serves
  cases serves with
  | new empty produces =>
    obtain rfl := source ended.symm
    exact produces.explains
  | replaced c rest front stale cause fails produces =>
    obtain rfl := source ended.symm
    exact produces.explains.append fun _ here => isRefused_of_upkeep (isUpkeep_of_parting here)
  | recent | alive | stalled => cases ended

/-- The failure of making a connection with a driver that fails like this to open a handle and to
run statements. -/
def failure? (p : Provider) (opening : Option DriverError)
    (running : String → Option DriverError) : Option Error :=
  match opening with
  | some source => some (.openFailed p.config.driverName p.config.descriptor source)
  | none => p.config.initSql.findSome? fun statement =>
    (running statement).map (.initSqlFailed statement p.config.descriptor)

/-- It is told as a failure of the driver. -/
theorem wraps_of_failure? {opening : Option DriverError} {running : String → Option DriverError}
    (failed : p.failure? opening running = some error) : ∃ source, error.Wraps source ∧
      (opening = some source ∨
        opening = none ∧ ∃ statement ∈ p.config.initSql, running statement = some source) := by
  cases opening with
  | some source =>
    cases failed
    exact ⟨source, .opening _ _, Or.inl rfl⟩
  | none =>
    obtain ⟨statement, listed, told⟩ := List.exists_of_findSome?_eq_some failed
    obtain ⟨source, said, rfl⟩ := Option.map_eq_some_iff.mp told
    exact ⟨source, .initialising _ _, Or.inr ⟨rfl, statement, listed, said⟩⟩

end Provider

namespace Backend

/-- How the backend fails to open a handle, if it does. -/
def opening? (b : Backend) : Option DriverError :=
  if b.has .opens then some (.ofLink "connection refused") else none

/-- How it fails to run a statement. -/
def running? (b : Backend) (statement : String) : Option DriverError :=
  if statement ∈ b.failing then some (rejection statement) else none

/-- Statements that pass are no reason to fail. -/
theorem findSome?_of_passed {b : Backend} {statements : List String}
    (passed : ∀ statement ∈ statements, statement ∉ b.failing) (tell : String → DriverError → Error) :
    statements.findSome? (fun statement => (b.running? statement).map (tell statement)) = none := by
  rw [List.findSome?_eq_none_iff]
  intro statement here
  simp [running?, passed statement here]

end Backend

namespace Provider

variable {p : Provider} {s : System}

/-- Making a connection fails as the backend does. -/
theorem manufacture_failure? {dsn : String} (named : p.config.dsn = .ok dsn)
    (known : p.drivers.find? p.config.driverName = some ())
    (next : s.backend.isClosed (s.backend.opens + 1) = false) :
    fault? (p.manufacture s).1 = p.failure? s.backend.opening? s.backend.running? := by
  obtain ⟨outcome, calls, produces⟩ := p.exists_produces s
  rw [produces.manufacture next]
  cases produces with
  | misnamed fault unnamed =>
    rw [named] at unnamed
    cases unnamed
  | unknown dsn named absent =>
    rw [known] at absent
    cases absent
  | refused dsn named known faulty => simp [failure?, Backend.opening?, faulty, fault?]
  | aborted dsn done statement rest named known sane listed passed failing =>
    have silent := Backend.findSome?_of_passed passed (.initSqlFailed · p.config.descriptor)
    have first : s.backend.running? statement = some (Backend.rejection statement) := by
      simp [Backend.running?, failing]
    simp [failure?, Backend.opening?, sane, fault?, listed, List.findSome?_append, silent, first]
  | made dsn named known sane passed =>
    have silent := Backend.findSome?_of_passed passed (.initSqlFailed · p.config.descriptor)
    simp [failure?, Backend.opening?, sane, fault?, silent]

end Provider

/-! ### Using connections -/

/-- The backend fails like this at some call of a connection. -/
inductive Backend.Fails (b : Backend) (source : DriverError) : Prop
  | executing (handle : Nat) (statement : String)
      (said : (b.execute handle statement).1 = .error source)
  | running (handle : Nat) (statement : String) (said : (b.run handle statement).1 = .error source)
  | beginning (handle : Nat) (said : (b.beginTransaction handle).1 = .error source)
  | committing (transaction : Nat) (said : (b.commit transaction).1 = .error source)
  | rollingBack (transaction : Nat) (said : (b.rollback transaction).1 = .error source)
  | probing (handle : Nat) (said : (b.ping handle).1 = .failed source)
  | closing (handle : Nat) (said : (b.close handle).1 = .error source)

/-- Failures of the backend are passed on. -/
theorem Error.of_mapError {α : Type} {outcome : Except DriverError α} {error : Error}
    (told : outcome.mapError Error.driver = .error error) :
    ∃ source, outcome = .error source ∧ error = .driver source := by
  cases outcome with
  | error source =>
    cases told
    exact ⟨source, rfl, rfl⟩
  | ok value => cases told

namespace Connection

variable {c : Connection} {b : Backend} {error : Error}

theorem execute_fails {statement : String} (told : (c.execute b statement).1 = .error error) :
    ∃ source, b.Fails source ∧ error = .driver source := by
  obtain ⟨source, said, rfl⟩ := Error.of_mapError told
  refine ⟨source, ?_, rfl⟩
  split at said
  · exact .running _ _ said
  · exact .executing _ _ said

theorem begin_fails (told : (c.beginTransaction b).1 = .error error) :
    error.isTransactionState = true ∨ ∃ source, b.Fails source ∧ error = .driver source := by
  rw [beginTransaction] at told
  split at told
  · cases told
  · split at told
    · cases told
      exact Or.inl rfl
    · split at told
      · next source after said =>
        cases told
        exact Or.inr ⟨source, .beginning c.handle (congrArg Prod.fst said), rfl⟩
      · cases told

theorem finish_fails {call : Backend → Nat → Except DriverError Unit × Backend}
    (fails : ∀ transaction source, (call b transaction).1 = .error source → b.Fails source)
    (told : (c.finish b call).1 = .error error) :
    error.isTransactionState = true ∨ ∃ source, b.Fails source ∧ error = .driver source := by
  rw [finish] at told
  split at told
  · cases told
  · split at told
    · cases told
      exact Or.inl rfl
    · next number _ =>
      obtain ⟨source, said, rfl⟩ := Error.of_mapError told
      exact Or.inr ⟨source, fails number source said, rfl⟩

theorem retire_fails {source : DriverError} (told : (c.retire b).1 = .error source) :
    b.Fails source := by
  have same : (b.setLifetime c.handle retireLifetime).isClosed c.handle = b.isClosed c.handle := by
    simp [Backend.setLifetime, Backend.isClosed, Call.closed?]
  refine .closing c.handle ?_
  rw [retire, Backend.close, same] at told
  rw [Backend.close]
  split at told
  · next shut => rw [if_pos shut, ← told]
  · cases told

end Connection

namespace Session

open Provider (Sane)

variable {s : Session} {m : Move} {name : String}

/-- A request that fails is explained by the calls made for it. -/
theorem Fails.explains {error : PoolError} (fails : Fails s m error) (orderly : Orderly s)
    (sane : Sane s.toSystem) :
    ∃ calls, (s.move m).backend = s.backend.told calls ∧ Explains calls error := by
  rcases fails.act orderly with ⟨act, rfl⟩ | ⟨p, cause, rfl, ⟨act, failed⟩ | ⟨act, failed⟩⟩
  · refine ⟨[], ?_, .nothing⟩
    rw [backend_move, act, Backend.told_nil]
    rfl
  · obtain ⟨outcome, calls, serves⟩ := p.exists_serves s.toSystem
    obtain ⟨ended, told⟩ := serves.checkout sane
    obtain rfl : outcome = .failed cause := ended.symm.trans failed
    refine ⟨calls, ?_, serves.explains⟩
    rw [backend_move, act]
    exact told
  · obtain ⟨outcome, calls, produces⟩ := p.exists_produces s.toSystem
    have ended := produces.manufacture sane.next
    obtain rfl : outcome = .error cause := (congrArg Prod.fst ended).symm.trans failed
    refine ⟨calls, ?_, produces.explains⟩
    rw [backend_move, act, System.enact, ended, System.afterMaking_backend]

/-- The commands that make a call through a connection. -/
inductive Uses (name : String) : Command → Prop
  | beginning : Uses name (.beginTransaction name)
  | committing : Uses name (.commit name)
  | rollingBack : Uses name (.rollback name)
  | executing (statement : String) : Uses name (.execute name statement)
  | probing : Uses name (.ping name)
  | closing : Uses name (.closeNow name)

/-- The error inside of an answer. -/
def Answer.cause? : Answer → Option Error
  | .error cause | .poolError (.connection cause) => some cause
  | _ => none

theorem cause?_answerOf {outcome : Except Error Unit} {error : Error}
    (told : (answerOf outcome).cause? = some error) : outcome = .error error := by
  cases outcome <;> cases told
  rfl

theorem transact_fails {call : Connection → Backend → Except Error Unit × Connection × Backend}
    {error : Error} (told : (s.transact name call).1.cause? = some error) :
    ∃ c, (call c s.backend).1 = .error error := by
  rw [transact, withConnection] at told
  split at told
  · next c _ => exact ⟨c, cause?_answerOf told⟩
  · cases told

/-- A call through a connection is answered with the failure of the backend, or it was not made. -/
theorem Uses.fails {command : Command} {error : Error} (uses : Uses name command)
    (told : (s.obey command).1.cause? = some error) :
    error.isTransactionState = true ∨ ∃ source, s.backend.Fails source ∧ error = .driver source := by
  have none : command.newName?.any s.holdings.contains = false := by cases uses <;> rfl
  simp only [obey, none, Bool.false_eq_true, if_false] at told
  cases uses with
  | beginning =>
    obtain ⟨c, failed⟩ := transact_fails told
    exact Connection.begin_fails failed
  | committing =>
    obtain ⟨c, failed⟩ := transact_fails told
    exact Connection.finish_fails (fun _ _ => .committing _) failed
  | rollingBack =>
    obtain ⟨c, failed⟩ := transact_fails told
    exact Connection.finish_fails (fun _ _ => .rollingBack _) failed
  | executing statement =>
    right
    simp only [carryOut, execute, withConnection] at told
    split at told
    · next c _ =>
      split at told
      · cases told
      · next failed =>
        cases told
        exact Connection.execute_fails failed
    · cases told
  | probing =>
    right
    simp only [carryOut, ping, withConnection] at told
    split at told
    · next c _ =>
      split at told
      · cases told
      · next source said =>
        cases told
        exact ⟨source, .probing c.handle said, rfl⟩
      · cases told
    · cases told
  | closing =>
    right
    simp only [carryOut, withHolding] at told
    split at told
    · next thing _ =>
      cases thing with
      | pooled c =>
        simp only [closeNow] at told
        split at told
        · cases told
        · next source said =>
          cases told
          exact ⟨source, Connection.retire_fails said, rfl⟩
      | bare c =>
        obtain ⟨source, said, rfl⟩ := Error.of_mapError (cause?_answerOf told)
        exact ⟨source, Connection.retire_fails said, rfl⟩
      | slot | waiter => cases told
    · cases told

/-- What is told of the driver's failures in a state. -/
structure Reporting (s : Session) : Prop where
  /-- Of all failures of a driver, only those of initial statements lose their transience. -/
  wrapped : ∀ source error, Error.Wraps source error →
    (∃ words, error.message = words ++ source.message) ∧
      error.isTransient = (source.transient && !error.isAbort) ∧
      (PoolError.connection error).message = error.message ∧
      (PoolError.connection error).isTransient = error.isTransient
  own : ∀ error : PoolError, (∀ source, ¬ error.Wraps source) → error.isTransient = false
  /-- With any driver, making a connection fails with what the driver said. -/
  driven : ∀ (p : Provider) opening running error, p.failure? opening running = some error →
    ∃ source, error.Wraps source ∧ (opening = some source ∨
      opening = none ∧ ∃ statement ∈ p.config.initSql, running statement = some source)
  made : ∀ (p : Provider) dsn, p.config.dsn = .ok dsn →
    p.drivers.find? p.config.driverName = some () →
    fault? (p.manufacture s.toSystem).1 = p.failure? s.backend.opening? s.backend.running?
  /-- A request is worth repeating exactly if a handle was refused. -/
  requests : ∀ m error, Fails s m error →
    ∃ calls, (s.move m).backend = s.backend.told calls ∧ Explains calls error
  uses : ∀ name command error, Uses name command → (s.obey command).1.cause? = some error →
    error.isTransactionState = true ∨ ∃ source, s.backend.Fails source ∧ error = .driver source

/-- A caller is told by each error whether a new connection may help, as far as the driver knows,
unless an initial statement failed. -/
theorem transience_kept {backend : Backend} (fresh : backend.log = []) (capacity : Nat)
    (provider : Option Provider) (moves : List Move) :
    Reporting ((start backend (Pool.ofCapacity capacity) provider).after moves) := by
  have ordered := orderly_start backend capacity provider
  have began := sound_start fresh capacity provider
  have orderly := orderly_after ordered moves
  have sound := began.after ordered moves
  have grounded := (grounded_start fresh _ provider).after ordered began moves
  generalize (start backend (Pool.ofCapacity capacity) provider).after moves = s
    at orderly sound grounded
  have sane : Sane s.toSystem := sound.sane grounded
  constructor
  · intro source error wraps
    exact ⟨wraps.message, wraps.isTransient, rfl, rfl⟩
  · intro error own
    exact PoolError.isTransient_of_own own
  · intro p opening running error failed
    exact Provider.wraps_of_failure? failed
  · intro p dsn named known
    exact Provider.manufacture_failure? named known sane.next
  · intro m error fails
    exact fails.explains orderly sane
  · intro name command error uses told
    exact uses.fails told

theorem transience_kept_refused :
    let p : Provider := ⟨.ofEndpoint "mock" "db", .single "mock" (), .empty, .none⟩
    let moves : List Move := [.command (.get "a"), .command (.release "a"),
      .command (.advance (Duration.ofParts 61 0)), .command (.setFault .pings true),
      .command (.setFault .opens true)]
    let s := (start .fresh (.ofCapacity 1) (some p)).after moves
    let m := Move.command (.get "b")
    let error := PoolError.connection (.openFailed "mock" "db" (.ofLink "connection refused"))
    Backend.fresh.log = [] ∧ Reporting s ∧ Fails s m error ∧ error.isTransient = true ∧
      ∃ calls, (s.move m).backend = s.backend.told calls ∧ calls.any Call.isRefused = true := by
  intro p moves s m error
  have reporting : Reporting s := transience_kept (rfl : Backend.fresh.log = []) 1 (some p) moves
  have fails : Fails s m error := .atOnce (Or.inl rfl) (Answer.eq_of_failure? (by decide +kernel))
  obtain ⟨calls, told, explains⟩ := reporting.requests m error fails
  exact ⟨rfl, reporting, fails, rfl, calls, told, explains.refused.symm⟩

/-- A driver that loses its link at an initial statement: its failure is told, but not that a new
connection may help. -/
theorem abort_hides_link :
    let p : Provider :=
      ⟨(Config.ofEndpoint "pg" "db").addInitSql "SET a", .single "pg" (), .empty, .none⟩
    let source := DriverError.ofLink "broken pipe"
    let error := Error.initSqlFailed "SET a" "db" source
    p.failure? none (fun _ => some source) = some error ∧ Error.Wraps source error ∧
      source.transient = true ∧ error.isTransient = false ∧
      (PoolError.connection error).isTransient = false :=
  ⟨rfl, .initialising _ _, rfl, rfl, rfl⟩

end Session
end Datastore
