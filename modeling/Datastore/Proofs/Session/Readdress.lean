import Datastore.Proofs.Readdress
import Datastore.Proofs.Session.Waiters

/-!
# Sessions at another address

A session whose data sources all had one other name, and whose provider is replaced by one that
differs in nothing else, goes the same way: each function of a session commutes with the change.
Main statements: `obey_readdress`, `run_readdress`.
-/

namespace Datastore

namespace Session

/-- The command as it were if all data sources had this name. -/
def Command.readdress (dsn : String) : Command → Command
  | .openDirect name driver _ => .openDirect name driver dsn
  | command => command

/-- The session as it were if all data sources had this name, and with this provider. -/
def readdress (s : Session) (dsn : String) (p : Provider) : Session :=
  { s with backend := s.backend.readdress dsn, provider := some p }

-- None of these is proved by `rfl`, so that `simp` rewrites in the conditions of an `if` too.
@[simp] theorem readdress_pool (s : Session) (dsn : String) (p : Provider) :
    (s.readdress dsn p).pool = s.pool := by simp only [readdress]

@[simp] theorem readdress_holdings (s : Session) (dsn : String) (p : Provider) :
    (s.readdress dsn p).holdings = s.holdings := by simp only [readdress]

@[simp] theorem readdress_provider (s : Session) (dsn : String) (p : Provider) :
    (s.readdress dsn p).provider = some p := by simp only [readdress]

@[simp] theorem readdress_backend (s : Session) (dsn : String) (p : Provider) :
    (s.readdress dsn p).backend = s.backend.readdress dsn := by simp only [readdress]

@[simp] theorem readdress_toSystem (s : Session) (dsn : String) (p : Provider) :
    (s.readdress dsn p).toSystem = s.toSystem.readdress dsn := by
  simp only [readdress, System.readdress]

/-- The same answer, and the session as it were. -/
def aside (dsn : String) (p : Provider) (outcome : Answer × Session) : Answer × Session :=
  (outcome.1, outcome.2.readdress dsn p)

variable {dsn : String} {p p' : Provider} {s : Session}

theorem advanceWaiter_readdress (s : Session) (name : String) (progress : Progress) :
    (s.readdress dsn p').advanceWaiter name progress =
      (s.advanceWaiter name progress).readdress dsn p' := by
  simp only [advanceWaiter, readdress_holdings]
  split <;> rfl

theorem freeSlot_readdress (s : Session) :
    (s.readdress dsn p').freeSlot = s.freeSlot.readdress dsn p' := by
  simp only [freeSlot, readdress_pool]
  split
  · rfl
  · next name rest line =>
    exact congrArg (putOff · (.resume name)) <| advanceWaiter_readdress
      { s with pool := { s.pool with waiting := rest } } name .granted

theorem discard_readdress (s : Session) (attended : Bool) (c : Connection) :
    (s.readdress dsn p').discard attended c = (s.discard attended c).readdress dsn p' := by
  cases attended <;> rfl

theorem giveBack_readdress (s : Session) (attended : Bool) (c : Connection) :
    (s.readdress dsn p').giveBack attended c = (s.giveBack attended c).readdress dsn p' := by
  simp only [giveBack, readdress_pool, discard_readdress, ← freeSlot_readdress]
  split
  · rfl
  · split <;> rfl

theorem deliver_readdress (s : Session) (name : String) (outcome : Provider.Checkout) :
    (s.readdress dsn p').deliver name outcome = (s.deliver name outcome).readdress dsn p' := by
  cases outcome with
  | ready c => rfl
  | stalled c => rfl
  | failed error => exact freeSlot_readdress (s.hold name _)

theorem resume_readdress (stands : Provider.Stands dsn p p') (served : s.provider = some p)
    (name : String) : (s.readdress dsn p').resume name = (s.resume name).readdress dsn p' := by
  have checkout := Provider.checkout_readdress stands s.toSystem
  simp only [resume, readdress_holdings, readdress_pool, readdress_provider, served]
  split
  · next wish known =>
    split
    · exact freeSlot_readdress (s.hold name _)
    · cases wish with
      | slot => rfl
      | connection =>
        simp only [readdress_toSystem, checkout]
        exact deliver_readdress (s.withSystem (p.checkout s.toSystem).2) name _
  · rfl

theorem perform_readdress (stands : Provider.Stands dsn p p') (served : s.provider = some p)
    (task : Task) : (s.readdress dsn p').perform task = (s.perform task).readdress dsn p' := by
  cases task with
  | resume name => exact resume_readdress stands served name
  | retire c =>
    have retired := s.toSystem.retire_readdress dsn c
    exact congrArg (fun y => (s.readdress dsn p').withSystem y.2) retired

theorem refuseAll_readdress (names : List String) (s : Session) :
    names.foldl refuseWaiter (s.readdress dsn p') =
      (names.foldl refuseWaiter s).readdress dsn p' := by
  induction names generalizing s with
  | nil => rfl
  | cons name rest ih =>
    rw [List.foldl_cons, refuseWaiter, advanceWaiter_readdress, ih]
    rfl

theorem closePool_readdress (s : Session) : (s.readdress dsn p').closePool =
    (s.closePool.1, s.closePool.2.readdress dsn p') := by
  simp only [closePool, readdress_toSystem, System.close_readdress, ← refuseAll_readdress]
  rfl

/-! ### Commands -/

theorem checkOut_readdress (stands : Provider.Stands dsn p p') (s : Session) (name : String)
    (noSlot : Answer) : (s.readdress dsn p').checkOut p' name noSlot =
      aside dsn p' (s.checkOut p name noSlot) := by
  have system : (s.readdress dsn p').takeSlot.toSystem = s.takeSlot.toSystem.readdress dsn := rfl
  simp only [checkOut, readdress_pool, system, Provider.checkout_readdress stands]
  split
  · rfl
  · split
    · rfl
    · rcases p.checkout s.takeSlot.toSystem with ⟨outcome, after⟩
      cases outcome with
      | ready c => rfl
      | failed error =>
        exact Prod.ext rfl (freeSlot_readdress (s.withSystem after))
      | stalled c =>
        exact Prod.ext rfl (freeSlot_readdress ((s.withSystem after).discard true c))

theorem unlessClosed_readdress {outcome outcome' : Answer × Session}
    (same : outcome' = aside dsn p' outcome) :
    (s.readdress dsn p').unlessClosed outcome' = aside dsn p' (s.unlessClosed outcome) := by
  simp only [unlessClosed, readdress_pool]
  split
  · rfl
  · exact same

theorem acquireSlot_readdress (s : Session) (name : String) (noSlot : Answer) :
    (s.readdress dsn p').acquireSlot name noSlot = aside dsn p' (s.acquireSlot name noSlot) := by
  simp only [acquireSlot, readdress_pool]
  split
  · rfl
  · split <;> rfl

theorem lineUp_readdress (s : Session) (wish : Wish) (name : String) :
    (s.readdress dsn p').lineUp wish name = (s.lineUp wish name).readdress dsn p' := by
  simp only [lineUp, readdress_pool]
  split
  · rfl
  · split <;> rfl

theorem collect_readdress (s : Session) (name : String) (progress : Progress) :
    (s.readdress dsn p').collect name progress = aside dsn p' (s.collect name progress) := by
  unfold collect
  split <;> rfl

theorem letGo_readdress (s : Session) (name : String) :
    (s.readdress dsn p').letGo name = (s.letGo name).readdress dsn p' := rfl

theorem giveUp_readdress (s : Session) (attended : Bool) (name : String) (progress : Progress) :
    (s.readdress dsn p').giveUp attended name progress =
      aside dsn p' (s.giveUp attended name progress) := by
  simp only [giveUp, letGo_readdress, discard_readdress]
  split
  · rfl
  · exact Prod.ext rfl (freeSlot_readdress _)
  · exact Prod.ext rfl (freeSlot_readdress _)
  · exact Prod.ext rfl (giveBack_readdress _ _ _)
  · exact Prod.ext rfl (freeSlot_readdress _)
  · rfl

theorem partWith_readdress (s : Session) (attended : Bool) (name : String) (thing : Holding) :
    (s.readdress dsn p').partWith attended name thing =
      aside dsn p' (s.partWith attended name thing) := by
  cases thing with
  | pooled c => exact Prod.ext rfl (giveBack_readdress (s.letGo name) attended c)
  | bare c => rfl
  | slot => exact Prod.ext rfl (freeSlot_readdress (s.letGo name))
  | waiter wish progress => exact giveUp_readdress s attended name progress

theorem setConnection_readdress (s : Session) (name : String) (c : Connection) :
    (s.readdress dsn p').setConnection name c = (s.setConnection name c).readdress dsn p' := by
  simp only [setConnection, readdress_holdings]
  split <;> rfl

theorem withProvider_readdress (served : s.provider = some p)
    {use use' : Provider → Answer × Session} (same : use' p' = aside dsn p' (use p)) :
    (s.readdress dsn p').withProvider use' = aside dsn p' (s.withProvider use) := by
  simp only [withProvider, readdress_provider, served, same]

theorem withHolding_readdress {use use' : Holding → Answer × Session}
    (same : ∀ thing, use' thing = aside dsn p' (use thing)) (name : String) :
    (s.readdress dsn p').withHolding name use' = aside dsn p' (s.withHolding name use) := by
  simp only [withHolding, readdress_holdings]
  split
  · exact same _
  · rfl

theorem withConnection_readdress {use use' : Connection → Answer × Session}
    (same : ∀ c, use' c = aside dsn p' (use c)) (name : String) :
    (s.readdress dsn p').withConnection name use' = aside dsn p' (s.withConnection name use) := by
  have held : (s.readdress dsn p').connection? name = s.connection? name := rfl
  simp only [withConnection, held]
  split
  · exact same _
  · rfl

theorem transact_readdress {call : Connection → Backend → Except Error Unit × Connection × Backend}
    (same : ∀ c b, call c (b.readdress dsn) =
      ((call c b).1, (call c b).2.1, (call c b).2.2.readdress dsn)) (name : String) :
    (s.readdress dsn p').transact name call = aside dsn p' (s.transact name call) := by
  refine withConnection_readdress (fun c => ?_) name
  simp only [readdress_backend, same]
  exact Prod.ext rfl (setConnection_readdress { s with backend := _ } name _)

theorem closeNow_readdress (s : Session) (name : String) (thing : Holding) :
    (s.readdress dsn p').closeNow name thing = aside dsn p' (s.closeNow name thing) := by
  unfold closeNow
  simp only [readdress_toSystem, System.retire_readdress]
  split
  · next c =>
    split <;>
      exact Prod.ext rfl (freeSlot_readdress ((s.letGo name).withSystem (s.toSystem.retire c).2))
  · rfl
  · rfl
  · rfl

theorem execute_readdress (s : Session) (name statement : String) :
    (s.readdress dsn p').execute name statement = aside dsn p' (s.execute name statement) := by
  refine withConnection_readdress (fun c => ?_) name
  simp only [readdress_backend, Connection.execute_readdress]
  split <;> rfl

theorem ping_readdress (s : Session) (name : String) :
    (s.readdress dsn p').ping name = aside dsn p' (s.ping name) := by
  refine withConnection_readdress (fun c => ?_) name
  simp only [readdress_backend, Backend.ping_readdress]
  split <;> rfl

theorem native_readdress (s : Session) (name : String) (kind : NativeKind) (statement : String) :
    (s.readdress dsn p').native name kind statement =
      aside dsn p' (s.native name kind statement) := by
  refine withConnection_readdress (fun c => ?_) name
  simp only [readdress_backend, Backend.execute_readdress, Backend.run_readdress]
  split <;> rfl

theorem nativeBegin_readdress (s : Session) (name : String) (commit : Bool) :
    (s.readdress dsn p').nativeBegin name commit = aside dsn p' (s.nativeBegin name commit) := by
  refine withConnection_readdress (fun c => ?_) name
  simp only [readdress_backend, Backend.beginTransaction_readdress]
  rcases s.backend.beginTransaction c.handle with ⟨source | number, after⟩
  · rfl
  · simp only [Backend.commit_readdress, Backend.rollback_readdress]
    cases commit <;> rfl

theorem describe_stands (stands : Provider.Stands dsn p p') (pool : Pool) :
    p'.describe pool = p.describe pool := by
  simp only [Provider.describe, stands.driverName, stands.descriptor, stands.tuning]

theorem carryOut_readdress (stands : Provider.Stands dsn p p') (served : s.provider = some p)
    (command : Command) : (s.readdress dsn p').carryOut (command.readdress dsn) =
      aside dsn p' (s.carryOut command) := by
  cases command with
  | get name =>
    simp only [Command.readdress, carryOut]
    exact withProvider_readdress served
      (unlessClosed_readdress (checkOut_readdress stands s name .blocked))
  | tryGet name =>
    simp only [Command.readdress, carryOut]
    exact withProvider_readdress served (checkOut_readdress stands s name .nothing)
  | acquire name => exact unlessClosed_readdress (acquireSlot_readdress s name .blocked)
  | tryAcquire name => exact acquireSlot_readdress s name .nothing
  | waitGet name =>
    simp only [Command.readdress, carryOut, lineUp_readdress]
    exact withProvider_readdress served rfl
  | waitAcquire name => exact Prod.ext rfl (lineUp_readdress s .slot name)
  | poll name =>
    refine withHolding_readdress (fun thing => ?_) name
    cases thing with
    | waiter wish progress => exact collect_readdress s name progress
    | _ => rfl
  | cancel name =>
    refine withHolding_readdress (fun thing => ?_) name
    cases thing with
    | waiter wish progress => exact partWith_readdress s true name _
    | _ => rfl
  | newConnection name =>
    simp only [Command.readdress, carryOut]
    refine withProvider_readdress served ?_
    simp only [readdress_toSystem, Provider.manufacture_readdress stands]
    rcases p.manufacture s.toSystem with ⟨error | c, after⟩ <;> rfl
  | openDirect name driver dsn' =>
    simp only [Command.readdress, carryOut, readdress_backend,
      s.backend.openHandle_readdress dsn dsn']
    rcases s.backend.openHandle dsn' with ⟨source | handle, after⟩ <;> rfl
  | dequeue name =>
    simp only [Command.readdress, carryOut, readdress_toSystem, System.withdraw_readdress]
    rcases s.toSystem.withdraw with ⟨_ | c, after⟩ <;> rfl
  | closeProvider =>
    simp only [Command.readdress, carryOut]
    refine withProvider_readdress served ?_
    simp only [closePool_readdress, readdress_toSystem, System.retireAll_readdress]
    rfl
  | closePool =>
    simp only [Command.readdress, carryOut, closePool_readdress, forsakeAll_eq]
    rfl
  | describeProvider =>
    simp only [Command.readdress, carryOut]
    refine withProvider_readdress served ?_
    simp only [stands.driverName, stands.descriptor, stands.maxPoolSize, describe_stands stands]
    rfl
  | release name =>
    refine withHolding_readdress (fun thing => ?_) name
    cases thing with
    | pooled c => exact partWith_readdress s true name _
    | _ => rfl
  | drop name =>
    refine withHolding_readdress (fun thing => ?_) name
    cases thing with
    | waiter wish progress => rfl
    | _ => exact partWith_readdress s true name _
  | dropUnattended name =>
    refine withHolding_readdress (fun thing => ?_) name
    cases thing with
    | pooled c =>
      simp only [readdress_pool]
      split
      · exact partWith_readdress s false name _
      · rfl
    | _ => rfl
  | abandon name => exact withHolding_readdress (partWith_readdress s false name) name
  | closeNow name => exact withHolding_readdress (closeNow_readdress s name) name
  | detach name bareName =>
    refine withHolding_readdress (fun thing => ?_) name
    cases thing with
    | pooled c =>
      exact Prod.ext rfl (freeSlot_readdress ((s.letGo name).hold bareName (.bare c)))
    | _ => rfl
  | enqueue name =>
    refine withHolding_readdress (fun thing => ?_) name
    cases thing with
    | bare c =>
      simp only [readdress_pool]
      split <;> rfl
    | _ => rfl
  | beginTransaction name =>
    exact transact_readdress (fun c b => c.beginTransaction_readdress dsn b) name
  | commit name => exact transact_readdress (fun c b => c.commit_readdress dsn b) name
  | rollback name => exact transact_readdress (fun c b => c.rollback_readdress dsn b) name
  | execute name statement => exact execute_readdress s name statement
  | ping name => exact ping_readdress s name
  | setLastUsed name now =>
    refine withConnection_readdress (fun c => ?_) name
    exact Prod.ext rfl (setConnection_readdress s name _)
  | inspect name =>
    refine withConnection_readdress (fun c => ?_) name
    rfl
  | describe name =>
    simp only [Command.readdress, carryOut, readdress_holdings]
    split <;> rfl
  | native name kind statement => exact native_readdress s name kind statement
  | nativeClose name =>
    refine withConnection_readdress (fun c => ?_) name
    simp only [readdress_backend, Backend.close_readdress]
    rfl
  | nativeBegin name commit => exact nativeBegin_readdress s name commit
  | tune name tuning =>
    refine withConnection_readdress (fun c => ?_) name
    simp only [readdress_backend, Connection.tune_readdress]
    rfl
  | describePool | advance time | setFault fault on | failStatement statement => rfl

theorem newName?_readdress (dsn : String) (command : Command) :
    (command.readdress dsn).newName? = command.newName? := by
  cases command <;> rfl

theorem obey_readdress (stands : Provider.Stands dsn p p') (served : s.provider = some p)
    (command : Command) :
    (s.readdress dsn p').obey (command.readdress dsn) = aside dsn p' (s.obey command) := by
  simp only [obey, newName?_readdress, readdress_holdings, carryOut_readdress stands served]
  split <;> rfl

/-! ### Runs -/

/-- The move as it were if all data sources had this name. -/
def Move.readdress (dsn : String) : Move → Move
  | .command asked => .command (asked.readdress dsn)
  | .work place => .work place

theorem move_readdress (stands : Provider.Stands dsn p p') (served : s.provider = some p)
    (m : Move) : (s.readdress dsn p').move (m.readdress dsn) = (s.move m).readdress dsn p' := by
  cases m with
  | command command => exact congrArg Prod.snd (obey_readdress stands served command)
  | work place =>
    cases due : s.agenda[place]? with
    | none =>
      have idle : (s.readdress dsn p').agenda[place]? = none := due
      simp only [Move.readdress, move, doWork, due, idle]
    | some task =>
      have due' : (s.readdress dsn p').agenda[place]? = some task := due
      have rest : { s with agenda := s.agenda.eraseIdx place }.provider = some p := served
      simp only [Move.readdress, move, doWork, due, due']
      exact perform_readdress stands rest task

theorem after_readdress (stands : Provider.Stands dsn p p') (orderly : Orderly s)
    (served : s.provider = some p) (moves : List Move) :
    (s.readdress dsn p').after (moves.map (Move.readdress dsn)) =
      (s.after moves).readdress dsn p' := by
  induction moves generalizing s with
  | nil => rfl
  | cons m rest ih =>
    -- The provider never changes, so it is always the one that is stood for.
    have served' : (s.move m).provider = some p := (provider_after orderly [m]).trans served
    rw [List.map_cons, after_cons, after_cons, move_readdress stands served,
      ih (orderly_move orderly m) served']

theorem settle_readdress (stands : Provider.Stands dsn p p') (orderly : Orderly s)
    (served : s.provider = some p) :
    (s.readdress dsn p').settle = s.settle.readdress dsn p' := by
  have chain := after_readdress stands orderly served (List.replicate s.workload (.work 0))
  rw [List.map_replicate] at chain
  rw [settle_eq_after, settle_eq_after, ← chain]
  rfl

/-- One step, with its work. -/
theorem step_readdress (stands : Provider.Stands dsn p p') (orderly : Orderly s)
    (served : s.provider = some p) (command : Command) :
    (s.readdress dsn p').step (command.readdress dsn) = aside dsn p' (s.step command) := by
  by_cases taken : command.newName?.any s.holdings.contains
  · simp only [step, newName?_readdress, readdress_holdings, taken, if_true]
    rfl
  · have obeyed : s.obey command = s.carryOut command := by simp only [obey, taken, if_false,
      Bool.false_eq_true]
    have orderly' : Orderly (s.carryOut command).2 :=
      obeyed ▸ orderly_move orderly (.command command)
    have served' : (s.carryOut command).2.provider = some p :=
      obeyed ▸ (provider_after orderly [.command command]).trans served
    simp only [step, newName?_readdress, readdress_holdings, taken, if_false, Bool.false_eq_true,
      carryOut_readdress stands served, aside, settle_readdress stands orderly' served']

/-- What is seen from outside if all data sources had this name. -/
def Report.readdress (dsn : String) (r : Report) : Report :=
  { r with calls := r.calls.map (Call.readdress dsn) }

theorem report_readdress (s : Session) (reported : Nat) :
    (s.readdress dsn p').report reported = (s.report reported).readdress dsn := by
  simp only [report, Report.readdress, readdress_pool, readdress_backend,
    Backend.opens_readdress, Backend.pings_readdress, Backend.begins_readdress,
    Backend.commits_readdress, Backend.rollbacks_readdress, Backend.closes,
    Backend.closedHandles_readdress, List.map_drop]
  rfl

/-- The whole run goes the same way, step by step. -/
theorem run_readdress (stands : Provider.Stands dsn p p') (orderly : Orderly s)
    (served : s.provider = some p) (commands : List Command) :
    run (s.readdress dsn p') (commands.map (Command.readdress dsn)) =
      (run s commands).map fun seen => (seen.1, seen.2.readdress dsn) := by
  induction commands generalizing s with
  | nil => rfl
  | cons command rest ih =>
    have reported : (s.readdress dsn p').backend.log.length = s.backend.log.length :=
      List.length_map _
    obtain ⟨count, same⟩ := step_eq_after s command
    have orderly' : Orderly (s.step command).2 := same ▸ orderly_after orderly _
    have served' : (s.step command).2.provider = some p :=
      same ▸ (provider_after orderly _).trans served
    simp only [List.map_cons, run, step_readdress stands orderly served, aside, report_readdress,
      reported, ih orderly' served']

end Session
end Datastore
