import Datastore.Proofs.Backend
import Datastore.Proofs.Session.Line

/-!
# Another address

What the backend is told about where a data source is, it writes down and never reads. So whatever
is asked of a backend, a connection or a provider goes the same way if all data sources had one
other name, and also with a provider that differs in nothing else. Main statement:
`checkout_readdress`.
-/

namespace Datastore

/-- The call as it were with this data source name. -/
def Call.readdress (dsn : String) : Call → Call
  | .refused _ => .refused dsn
  | .opened _ => .opened dsn
  | call => call

namespace Backend

/-- The backend as it were if all data sources had this name. -/
def readdress (b : Backend) (dsn : String) : Backend :=
  { b with log := b.log.map (Call.readdress dsn) }

variable (dsn : String) (b : Backend)

theorem countP_readdress {p : Call → Bool} (same : ∀ call, p (Call.readdress dsn call) = p call) :
    (b.readdress dsn).log.countP p = b.log.countP p := by
  rw [readdress, List.countP_map]
  exact congrArg (List.countP · b.log) (funext same)

theorem filterMap_readdress {α : Type} {f : Call → Option α}
    (same : ∀ call, f (Call.readdress dsn call) = f call) :
    (b.readdress dsn).log.filterMap f = b.log.filterMap f := by
  rw [readdress, List.filterMap_map]
  exact congrArg (List.filterMap · b.log) (funext same)

@[simp] theorem opens_readdress : (b.readdress dsn).opens = b.opens :=
  countP_readdress dsn b fun call => by cases call <;> rfl

@[simp] theorem pings_readdress : (b.readdress dsn).pings = b.pings :=
  countP_readdress dsn b fun call => by cases call <;> rfl

@[simp] theorem begins_readdress : (b.readdress dsn).begins = b.begins :=
  countP_readdress dsn b fun call => by cases call <;> rfl

@[simp] theorem commits_readdress : (b.readdress dsn).commits = b.commits :=
  countP_readdress dsn b fun call => by cases call <;> rfl

@[simp] theorem rollbacks_readdress : (b.readdress dsn).rollbacks = b.rollbacks :=
  countP_readdress dsn b fun call => by cases call <;> rfl

@[simp] theorem closedHandles_readdress : (b.readdress dsn).closedHandles = b.closedHandles :=
  filterMap_readdress dsn b fun call => by cases call <;> rfl

@[simp] theorem isClosed_readdress (handle : Nat) :
    (b.readdress dsn).isClosed handle = b.isClosed handle := by
  simp only [isClosed, closedHandles_readdress]

@[simp] theorem has_readdress (fault : Fault) : (b.readdress dsn).has fault = b.has fault := rfl

@[simp] theorem record_readdress (call : Call) :
    (b.readdress dsn).record (call.readdress dsn) = (b.record call).readdress dsn := by
  simp [readdress, record]

/-- Wherever a handle is opened, it gets the same number. -/
theorem openHandle_readdress (dsn' : String) : (b.readdress dsn).openHandle dsn =
    ((b.openHandle dsn').1, (b.openHandle dsn').2.readdress dsn) := by
  have refused := record_readdress dsn b (.refused dsn')
  have opened := record_readdress dsn b (.opened dsn')
  simp only [Call.readdress] at refused opened
  by_cases refuses : b.has .opens
  · simp only [openHandle, has_readdress, refuses, if_true, refused]
  · simp only [openHandle, has_readdress, refuses, if_false, opened, opens_readdress,
      Bool.false_eq_true]

theorem run_readdress (handle : Nat) (statement : String) : (b.readdress dsn).run handle statement =
    ((b.run handle statement).1, (b.run handle statement).2.readdress dsn) := by
  simp only [run, ← record_readdress]
  rfl

theorem execute_readdress (handle : Nat) (statement : String) :
    (b.readdress dsn).execute handle statement =
      ((b.execute handle statement).1, (b.execute handle statement).2.readdress dsn) := by
  simp only [execute, isClosed_readdress, run_readdress]
  split <;> rfl

theorem ping_readdress (handle : Nat) : (b.readdress dsn).ping handle =
    ((b.ping handle).1, (b.ping handle).2.readdress dsn) := by
  simp only [ping, isClosed_readdress, has_readdress, ← record_readdress]
  rfl

theorem beginTransaction_readdress (handle : Nat) : (b.readdress dsn).beginTransaction handle =
    ((b.beginTransaction handle).1, (b.beginTransaction handle).2.readdress dsn) := by
  have begun := record_readdress dsn b (.begun handle)
  simp only [Call.readdress] at begun
  by_cases closed : b.isClosed handle
  · simp only [beginTransaction, isClosed_readdress, closed, if_true]
  · by_cases refuses : b.has .begins
    · simp only [beginTransaction, isClosed_readdress, closed, has_readdress, refuses, if_true,
        if_false, Bool.false_eq_true]
    · simp only [beginTransaction, isClosed_readdress, closed, has_readdress, refuses, if_false,
        Bool.false_eq_true, begun, begins_readdress]

theorem commit_readdress (transaction : Nat) : (b.readdress dsn).commit transaction =
    ((b.commit transaction).1, (b.commit transaction).2.readdress dsn) := by
  simp only [commit, has_readdress, ← record_readdress]
  rfl

theorem rollback_readdress (transaction : Nat) : (b.readdress dsn).rollback transaction =
    ((b.rollback transaction).1, (b.rollback transaction).2.readdress dsn) := by
  simp only [rollback, has_readdress, ← record_readdress]
  rfl

theorem setLifetime_readdress (handle : Nat) (lifetime : Duration) :
    (b.readdress dsn).setLifetime handle lifetime = (b.setLifetime handle lifetime).readdress dsn :=
  record_readdress dsn b (.lifetimeSet handle lifetime)

theorem setIdleLimit_readdress (handle limit : Nat) :
    (b.readdress dsn).setIdleLimit handle limit = (b.setIdleLimit handle limit).readdress dsn :=
  record_readdress dsn b (.idleLimitSet handle limit)

theorem close_readdress (handle : Nat) : (b.readdress dsn).close handle =
    ((b.close handle).1, (b.close handle).2.readdress dsn) := by
  have closed := record_readdress dsn b (.closed handle)
  simp only [Call.readdress] at closed
  simp only [close, isClosed_readdress]
  split
  · rfl
  · rw [closed]

end Backend

namespace Connection

variable (dsn : String) (c : Connection) (b : Backend)

theorem beginTransaction_readdress : c.beginTransaction (b.readdress dsn) =
    ((c.beginTransaction b).1, (c.beginTransaction b).2.1,
      (c.beginTransaction b).2.2.readdress dsn) := by
  simp only [beginTransaction, Backend.beginTransaction_readdress]
  split
  · rfl
  · split
    · rfl
    · rcases b.beginTransaction c.handle with ⟨_ | _, _⟩ <;> rfl

theorem finish_readdress {call : Backend → Nat → Except DriverError Unit × Backend}
    (same : ∀ number, call (b.readdress dsn) number =
      ((call b number).1, (call b number).2.readdress dsn)) :
    c.finish (b.readdress dsn) call =
      ((c.finish b call).1, (c.finish b call).2.1, (c.finish b call).2.2.readdress dsn) := by
  simp only [finish, same]
  split
  · rfl
  · split <;> rfl

theorem commit_readdress : c.commit (b.readdress dsn) =
    ((c.commit b).1, (c.commit b).2.1, (c.commit b).2.2.readdress dsn) :=
  c.finish_readdress dsn b (b.commit_readdress dsn)

theorem rollback_readdress : c.rollback (b.readdress dsn) =
    ((c.rollback b).1, (c.rollback b).2.1, (c.rollback b).2.2.readdress dsn) :=
  c.finish_readdress dsn b (b.rollback_readdress dsn)

theorem execute_readdress (statement : String) : c.execute (b.readdress dsn) statement =
    ((c.execute b statement).1, (c.execute b statement).2.readdress dsn) := by
  simp only [execute, Backend.run_readdress, Backend.execute_readdress]
  split <;> rfl

theorem retire_readdress :
    c.retire (b.readdress dsn) = ((c.retire b).1, (c.retire b).2.readdress dsn) := by
  rw [retire, Backend.setLifetime_readdress, Backend.close_readdress]
  rfl

theorem tune_readdress (tuning : Tuning) :
    c.tune tuning (b.readdress dsn) = (c.tune tuning b).readdress dsn := by
  simp only [tune]
  split <;> split <;> simp only [Backend.setLifetime_readdress, Backend.setIdleLimit_readdress]

end Connection

namespace System

/-- The system around a backend whose data sources all have this name. -/
def readdress (s : System) (dsn : String) : System := { s with backend := s.backend.readdress dsn }

variable (dsn : String) (s : System)

theorem retire_readdress (c : Connection) :
    (s.readdress dsn).retire c = ((s.retire c).1, (s.retire c).2.readdress dsn) := by
  simp only [retire, readdress, Connection.retire_readdress]
  rfl

theorem retireAll_readdress (cs : List Connection) :
    (s.readdress dsn).retireAll cs = (s.retireAll cs).readdress dsn := by
  induction cs generalizing s with
  | nil => rfl
  | cons c rest ih =>
    have next := ih (s.retire c).2
    rw [show (s.readdress dsn).retireAll (c :: rest) =
      ((s.readdress dsn).retire c).2.retireAll rest from rfl, retire_readdress, next]
    rfl

theorem withdraw_readdress :
    (s.readdress dsn).withdraw = (s.withdraw.1, s.withdraw.2.readdress dsn) := by
  have same : (s.readdress dsn).pool = s.pool := rfl
  simp only [withdraw, same]
  split <;> rfl

theorem close_readdress : (s.readdress dsn).close = (s.close.1, s.close.2.readdress dsn) := by
  have first : (s.readdress dsn).close.1 = s.close.1 := rfl
  have second : (s.readdress dsn).close.2 = s.close.2.readdress dsn := by
    rw [close_eq, close_eq]
    rfl
  rw [← first, ← second]

end System

namespace Provider

/-- A provider that differs at most in its data source, which has this name. -/
structure Stands (dsn : String) (p p' : Provider) : Prop where
  driverName : p'.config.driverName = p.config.driverName
  descriptor : p'.config.descriptor = p.config.descriptor
  initSql : p'.config.initSql = p.config.initSql
  maxPoolSize : p'.config.maxPoolSize = p.config.maxPoolSize
  drivers : p'.drivers = p.drivers
  dialects : p'.dialects = p.dialects
  tuning : p'.tuning = p.tuning
  source : p'.config.dsn = p.config.dsn.map fun _ => dsn

variable {dsn : String} {p p' : Provider}

theorem initialise_readdress (stands : Stands dsn p p') (handle : Nat) (statements : List String)
    (b : Backend) : p'.initialise handle statements (b.readdress dsn) =
      ((p.initialise handle statements b).1,
        (p.initialise handle statements b).2.readdress dsn) := by
  induction statements generalizing b with
  | nil => rfl
  | cons statement rest ih =>
    simp only [initialise, Backend.execute_readdress]
    rcases b.execute handle statement with ⟨source | count, after⟩
    · simp only [stands.descriptor]
    · exact ih after

theorem manufacture_readdress (stands : Stands dsn p p') (s : System) :
    p'.manufacture (s.readdress dsn) =
      ((p.manufacture s).1, (p.manufacture s).2.readdress dsn) := by
  simp only [manufacture, stands.source, stands.drivers, stands.driverName]
  cases p.config.dsn with
  | error error => rfl
  | ok dsn' =>
    -- The name goes to the backend and nowhere else: errors name the template.
    simp only [Except.map]
    cases p.drivers.find? p.config.driverName with
    | none => rfl
    | some driver =>
      have opened := s.backend.openHandle_readdress dsn dsn'
      simp only [System.readdress, opened]
      rcases s.backend.openHandle dsn' with ⟨source | handle, after⟩
      · simp only [stands.descriptor]
      · simp only [stands.initSql, initialise_readdress stands]
        rcases p.initialise handle p.config.initSql after with ⟨error | _, after⟩
        · rfl
        · simp only [stands.dialects]
          rfl

theorem examine_readdress (dsn : String) (s : System) (c : Connection) :
    examine (s.readdress dsn) c = ((examine s c).1, (examine s c).2.readdress dsn) := by
  simp only [examine, System.readdress, Backend.ping_readdress]
  split <;> rfl

theorem checkoutNew_readdress (stands : Stands dsn p p') (s : System) :
    p'.checkoutNew (s.readdress dsn) =
      ((p.checkoutNew s).1, (p.checkoutNew s).2.readdress dsn) := by
  simp only [checkoutNew, manufacture_readdress stands]
  rcases p.manufacture s with ⟨error | c, after⟩ <;> rfl

theorem recycle_readdress (stands : Stands dsn p p') (s : System) (c : Connection) :
    p'.recycle (s.readdress dsn) c =
      ((p.recycle s c).1, (p.recycle s c).2.readdress dsn) := by
  simp only [recycle, examine_readdress, stands.tuning]
  rcases examine s c with ⟨finding, after⟩
  have tuned : { after.readdress dsn with
      backend := c.tune p.tuning (after.readdress dsn).backend } =
        { after with backend := c.tune p.tuning after.backend }.readdress dsn := by
    simp only [System.readdress, Connection.tune_readdress]
  cases finding with
  | recent | alive =>
    simp only [tuned]
    rfl
  | stalled => rfl
  | failed => simp only [tuned, System.retire_readdress, checkoutNew_readdress stands]

theorem checkout_readdress (stands : Stands dsn p p') (s : System) :
    p'.checkout (s.readdress dsn) = ((p.checkout s).1, (p.checkout s).2.readdress dsn) := by
  have same : (s.readdress dsn).pool = s.pool := rfl
  simp only [checkout, same]
  split
  · exact checkoutNew_readdress stands s
  · next c rest front =>
    exact recycle_readdress stands
      ({ s with pool := { s.pool with idle := rest } }.note (.taken c)) c

end Provider
end Datastore
