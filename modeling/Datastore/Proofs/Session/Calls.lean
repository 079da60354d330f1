import Datastore.Proofs.Closing
import Datastore.Proofs.Session.Handout

/-!
# Calls by kind

The backend is told of errands, which open handles and run statements, of transactions, and of
upkeep: to probe, set and close handles. What a checkout or a request adds to the calls of one kind
is known as soon as the kind leaves errands out. Main statements: `calls_checkout`, `calls_serve`.
-/

namespace Datastore

namespace Call

/-- Calls that open handles and run statements. -/
def isErrand : Call → Bool
  | .refused _ | .opened _ | .executed _ _ => true
  | _ => false

/-- Calls that begin and end transactions. -/
def isTransactional : Call → Bool
  | .begun _ | .committed _ | .rolledBack _ => true
  | _ => false

/-- Calls that probe, set and close handles. -/
def isUpkeep : Call → Bool
  | .pinged _ | .lifetimeSet _ _ | .idleLimitSet _ _ | .closed _ => true
  | _ => false

end Call

/-- What closing a connection for good tells the backend; a handle is not closed twice. -/
def Connection.farewell (c : Connection) (b : Backend) : List Call :=
  .lifetimeSet c.handle Connection.retireLifetime ::
    if b.isClosed c.handle then [] else [.closed c.handle]

theorem Connection.farewell_of_open {c : Connection} {b : Backend}
    (isOpen : b.isClosed c.handle = false) : c.farewell b = c.retirement := by
  simp [farewell, retirement, isOpen]

theorem Connection.isUpkeep_of_farewell {c : Connection} {b : Backend} {call : Call}
    (here : call ∈ c.farewell b) : call.isUpkeep = true := by
  rw [farewell, List.mem_cons] at here
  rcases here with rfl | closing
  · rfl
  · split at closing
    · cases closing
    · obtain rfl := List.mem_singleton.mp closing
      rfl

/-- The calls that apply the settings to a handle. -/
def Tuning.calls (t : Tuning) (handle : Nat) : List Call :=
  (t.lifetime.map (Call.lifetimeSet handle)).toList ++
    (t.maxIdle.map (Call.idleLimitSet handle)).toList

theorem Tuning.isUpkeep_of_calls {t : Tuning} {handle : Nat} {call : Call}
    (here : call ∈ t.calls handle) : call.isUpkeep = true := by
  simp only [calls, List.mem_append, Option.mem_toList, Option.map_eq_some_iff] at here
  rcases here with ⟨lifetime, -, rfl⟩ | ⟨limit, -, rfl⟩ <;> rfl

namespace Backend

variable {kind : Call → Bool} (b : Backend)

/-- The calls of a kind, oldest first. -/
def calls (b : Backend) (kind : Call → Bool) : List Call := b.log.filter kind

theorem calls_record (kind : Call → Bool) (call : Call) :
    (b.record call).calls kind = b.calls kind ++ [call].filter kind := by
  simp only [calls, record, List.filter_append]

theorem calls_openHandle (spares : ∀ call, call.isErrand = true → kind call = false)
    (dsn : String) : (b.openHandle dsn).2.calls kind = b.calls kind := by
  have refused := spares (.refused dsn) rfl
  have opened := spares (.opened dsn) rfl
  rw [openHandle]
  split
  · simp [calls_record, refused]
  · simp [calls_record, opened]

theorem calls_run (spares : ∀ call, call.isErrand = true → kind call = false) (handle : Nat)
    (statement : String) : (b.run handle statement).2.calls kind = b.calls kind := by
  have executed := spares (.executed handle statement) rfl
  simp [run, calls_record, executed]

theorem calls_execute (spares : ∀ call, call.isErrand = true → kind call = false) (handle : Nat)
    (statement : String) : (b.execute handle statement).2.calls kind = b.calls kind := by
  rw [execute]
  split
  · rfl
  · exact b.calls_run spares handle statement

theorem calls_ping (kind : Call → Bool) (handle : Nat) :
    (b.ping handle).2.calls kind = b.calls kind ++ [Call.pinged handle].filter kind :=
  b.calls_record kind _

theorem calls_tune (kind : Call → Bool) (c : Connection) (tuning : Tuning) :
    (c.tune tuning b).calls kind = b.calls kind ++ (tuning.calls c.handle).filter kind := by
  obtain ⟨lifetime, maxIdle⟩ := tuning
  cases lifetime <;> cases maxIdle <;>
    simp [Connection.tune, Tuning.calls, setLifetime, setIdleLimit, calls, record]

theorem calls_retire (kind : Call → Bool) (c : Connection) :
    (c.retire b).2.calls kind = b.calls kind ++ (c.farewell b).filter kind := by
  rw [retire_eq, Connection.farewell]
  split
  · exact b.calls_record kind _
  · rw [calls_record, calls_record, List.append_assoc, ← List.filter_append]
    rfl

theorem isClosed_of_calls {b b' : Backend} (same : b'.log.filterMap Call.closed? =
    b.log.filterMap Call.closed?) (handle : Nat) : b'.isClosed handle = b.isClosed handle :=
  congrArg (·.contains handle) same

theorem isClosed_tune (c : Connection) (tuning : Tuning) (handle : Nat) :
    (c.tune tuning b).isClosed handle = b.isClosed handle := by
  apply isClosed_of_calls
  obtain ⟨lifetime, maxIdle⟩ := tuning
  cases lifetime <;> cases maxIdle <;>
    simp [Connection.tune, setLifetime, setIdleLimit, record, Call.closed?]

end Backend

namespace Provider

variable {kind : Call → Bool} (p : Provider)

theorem calls_initialise (spares : ∀ call, call.isErrand = true → kind call = false)
    (handle : Nat) (statements : List String) (b : Backend) :
    (p.initialise handle statements b).2.calls kind = b.calls kind := by
  induction statements generalizing b with
  | nil => rfl
  | cons statement rest ih =>
    have first := b.calls_execute spares handle statement
    rw [initialise]
    split
    · next ran =>
      rw [ran] at first
      exact first
    · next ran =>
      rw [ran] at first
      exact (ih _).trans first

theorem calls_manufacture (spares : ∀ call, call.isErrand = true → kind call = false)
    (s : System) : (p.manufacture s).2.backend.calls kind = s.backend.calls kind := by
  unfold manufacture
  split
  · rfl
  · next dsn _ =>
    split
    · rfl
    · have opened := s.backend.calls_openHandle spares dsn
      split
      · next ran =>
        rw [ran] at opened
        exact opened
      · next handle backend ran =>
        rw [ran] at opened
        have begun := p.calls_initialise spares handle p.config.initSql backend
        split
        · next ran' =>
          rw [ran'] at begun
          exact begun.trans opened
        · next ran' =>
          rw [ran'] at begun
          exact begun.trans opened

theorem calls_checkoutNew (spares : ∀ call, call.isErrand = true → kind call = false)
    (s : System) : (p.checkoutNew s).2.backend.calls kind = s.backend.calls kind := by
  have made := p.calls_manufacture spares s
  rw [checkoutNew]
  split
  · next ran =>
    rw [ran] at made
    exact made
  · next ran =>
    rw [ran] at made
    exact made

/-- A stale connection is probed. -/
def probing (now : Duration) (c : Connection) : List Call :=
  if isStale now c then [.pinged c.handle] else []

/-- A connection is tuned unless its probe does not end, and retired if it failed. -/
def treatment (b : Backend) (now : Duration) (c : Connection) : List Call :=
  match verdict b now c with
  | .recent | .alive => p.tuning.calls c.handle
  | .stalled => []
  | .failed => p.tuning.calls c.handle ++ c.farewell b

/-- What the backend is told about an idle connection that is taken. -/
def handling (b : Backend) (now : Duration) (c : Connection) : List Call :=
  probing now c ++ p.treatment b now c

theorem examine_backend (s : System) (c : Connection) : (examine s c).2.backend =
    if isStale s.clock c then (s.backend.ping c.handle).2 else s.backend := by
  rw [examine]
  split <;> rfl

theorem isClosed_examine (s : System) (c : Connection) (handle : Nat) :
    (examine s c).2.backend.isClosed handle = s.backend.isClosed handle := by
  rw [examine_backend]
  split
  · apply Backend.isClosed_of_calls
    simp [Backend.ping, Backend.record, Call.closed?]
  · rfl

theorem calls_examine (kind : Call → Bool) (s : System) (c : Connection) :
    (examine s c).2.backend.calls kind =
      s.backend.calls kind ++ (probing s.clock c).filter kind := by
  rw [examine_backend, probing]
  split
  · exact s.backend.calls_ping kind c.handle
  · simp

theorem calls_recycle (spares : ∀ call, call.isErrand = true → kind call = false) (s : System)
    (c : Connection) : (p.recycle s c).2.backend.calls kind =
      s.backend.calls kind ++ (p.handling s.backend s.clock c).filter kind := by
  have examined := calls_examine kind s c
  have tuned := (examine s c).2.backend.calls_tune kind c p.tuning
  rw [handling, treatment, List.filter_append, ← List.append_assoc, ← examined]
  cases ends : verdict s.backend s.clock c with
  | recent =>
    rw [recycle_of_passes (Or.inl ends)]
    exact tuned
  | alive =>
    rw [recycle_of_passes (Or.inr ends)]
    exact tuned
  | stalled =>
    rw [recycle_of_stalled ends]
    simp
  | failed =>
    -- Neither the probe nor the settings close a handle.
    have still : c.farewell (c.tune p.tuning (examine s c).2.backend) = c.farewell s.backend := by
      rw [Connection.farewell, Backend.isClosed_tune, isClosed_examine, ← Connection.farewell]
    have retired := (c.tune p.tuning (examine s c).2.backend).calls_retire kind c
    rw [still] at retired
    rw [recycle_of_failed ends, calls_checkoutNew p spares, List.filter_append,
      ← List.append_assoc, ← tuned]
    exact retired

/-- What a checkout tells the backend, errands apart. -/
theorem calls_checkout (spares : ∀ call, call.isErrand = true → kind call = false)
    (s : System) : (p.checkout s).2.backend.calls kind = s.backend.calls kind ++
      ((s.pool.idle.take 1).flatMap (p.handling s.backend s.clock)).filter kind := by
  cases line : s.pool.idle with
  | nil =>
    rw [checkout_nil line, calls_checkoutNew p spares]
    simp
  | cons c rest =>
    have one : ((c :: rest).take 1).flatMap (p.handling s.backend s.clock) =
        p.handling s.backend s.clock c := by simp
    rw [checkout_cons line, one]
    exact p.calls_recycle spares _ c

theorem isUpkeep_of_handling {call : Call} {b : Backend} {now : Duration} {c : Connection}
    (here : call ∈ p.handling b now c) : call.isUpkeep = true := by
  rcases List.mem_append.mp here with probe | treated
  · rw [probing] at probe
    split at probe
    · obtain rfl := List.mem_singleton.mp probe
      rfl
    · cases probe
  · rw [treatment] at treated
    split at treated
    · exact Tuning.isUpkeep_of_calls treated
    · exact Tuning.isUpkeep_of_calls treated
    · cases treated
    · rcases List.mem_append.mp treated with setting | last
      · exact Tuning.isUpkeep_of_calls setting
      · exact Connection.isUpkeep_of_farewell last

end Provider

/-! ### Requests -/

namespace Request

variable {kind : Call → Bool} (c : Connection) (b : Backend)

/-- What the backend is told for upkeep, except for closing a handle. -/
def upkeep (c : Connection) : Request → List Call
  | .tune tuning => tuning.calls c.handle
  | _ => []

theorem calls_begin (spares : ∀ call, call.isTransactional = true → kind call = false) :
    (c.beginTransaction b).2.2.calls kind = b.calls kind := by
  have begun := spares (.begun c.handle) rfl
  rw [Connection.beginTransaction]
  split
  · rfl
  · split
    · rfl
    · rw [Backend.beginTransaction]
      by_cases closed : b.isClosed c.handle
      · simp [closed]
      · by_cases fault : b.has .begins
        · simp [closed, fault]
        · simp [closed, fault, Backend.calls_record, begun]

theorem calls_finish {call : Backend → Nat → Except DriverError Unit × Backend}
    (spares : ∀ b number, (call b number).2.calls kind = b.calls kind) :
    (c.finish b call).2.2.calls kind = b.calls kind := by
  rw [Connection.finish]
  split
  · rfl
  · split
    · rfl
    · exact spares b _

theorem calls_commit (spares : ∀ call, call.isTransactional = true → kind call = false)
    (number : Nat) : (b.commit number).2.calls kind = b.calls kind := by
  simp [Backend.commit, Backend.calls_record, spares (.committed number) rfl]

theorem calls_rollback (spares : ∀ call, call.isTransactional = true → kind call = false)
    (number : Nat) : (b.rollback number).2.calls kind = b.calls kind := by
  simp [Backend.rollback, Backend.calls_record, spares (.rolledBack number) rfl]

theorem calls_nativeBegin (spares : ∀ call, call.isTransactional = true → kind call = false)
    (commits : Bool) : ((Request.nativeBegin commits).serve c b).calls kind = b.calls kind := by
  have begun := spares (.begun c.handle) rfl
  rw [serve, Backend.beginTransaction]
  by_cases closed : b.isClosed c.handle
  · simp [closed]
  · by_cases fault : b.has .begins
    · simp [closed, fault]
    · simp only [closed, fault, Bool.false_eq_true, if_false]
      cases commits with
      | true =>
        refine (calls_commit _ spares _).trans ?_
        simp [Backend.calls_record, begun]
      | false =>
        refine (calls_rollback _ spares _).trans ?_
        simp [Backend.calls_record, begun]

theorem calls_execute (spares : ∀ call, call.isErrand = true → kind call = false)
    (statement : String) : (c.execute b statement).2.calls kind = b.calls kind := by
  rw [Connection.execute]
  dsimp only
  split
  · exact b.calls_run spares c.handle statement
  · exact b.calls_execute spares c.handle statement

theorem calls_native (spares : ∀ call, call.isErrand = true → kind call = false)
    (handles : Session.NativeKind) (statement : String) :
    ((Request.native handles statement).serve c b).calls kind = b.calls kind := by
  cases handles with
  | database => exact b.calls_execute spares c.handle statement
  | transaction =>
    rw [serve]
    split
    · exact b.calls_run spares c.handle statement
    · rfl

/-- Of all requests only tuning and closing a handle are upkeep. -/
theorem calls_serve (errands : ∀ call, call.isErrand = true → kind call = false)
    (transactions : ∀ call, call.isTransactional = true → kind call = false)
    {request : Request} (spared : request ≠ .nativeClose) :
    (request.serve c b).calls kind = b.calls kind ++ (request.upkeep c).filter kind := by
  cases request with
  | begin => exact (calls_begin c b transactions).trans (List.append_nil _).symm
  | commit =>
    refine Eq.trans ?_ (List.append_nil _).symm
    exact calls_finish c b fun b number => calls_commit b transactions number
  | rollback =>
    refine Eq.trans ?_ (List.append_nil _).symm
    exact calls_finish c b fun b number => calls_rollback b transactions number
  | execute statement => exact (calls_execute c b errands statement).trans (List.append_nil _).symm
  | native handles statement =>
    exact (calls_native c b errands handles statement).trans (List.append_nil _).symm
  | nativeBegin commits =>
    exact (calls_nativeBegin c b transactions commits).trans (List.append_nil _).symm
  | nativeClose => exact absurd rfl spared
  | tune tuning => exact b.calls_tune kind c tuning

end Request

end Datastore
