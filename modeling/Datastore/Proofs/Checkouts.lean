import Datastore.Proofs.Manufacture
import Datastore.Proofs.Session.Calls
import Datastore.Proofs.Session.Upkeep

/-!
# Checking connections out

What comes of a checkout that has a slot, case by case: which connection or failure, and every call
that the backend is told, in order. In every state that a session can reach, callers who ask for a
connection at once and those who wait for one get just this, with what it does to their slot and to
the queue. Main statement: `checkout_exact`.
-/

namespace Datastore

/-- A call that closes a handle. -/
def Call.isClosing : Call → Bool
  | .closed _ => true
  | _ => false

/-- A call that opens a handle or tries to. -/
def Call.isAttempt : Call → Bool
  | .refused _ | .opened _ => true
  | _ => false

theorem Call.isOpened_of_upkeep {call : Call} (upkeep : call.isUpkeep = true) :
    call.isOpened = false := by
  cases call <;> first | rfl | cases upkeep

theorem Call.countP_isOpened_of_upkeep {calls : List Call}
    (upkeep : ∀ call ∈ calls, call.isUpkeep = true) : calls.countP Call.isOpened = 0 := by
  rw [List.countP_eq_zero]
  exact fun call here => Bool.eq_false_iff.mp (isOpened_of_upkeep (upkeep call here))

/-- Settings neither probe nor close nor open. -/
theorem Tuning.quiet (t : Tuning) (handle : Nat) :
    (t.calls handle).countP Call.isPinged = 0 ∧ (t.calls handle).countP Call.isClosing = 0 ∧
      (t.calls handle).countP Call.isAttempt = 0 := by
  obtain ⟨lifetime, maxIdle⟩ := t
  cases lifetime <;> cases maxIdle <;> exact ⟨rfl, rfl, rfl⟩

theorem countP_executed {kind : Call → Bool} {handle : Nat} {statements : List String}
    (spares : ∀ statement, kind (.executed handle statement) = false) :
    (statements.map (Call.executed handle)).countP kind = 0 := by
  rw [List.countP_map, List.countP_eq_zero]
  exact fun statement _ => Bool.eq_false_iff.mp (spares statement)

/-- No closing closes nothing. -/
theorem closed?_of_countP {calls : List Call} (none : calls.countP Call.isClosing = 0) :
    calls.filterMap Call.closed? = [] := by
  rw [List.filterMap_eq_nil_iff]
  intro call here
  have other := List.countP_eq_zero.mp none call here
  cases call <;> first | rfl | exact absurd rfl other

namespace Backend

variable (b : Backend)

theorem closedHandles_told (calls : List Call) :
    (b.told calls).closedHandles = b.closedHandles ++ calls.filterMap Call.closed? := by
  simp [closedHandles, told]

theorem opens_told (calls : List Call) :
    (b.told calls).opens = b.opens + calls.countP Call.isOpened := by
  simp [opens, told]

theorem pings_told (calls : List Call) :
    (b.told calls).pings = b.pings + calls.countP Call.isPinged := by
  simp [pings, told]

theorem tune_eq_told (c : Connection) (tuning : Tuning) :
    c.tune tuning b = b.told (tuning.calls c.handle) := by
  obtain ⟨lifetime, maxIdle⟩ := tuning
  cases lifetime <;> cases maxIdle <;>
    simp [Connection.tune, Tuning.calls, setLifetime, setIdleLimit, record, told]

theorem retire_eq_told (c : Connection) : (c.retire b).2 = b.told (c.farewell b) := by
  rw [retire_eq, Connection.farewell]
  split <;> simp [record, told]

end Backend

namespace Provider

variable {p : Provider} {s t : System}

/-- Unstamped connections are never stale, and others not within the first minute. -/
def Stale (now : Duration) (c : Connection) : Prop :=
  ∃ since, c.lastUsed = some since ∧ 60 * Duration.perSecond < (now.since since).nanos

theorem isStale_iff (now : Duration) (c : Connection) : isStale now c = true ↔ Stale now c := by
  cases used : c.lastUsed with
  | none => simp [isStale, Connection.idleFor, Stale, used]
  | some since =>
    simp only [isStale, Connection.idleFor, Stale, used, Option.map_some, decide_eq_true_eq,
      Option.some.injEq, exists_eq_left']
    exact Iff.rfl

def Checkout.ofMaking : Except Error Connection → Checkout
  | .ok c => .ready c
  | .error error => .failed error

/-- What the backend is told before a connection whose probe failed is replaced. -/
def parting (p : Provider) (b : Backend) (c : Connection) : List Call :=
  .pinged c.handle :: (p.tuning.calls c.handle ++ c.farewell b)

/-- How a checkout ends and what the backend is told for it. -/
inductive Serves (p : Provider) (s : System) : Checkout → List Call → Prop
  | new {outcome : Except Error Connection} {calls : List Call} (empty : s.pool.idle = [])
      (produces : p.Produces s outcome calls) : Serves p s (.ofMaking outcome) calls
  | recent (c : Connection) (rest : List Connection) (front : s.pool.idle = c :: rest)
      (recent : ¬ Stale s.clock c) : Serves p s (.ready c) (p.tuning.calls c.handle)
  | alive (c : Connection) (rest : List Connection) (front : s.pool.idle = c :: rest)
      (stale : Stale s.clock c) (answers : (s.backend.ping c.handle).1 = .alive) :
    Serves p s (.ready c) (.pinged c.handle :: p.tuning.calls c.handle)
  /-- The front is closed before the new one is made. -/
  | replaced (c : Connection) (rest : List Connection) (front : s.pool.idle = c :: rest)
      (stale : Stale s.clock c) (source : DriverError)
      (fails : (s.backend.ping c.handle).1 = .failed source)
      {outcome : Except Error Connection} {calls : List Call}
      (produces : p.Produces { s with backend := s.backend.told (p.parting s.backend c) }
        outcome calls) :
    Serves p s (.ofMaking outcome) (p.parting s.backend c ++ calls)
  | stalled (c : Connection) (rest : List Connection) (front : s.pool.idle = c :: rest)
      (stale : Stale s.clock c) (hangs : (s.backend.ping c.handle).1 = .stalled) :
    Serves p s (.stalled c) [.pinged c.handle]

/-! ### What a description reads -/

theorem Produces.transfer {outcome : Except Error Connection} {calls : List Call}
    (produces : p.Produces s outcome calls) (backend : t.backend = s.backend)
    (made : t.made = s.made) (clock : t.clock = s.clock) : p.Produces t outcome calls := by
  cases s
  cases t
  cases backend
  cases made
  cases clock
  cases produces with
  | misnamed fault unnamed => exact .misnamed fault unnamed
  | unknown dsn named absent => exact .unknown dsn named absent
  | refused dsn named known faulty => exact .refused dsn named known faulty
  | aborted dsn done statement rest named known sane listed passed failing =>
    exact .aborted dsn done statement rest named known sane listed passed failing
  | made dsn named known sane passed => exact .made dsn named known sane passed

theorem Serves.transfer {outcome : Checkout} {calls : List Call}
    (serves : p.Serves s outcome calls) (backend : t.backend = s.backend)
    (made : t.made = s.made) (clock : t.clock = s.clock) (idle : t.pool.idle = s.pool.idle) :
    p.Serves t outcome calls := by
  cases serves with
  | new empty produces =>
    exact .new (idle.trans empty) (produces.transfer backend made clock)
  | recent c rest front recent =>
    exact .recent c rest (idle.trans front) (clock ▸ recent)
  | alive c rest front stale answers =>
    exact .alive c rest (idle.trans front) (clock ▸ stale) (backend ▸ answers)
  | replaced c rest front stale source fails produces =>
    have later := produces.transfer (t := { t with
      backend := t.backend.told (p.parting t.backend c) }) (by rw [backend]) made clock
    rw [← backend]
    exact .replaced c rest (idle.trans front) (clock ▸ stale) source (backend ▸ fails) later
  | stalled c rest front stale hangs =>
    exact .stalled c rest (idle.trans front) (clock ▸ stale) (backend ▸ hangs)

/-! ### Checkouts are as described -/

theorem checkoutNew_of_produces {outcome : Except Error Connection} {calls : List Call}
    (produces : p.Produces s outcome calls)
    (next : s.backend.isClosed (s.backend.opens + 1) = false) :
    (p.checkoutNew s).1 = .ofMaking outcome ∧
      (p.checkoutNew s).2.backend = s.backend.told calls := by
  rw [checkoutNew, produces.manufacture next]
  cases outcome <;> exact ⟨rfl, System.afterMaking_backend ..⟩

theorem verdict_of_stale {c : Connection} (stale : Stale s.clock c) :
    verdict s.backend s.clock c = findingOf (s.backend.ping c.handle).1 := by
  rw [verdict, if_pos ((isStale_iff _ _).mpr stale)]

theorem examine_of_stale {c : Connection} (stale : Stale s.clock c) :
    (examine s c).2.backend = s.backend.told [.pinged c.handle] := by
  rw [examine_backend, if_pos ((isStale_iff _ _).mpr stale)]
  rfl

theorem examine_clock (s : System) (c : Connection) : (examine s c).2.clock = s.clock := by
  rw [examine]
  split <;> rfl

theorem isUpkeep_of_parting {b : Backend} {c : Connection} {call : Call}
    (here : call ∈ p.parting b c) : call.isUpkeep = true := by
  rw [parting, List.mem_cons, List.mem_append] at here
  rcases here with rfl | setting | last
  · rfl
  · exact Tuning.isUpkeep_of_calls setting
  · exact Connection.isUpkeep_of_farewell last

theorem closedHandles_parting (b : Backend) (c : Connection) :
    (b.told (p.parting b c)).closedHandles = b.closedWith c.handle := by
  rw [Backend.closedHandles_told, parting, List.filterMap_cons_none rfl, List.filterMap_append,
    closed?_of_countP (p.tuning.quiet c.handle).2.1, List.nil_append, Connection.farewell,
    List.filterMap_cons_none rfl, Backend.closedWith]
  split
  · exact List.append_nil _
  · rfl

theorem opens_parting (b : Backend) (c : Connection) :
    (b.told (p.parting b c)).opens = b.opens := by
  rw [Backend.opens_told, Call.countP_isOpened_of_upkeep fun _ => isUpkeep_of_parting,
    Nat.add_zero]

/-- A parting opens no handle and closes no other one. -/
theorem next_parting {b : Backend} {c : Connection} (opened : c.handle ≤ b.opens)
    (next : b.isClosed (b.opens + 1) = false) :
    (b.told (p.parting b c)).isClosed ((b.told (p.parting b c)).opens + 1) = false := by
  rw [opens_parting, ← Bool.not_eq_true, Backend.isClosed_iff, closedHandles_parting,
    Backend.mem_closedWith]
  rintro (before | now)
  · exact absurd ((Backend.isClosed_iff _ _).mpr before) (by simp [next])
  · omega

theorem recycle_recent {c : Connection} (recent : ¬ Stale s.clock c) :
    (p.recycle s c).1 = .ready c ∧
      (p.recycle s c).2.backend = s.backend.told (p.tuning.calls c.handle) := by
  have fresh : isStale s.clock c = false := by rwa [← Bool.not_eq_true, isStale_iff]
  have still : (examine s c).2.backend = s.backend := by simp [examine_backend, fresh]
  rw [recycle_of_passes (Or.inl (by simp [verdict, fresh]))]
  refine ⟨rfl, ?_⟩
  change c.tune p.tuning (examine s c).2.backend = _
  rw [Backend.tune_eq_told, still]

theorem recycle_alive {c : Connection} (stale : Stale s.clock c)
    (answers : (s.backend.ping c.handle).1 = .alive) : (p.recycle s c).1 = .ready c ∧
      (p.recycle s c).2.backend =
        s.backend.told (.pinged c.handle :: p.tuning.calls c.handle) := by
  have alive : verdict s.backend s.clock c = .alive := by
    rw [verdict_of_stale stale, answers]
    rfl
  rw [recycle_of_passes (Or.inr alive)]
  refine ⟨rfl, ?_⟩
  change c.tune p.tuning (examine s c).2.backend = _
  rw [Backend.tune_eq_told, examine_of_stale stale]
  exact Backend.told_told ..

/-- A connection whose probe failed is tuned and retired. -/
theorem retire_examined {c : Connection} (stale : Stale s.clock c) :
    (c.retire (c.tune p.tuning (examine s c).2.backend)).2 =
      s.backend.told (p.parting s.backend c) := by
  -- Neither the probe nor the settings close a handle.
  have still : c.farewell (c.tune p.tuning (examine s c).2.backend) = c.farewell s.backend := by
    rw [Connection.farewell, Backend.isClosed_tune, isClosed_examine, ← Connection.farewell]
  rw [Backend.retire_eq_told, still, Backend.tune_eq_told, examine_of_stale stale]
  simp [parting]

theorem recycle_replaced {c : Connection} (stale : Stale s.clock c) {source : DriverError}
    (fails : (s.backend.ping c.handle).1 = .failed source)
    {outcome : Except Error Connection} {calls : List Call}
    (produces : p.Produces { s with backend := s.backend.told (p.parting s.backend c) }
      outcome calls)
    (opened : c.handle ≤ s.backend.opens)
    (next : s.backend.isClosed (s.backend.opens + 1) = false) :
    (p.recycle s c).1 = .ofMaking outcome ∧
      (p.recycle s c).2.backend = s.backend.told (p.parting s.backend c ++ calls) := by
  have failed : verdict s.backend s.clock c = .failed := by
    rw [verdict_of_stale stale, fails]
    rfl
  have parted := retire_examined (p := p) stale
  rw [recycle_of_failed failed, ← Backend.told_told, ← parted]
  refine checkoutNew_of_produces (produces.transfer parted ?_ ?_) ?_
  · exact examine_made s c
  · exact examine_clock s c
  · change (c.retire (c.tune p.tuning (examine s c).2.backend)).2.isClosed
      ((c.retire (c.tune p.tuning (examine s c).2.backend)).2.opens + 1) = false
    rw [parted]
    exact next_parting opened next

theorem recycle_stalled {c : Connection} (stale : Stale s.clock c)
    (hangs : (s.backend.ping c.handle).1 = .stalled) : (p.recycle s c).1 = .stalled c ∧
      (p.recycle s c).2.backend = s.backend.told [.pinged c.handle] := by
  have stalled : verdict s.backend s.clock c = .stalled := by
    rw [verdict_of_stale stale, hangs]
    rfl
  rw [recycle_of_stalled stalled]
  exact ⟨rfl, examine_of_stale stale⟩

/-- Every idle connection has a handle that was opened, and the next handle is open. -/
structure Sane (s : System) : Prop where
  next : s.backend.isClosed (s.backend.opens + 1) = false
  opened : ∀ c ∈ s.pool.idle, c.handle ≤ s.backend.opens

/-- A checkout ends as described. -/
theorem Serves.checkout {outcome : Checkout} {calls : List Call}
    (serves : p.Serves s outcome calls) (sane : Sane s) :
    (p.checkout s).1 = outcome ∧ (p.checkout s).2.backend = s.backend.told calls := by
  cases serves with
  | new empty produces =>
    rw [checkout_nil empty]
    exact checkoutNew_of_produces produces sane.next
  | recent c rest front recent =>
    rw [checkout_cons front]
    exact recycle_recent recent
  | alive c rest front stale answers =>
    rw [checkout_cons front]
    exact recycle_alive stale answers
  | replaced c rest front stale source fails produces =>
    rw [checkout_cons front]
    exact recycle_replaced (s := { s with pool := _ }.note (.taken c)) stale fails
      (produces.transfer rfl rfl rfl) (sane.opened c (by simp [front])) sane.next
  | stalled c rest front stale hangs =>
    rw [checkout_cons front]
    exact recycle_stalled stale hangs

/-- The cases leave nothing out. -/
theorem exists_serves (p : Provider) (s : System) : ∃ outcome calls, p.Serves s outcome calls := by
  cases line : s.pool.idle with
  | nil =>
    obtain ⟨outcome, calls, produces⟩ := p.exists_produces s
    exact ⟨_, _, .new line produces⟩
  | cons c rest =>
    by_cases stale : Stale s.clock c
    · cases ends : (s.backend.ping c.handle).1 with
      | alive => exact ⟨_, _, .alive c rest line stale ends⟩
      | stalled => exact ⟨_, _, .stalled c rest line stale ends⟩
      | failed source =>
        obtain ⟨outcome, calls, produces⟩ := p.exists_produces
          { s with backend := s.backend.told (p.parting s.backend c) }
        exact ⟨_, _, .replaced c rest line stale source ends produces⟩
    · exact ⟨_, _, .recent c rest line stale⟩

/-- A checkout is described by one case, and by no other. -/
theorem serves_iff (sane : Sane s) (outcome : Checkout) (calls : List Call) :
    p.Serves s outcome calls ↔
      (p.checkout s).1 = outcome ∧ (p.checkout s).2.backend = s.backend.told calls := by
  constructor
  · exact fun serves => serves.checkout sane
  · rintro ⟨rfl, told⟩
    obtain ⟨outcome, calls', serves⟩ := p.exists_serves s
    obtain ⟨rfl, told'⟩ := serves.checkout sane
    have same : s.backend.log ++ calls = s.backend.log ++ calls' :=
      congrArg Backend.log (told.symm.trans told')
    rwa [List.append_cancel_left same]

/-! ### What a description says -/

/-- At most one probe, one closing and one attempt to open. -/
structure Moderate (calls : List Call) : Prop where
  probes : calls.countP Call.isPinged ≤ 1
  closings : calls.countP Call.isClosing ≤ 1
  attempts : calls.countP Call.isAttempt ≤ 1

/-- Making a connection neither probes nor closes, and tries to open a handle once at most. -/
theorem Produces.modest {outcome : Except Error Connection} {calls : List Call}
    (produces : p.Produces s outcome calls) : calls.countP Call.isPinged = 0 ∧
      calls.countP Call.isClosing = 0 ∧ calls.countP Call.isAttempt ≤ 1 := by
  cases produces with
  | misnamed | unknown | refused => exact ⟨rfl, rfl, by simp [Call.isAttempt]⟩
  | aborted | made =>
    refine ⟨?_, ?_, ?_⟩
    · rw [List.countP_cons_of_neg (by simp [Call.isPinged]), countP_executed fun _ => rfl]
    · rw [List.countP_cons_of_neg (by simp [Call.isClosing]), countP_executed fun _ => rfl]
    · rw [List.countP_cons_of_pos rfl]
      exact Nat.succ_le_succ (Nat.le_of_eq (countP_executed fun _ => rfl))

theorem moderate_parting (b : Backend) (c : Connection) :
    (p.parting b c).countP Call.isPinged = 1 ∧ (p.parting b c).countP Call.isClosing ≤ 1 ∧
      (p.parting b c).countP Call.isAttempt = 0 := by
  obtain ⟨probes, closings, attempts⟩ := p.tuning.quiet c.handle
  simp only [parting, Connection.farewell, List.countP_cons, List.countP_append, probes, closings,
    attempts, Call.isPinged, Call.isClosing, Call.isAttempt]
  split <;> simp [Call.isPinged, Call.isClosing, Call.isAttempt]

theorem Serves.moderate {outcome : Checkout} {calls : List Call}
    (serves : p.Serves s outcome calls) : Moderate calls := by
  cases serves with
  | new empty produces =>
    obtain ⟨probes, closings, attempts⟩ := produces.modest
    exact ⟨by omega, by omega, attempts⟩
  | recent c rest front recent =>
    obtain ⟨probes, closings, attempts⟩ := p.tuning.quiet c.handle
    exact ⟨by omega, by omega, by omega⟩
  | alive c rest front stale answers =>
    obtain ⟨probes, closings, attempts⟩ := p.tuning.quiet c.handle
    refine ⟨?_, ?_, ?_⟩
    · rw [List.countP_cons_of_pos rfl]
      exact Nat.succ_le_succ (Nat.le_of_eq probes)
    · rw [List.countP_cons_of_neg (by simp [Call.isClosing]), closings]
      exact Nat.zero_le 1
    · rw [List.countP_cons_of_neg (by simp [Call.isAttempt]), attempts]
      exact Nat.zero_le 1
  | replaced c rest front stale source fails produces =>
    obtain ⟨probes, closings, attempts⟩ := produces.modest
    obtain ⟨probes', closings', attempts'⟩ := p.moderate_parting s.backend c
    constructor <;> rw [List.countP_append] <;> omega
  | stalled c rest front stale hangs =>
    constructor <;> simp [Call.isPinged, Call.isClosing, Call.isAttempt]

/-- A failure is one of making a connection. -/
theorem Serves.of_failed {error : Error} {calls : List Call}
    (serves : p.Serves s (.failed error) calls) : ∃ before more, calls = before ++ more ∧
      p.Produces { s with backend := s.backend.told before } (.error error) more := by
  have source {outcome : Except Error Connection}
      (same : Checkout.ofMaking outcome = .failed error) : outcome = .error error := by
    cases outcome <;> cases same
    rfl
  generalize ended : Checkout.failed error = outcome at serves
  cases serves with
  | new empty produces =>
    obtain rfl := source ended.symm
    exact ⟨[], calls, rfl, produces.transfer (Backend.told_nil _) rfl rfl⟩
  | replaced c rest front stale cause fails produces =>
    obtain rfl := source ended.symm
    exact ⟨_, _, rfl, produces⟩
  | recent | alive | stalled => cases ended

/-- A front whose probe fails is closed, and nothing else is. -/
theorem Serves.closedHandles {outcome : Checkout} {calls : List Call} {c : Connection}
    {rest : List Connection} {source : DriverError} (serves : p.Serves s outcome calls)
    (front : s.pool.idle = c :: rest) (stale : Stale s.clock c)
    (fails : (s.backend.ping c.handle).1 = .failed source) :
    (s.backend.told calls).closedHandles = s.backend.closedWith c.handle := by
  cases serves with
  | new empty => exact absurd (empty.symm.trans front) (by simp)
  | recent c' rest' front' recent =>
    obtain ⟨rfl, -⟩ := List.cons.inj (front'.symm.trans front)
    exact absurd stale recent
  | alive c' rest' front' _ answers =>
    obtain ⟨rfl, -⟩ := List.cons.inj (front'.symm.trans front)
    exact absurd (answers.symm.trans fails) (by simp)
  | stalled c' rest' front' _ hangs =>
    obtain ⟨rfl, -⟩ := List.cons.inj (front'.symm.trans front)
    exact absurd (hangs.symm.trans fails) (by simp)
  | replaced c' rest' front' _ cause _ produces =>
    obtain ⟨rfl, -⟩ := List.cons.inj (front'.symm.trans front)
    rw [← Backend.told_told, Backend.closedHandles_told, closedHandles_parting,
      closed?_of_countP produces.modest.2.1, List.append_nil]

/-- Who is handed out was the front of the queue or has the next number. -/
theorem Serves.of_ready {c : Connection} {calls : List Call}
    (serves : p.Serves s (.ready c) calls) :
    s.pool.idle.head? = some c ∨ c.id = s.made + 1 := by
  have source {outcome : Except Error Connection} (same : Checkout.ofMaking outcome = .ready c) :
      outcome = .ok c := by
    cases outcome <;> cases same
    rfl
  have numbered {t : System} {calls : List Call} (produces : p.Produces t (.ok c) calls) :
      c.id = t.made + 1 := by
    cases produces
    rfl
  generalize ended : Checkout.ready c = outcome at serves
  cases serves with
  | new empty produces =>
    obtain rfl := source ended.symm
    exact Or.inr (numbered produces)
  | replaced c' rest front stale cause fails produces =>
    obtain rfl := source ended.symm
    have next := numbered produces
    exact Or.inr next
  | recent c' rest front =>
    cases ended
    exact Or.inl (by rw [front, List.head?_cons])
  | alive c' rest front =>
    cases ended
    exact Or.inl (by rw [front, List.head?_cons])
  | stalled => cases ended

end Provider

/-- A slot that is given back goes to the first in line, or to nobody. -/
def Pool.freed (p : Pool) : Pool :=
  match p.waiting with
  | [] => { p with free := p.free + 1 }
  | _ :: rest => { p with waiting := rest }

namespace Session

open Provider (Checkout Moderate Sane Stale)

variable {s : Session} {p : Provider} {name : String} {outcome : Checkout} {calls : List Call}

/-- What becomes of a caller who asks for a connection at once: the answer, what the caller holds,
the pool and the work that is put off. -/
def AtOnce (s : Session) (name : String) (told : Answer × Session) : Checkout → Prop
  | .ready c =>
    told.1 = .connection c.id ∧ told.2.holdings = s.holdings.insert name (.pooled c) ∧
      told.2.pool = { s.pool with free := s.pool.free - 1, idle := s.pool.idle.tail } ∧
      told.2.agenda = s.agenda
  | .failed error =>
    told.1 = .poolError (.connection error) ∧ told.2.holdings = s.holdings ∧
      told.2.pool = { s.pool with idle := s.pool.idle.tail } ∧ told.2.agenda = s.agenda
  | .stalled c =>
    told.1 = .blocked ∧ told.2.holdings = s.holdings ∧
      told.2.pool = { s.pool with idle := s.pool.idle.tail } ∧
      told.2.agenda = s.agenda ++ [.retire c]

/-- What becomes of a waiter with a slot when it goes on. -/
def InTurn (s s' : Session) (name : String) : Checkout → Prop
  | .ready c =>
    s'.holdings.find? name = some (.waiter .connection (.finished (.ok (.connection c)))) ∧
      s'.pool = { s.pool with idle := s.pool.idle.tail }
  | .failed error =>
    s'.holdings.find? name = some (.waiter .connection (.finished (.error (.connection error)))) ∧
      s'.pool = { s.pool with idle := s.pool.idle.tail }.freed
  | .stalled c =>
    s'.holdings.find? name = some (.waiter .connection (.probing c)) ∧
      s'.pool = { s.pool with idle := s.pool.idle.tail }

theorem freeSlot_of_nobody (nobody : s.pool.waiting = []) :
    s.freeSlot = { s with pool := { s.pool with free := s.pool.free + 1 } } := by
  rw [freeSlot, nobody]

theorem pool_freeSlot (s : Session) : s.freeSlot.pool = s.pool.freed := by
  cases line : s.pool.waiting with
  | nil => simp only [freeSlot, Pool.freed, line]
  | cons first rest =>
    simp only [freeSlot, Pool.freed, line, advanceWaiter]
    split <;> rfl

/-- Nobody waits while a slot is free. -/
theorem Orderly.nobody_waits (orderly : Orderly s) (vacant : s.pool.free ≠ 0) :
    s.pool.waiting = [] := by
  by_contra line
  exact vacant (orderly.busy line)

theorem checkOut_eq (unbarred : s.pool.barred = false) (vacant : s.pool.free ≠ 0) (name : String)
    (noSlot : Answer) : s.checkOut p name noSlot =
      let after := s.withSystem (p.checkout s.takeSlot.toSystem).2
      match (p.checkout s.takeSlot.toSystem).1 with
      | .ready c => (.connection c.id, after.hold name (.pooled c))
      | .failed error => (.poolError (.connection error), after.freeSlot)
      | .stalled c => (.blocked, (after.discard true c).freeSlot) := by
  exact (if_neg (Bool.not_eq_true _ ▸ unbarred)).trans (if_neg vacant)

theorem Sound.sane (sound : Sound (rest s)) (grounded : Grounded (rest s)) : Sane s.toSystem :=
  ⟨grounded.next_open sound, fun _ here => sound.handle_le (mem_live_of_idle here)⟩

/-- A checkout at once. -/
theorem checkOut_of_serves (orderly : Orderly s) (sane : Sane s.toSystem)
    (isOpen : s.pool.closed = false) (vacant : s.pool.free ≠ 0) (name : String) (noSlot : Answer)
    (serves : p.Serves s.toSystem outcome calls) :
    (s.checkOut p name noSlot).2.backend = s.backend.told calls ∧
      AtOnce s name (s.checkOut p name noSlot) outcome := by
  have unbarred := orderly.unbarred isOpen
  have sane' : Sane s.takeSlot.toSystem := ⟨sane.next, sane.opened⟩
  have serves' : p.Serves s.takeSlot.toSystem outcome calls := serves.transfer rfl rfl rfl rfl
  obtain ⟨ended, told⟩ := serves'.checkout sane'
  let after := s.withSystem (p.checkout s.takeSlot.toSystem).2
  have pool : after.pool = { s.pool with free := s.pool.free - 1, idle := s.pool.idle.tail } :=
    p.checkout_pool s.takeSlot.toSystem
  have nobody : after.pool.waiting = [] := by
    rw [pool]
    exact orderly.nobody_waits vacant
  have back : { after.pool with free := after.pool.free + 1 } =
      { s.pool with idle := s.pool.idle.tail } := by
    have whole : s.pool.free - 1 + 1 = s.pool.free := by omega
    simp only [pool, whole]
  cases outcome with
  | ready c =>
    have result : s.checkOut p name noSlot = (.connection c.id, after.hold name (.pooled c)) := by
      rw [checkOut_eq unbarred vacant, ended]
    rw [result]
    exact ⟨told, rfl, rfl, pool, rfl⟩
  | failed error =>
    have result : s.checkOut p name noSlot = (.poolError (.connection error),
        { after with pool := { s.pool with idle := s.pool.idle.tail } }) := by
      rw [checkOut_eq unbarred vacant, ended, ← back]
      exact congrArg (Prod.mk _) (freeSlot_of_nobody nobody)
    rw [result]
    exact ⟨told, rfl, rfl, rfl, rfl⟩
  | stalled c =>
    have result : s.checkOut p name noSlot = (.blocked,
        { after.discard true c with pool := { s.pool with idle := s.pool.idle.tail } }) := by
      rw [checkOut_eq unbarred vacant, ended, ← back]
      exact congrArg (Prod.mk _) (freeSlot_of_nobody (s := after.discard true c) nobody)
    rw [result]
    exact ⟨told, rfl, rfl, rfl, rfl⟩

/-- What a checkout at once can be answered with. -/
theorem checkOut_answer (orderly : Orderly s) (sane : Sane s.toSystem) (noSlot : Answer)
    (kind : noSlot = .blocked ∨ noSlot = .nothing) :
    let answer := (s.checkOut p name noSlot).1
    answer = .blocked ∨ answer = .nothing ∨ (∃ c : Connection, answer = .connection c.id) ∨
      answer = .poolError .closed ∧ s.pool.closed = true ∨
      ∃ error before calls, answer = .poolError (.connection error) ∧
        p.Produces { s.toSystem with backend := s.backend.told before } (.error error) calls := by
  intro answer
  by_cases shut : s.pool.closed = true
  · have barred : s.pool.barred = true := orderly.barred.trans shut
    have same : answer = .poolError .closed := by simp [answer, checkOut, barred]
    exact Or.inr (Or.inr (Or.inr (Or.inl ⟨same, shut⟩)))
  have isOpen : s.pool.closed = false := Bool.eq_false_iff.mpr shut
  by_cases busy : s.pool.free = 0
  · have same : answer = noSlot := by simp [answer, checkOut, orderly.unbarred isOpen, busy]
    rw [same]
    rcases kind with rfl | rfl
    · exact Or.inl rfl
    · exact Or.inr (Or.inl rfl)
  obtain ⟨outcome, calls, serves⟩ := p.exists_serves s.toSystem
  obtain ⟨-, settled⟩ := checkOut_of_serves orderly sane isOpen busy name noSlot serves
  cases outcome with
  | ready c => exact Or.inr (Or.inr (Or.inl ⟨c, settled.1⟩))
  | stalled c => exact Or.inl settled.1
  | failed error =>
    obtain ⟨before, more, -, produces⟩ := serves.of_failed
    exact Or.inr (Or.inr (Or.inr (Or.inr ⟨error, before, more, settled.1, produces⟩)))

/-- A waiter with a slot learns how its checkout ends. -/
theorem doWork_eq_deliver (served : s.provider = some p) (unbarred : s.pool.barred = false)
    {place : Nat} (due : s.agenda[place]? = some (.resume name))
    (granted : s.holdings.find? name = some (.waiter .connection .granted)) :
    s.doWork place = ({ s with agenda := s.agenda.eraseIdx place }.withSystem
      (p.checkout s.toSystem).2).deliver name (p.checkout s.toSystem).1 := by
  simp only [doWork, due, perform, resume, granted, unbarred, served, Bool.false_eq_true, if_false]

/-- A waiter with a slot goes on. -/
theorem doWork_of_serves (orderly : Orderly s) (sane : Sane s.toSystem)
    (served : s.provider = some p) (isOpen : s.pool.closed = false) {place : Nat}
    (due : s.agenda[place]? = some (.resume name))
    (granted : s.holdings.find? name = some (.waiter .connection .granted))
    (serves : p.Serves s.toSystem outcome calls) :
    (s.doWork place).backend = s.backend.told calls ∧ InTurn s (s.doWork place) name outcome := by
  obtain ⟨ended, told⟩ := serves.checkout sane
  have absent : name ∉ s.pool.waiting := orderly.not_mem granted (by simp)
  let after := { s with agenda := s.agenda.eraseIdx place }.withSystem (p.checkout s.toSystem).2
  have pool : after.pool = { s.pool with idle := s.pool.idle.tail } := p.checkout_pool s.toSystem
  have result : s.doWork place = after.deliver name outcome := by
    rw [doWork_eq_deliver served (orderly.unbarred isOpen) due granted, ended]
  rw [result]
  cases outcome with
  | ready c => exact ⟨told, Table.find?_insert_self _ _ _, pool⟩
  | failed error =>
    let informed := after.hold name (.waiter .connection (.finished (.error (.connection error))))
    have absent' : name ∉ informed.pool.waiting := by
      change name ∉ after.pool.waiting
      rwa [pool]
    refine ⟨(backend_freeSlot informed).trans told, ?_, ?_⟩
    · exact (find?_freeSlot absent').trans (Table.find?_insert_self _ _ _)
    · exact (pool_freeSlot informed).trans (congrArg Pool.freed pool)
  | stalled c => exact ⟨told, Table.find?_insert_self _ _ _, pool⟩

/-- Nobody gives this waiter up. -/
def sparesPending (name : String) (_ : Session) : Move → Bool
  | .command (.cancel other) | .command (.abandon other) => other ≠ name
  | _ => true

theorem obey_poll_probing {c : Connection}
    (known : s.holdings.find? name = some (.waiter .connection (.probing c))) :
    s.obey (.poll name) = (.waiting, s) :=
  obey_poll known

/-- A probe that never answers leaves its waiter where it is, whatever else is done. -/
theorem pending_after {c : Connection} (orderly : Orderly s)
    (known : s.holdings.find? name = some (.waiter .connection (.probing c))) {moves : List Move}
    (admitted : Admitted (sparesPending name) s moves) :
    (s.after moves).holdings.find? name = some (.waiter .connection (.probing c)) := by
  have kept := admitted.preserves
    (I := fun s => Orderly s ∧
      s.holdings.find? name = some (.waiter .connection (.probing c)))
    (fun s m spared ⟨there, known⟩ => by
      refine ⟨orderly_move there m, ?_⟩
      by_cases asked : m = .command (.poll name)
      · subst asked
        rw [move, obey_poll_probing known]
        exact known
      · have spared' : sparesWaiter name s m = true := by
          cases m with
          | work place => rfl
          | command command =>
            cases command <;>
              simp_all [sparesWaiter, sparesPending, Command.collects]
        rcases find?_move known (there.not_mem known (by simp)) spared' with same | ⟨granted, -⟩
        · rw [same, known]
        · cases granted) ⟨orderly, known⟩
  exact kept.2

theorem obey_get (orderly : Orderly s) (served : s.provider = some p)
    (free : s.holdings.find? name = none) : s.obey (.get name) = s.checkOut p name .blocked := by
  simp [obey, Command.newName?, Table.contains, free, carryOut, withProvider, served,
    orderly.unlessClosed_checkOut]

theorem obey_tryGet (served : s.provider = some p) (free : s.holdings.find? name = none) :
    s.obey (.tryGet name) = s.checkOut p name .nothing := by
  simp [obey, Command.newName?, Table.contains, free, carryOut, withProvider, served]

/-- Who asks for a connection at once checks one out. -/
theorem obey_asking (orderly : Orderly s) (served : s.provider = some p) {command : Command}
    (asks : command = .get name ∨ command = .tryGet name)
    (free : s.holdings.find? name = none) : ∃ noSlot, (noSlot = .blocked ∨ noSlot = .nothing) ∧
      s.obey command = s.checkOut p name noSlot := by
  rcases asks with rfl | rfl
  · exact ⟨.blocked, Or.inl rfl, obey_get orderly served free⟩
  · exact ⟨.nothing, Or.inr rfl, obey_tryGet served free⟩

theorem obey_nameInUse {command : Command} (new : command.newName? = some name)
    (taken : s.holdings.find? name ≠ none) : s.obey command = s.misused .nameInUse := by
  have known : s.holdings.contains name = true := by
    simpa [Table.contains, Option.isSome_iff_ne_none] using taken
  simp [obey, new, known]

theorem obey_waitGet (orderly : Orderly s) (served : s.provider = some p)
    (isOpen : s.pool.closed = false) (vacant : s.pool.free ≠ 0)
    (free : s.holdings.find? name = none) :
    s.obey (.waitGet name) =
      (.waiting, (s.takeSlot.hold name (.waiter .connection .granted)).putOff (.resume name)) := by
  have new : (Command.waitGet name).newName?.any s.holdings.contains = false := by
    simp [Command.newName?, Table.contains, free]
  simp only [obey, new, Bool.false_eq_true, if_false, carryOut, withProvider, served, lineUp,
    isOpen, orderly.unbarred isOpen, Bool.or_false, vacant]

/-- What a waiter with a slot can fail with. -/
theorem outcome_of_turn {place : Nat} {error : PoolError} (orderly : Orderly s)
    (sane : Sane s.toSystem) (served : s.provider = some p)
    (granted : s.holdings.find? name = some (.waiter .connection .granted))
    (told : (s.move (.work place)).holdings.find? name =
      some (.waiter .connection (.finished (.error error)))) :
    error = .closed ∧ s.pool.closed = true ∨
      ∃ cause before calls, error = .connection cause ∧
        p.Produces { s.toSystem with backend := s.backend.told before } (.error cause) calls := by
  obtain ⟨due, same⟩ := resumes_of_changed orderly granted place (by rw [told, granted]; simp)
  have orderly' : Orderly { s with agenda := s.agenda.eraseIdx place } :=
    orderly.of_holdings (Or.inl rfl) rfl rfl rfl fun _ => Iff.rfl
  by_cases shut : s.pool.closed = true
  · left
    rw [same] at told
    rcases resume_connection orderly' granted with ⟨p', goes, -⟩ | ⟨-, closed⟩
    · simp [goingOn, granted, served, orderly.barred.trans shut] at goes
    · cases closed _ told
      exact ⟨rfl, shut⟩
  · right
    obtain ⟨outcome, calls, serves⟩ := p.exists_serves s.toSystem
    obtain ⟨-, turn⟩ :=
      doWork_of_serves orderly sane served (Bool.eq_false_iff.mpr shut) due granted serves
    cases outcome with
    | ready c => cases turn.1.symm.trans told
    | stalled c => cases turn.1.symm.trans told
    | failed cause =>
      cases turn.1.symm.trans told
      obtain ⟨before, more, -, produces⟩ := serves.of_failed
      exact ⟨cause, before, more, rfl, produces⟩

/-- Checkouts from this state are as described. -/
structure ChecksOut (p : Provider) (s : Session) : Prop where
  covered : ∃ outcome calls, p.Serves s.toSystem outcome calls
  exact : ∀ outcome calls, p.Serves s.toSystem outcome calls ↔
    (p.checkout s.toSystem).1 = outcome ∧
      (p.checkout s.toSystem).2.backend = s.backend.told calls
  atOnce : s.pool.closed = false → s.pool.free ≠ 0 → ∀ name command,
    command = .get name ∨ command = .tryGet name → s.holdings.find? name = none →
    ∀ outcome calls, p.Serves s.toSystem outcome calls →
      (s.obey command).2.backend = s.backend.told calls ∧ AtOnce s name (s.obey command) outcome
  /-- Who waits for a connection has a slot before going on. -/
  waits : s.pool.closed = false → s.pool.free ≠ 0 → ∀ name, s.holdings.find? name = none →
    let told := s.obey (.waitGet name)
    told.1 = .waiting ∧ told.2.pool = { s.pool with free := s.pool.free - 1 } ∧
      told.2.backend = s.backend ∧ told.2.agenda = s.agenda ++ [.resume name] ∧
      told.2.holdings.find? name = some (.waiter .connection .granted)
  inTurn : s.pool.closed = false → ∀ name place, s.agenda[place]? = some (.resume name) →
    s.holdings.find? name = some (.waiter .connection .granted) →
    ∀ outcome calls, p.Serves s.toSystem outcome calls →
      (s.move (.work place)).backend = s.backend.told calls ∧
        InTurn s (s.move (.work place)) name outcome
  pending : ∀ name c, s.holdings.find? name = some (.waiter .connection (.probing c)) →
    ∀ more, Admitted (sparesPending name) s more →
      (s.after more).holdings.find? name = some (.waiter .connection (.probing c)) ∧
        ((s.after more).obey (.poll name)).1 = .waiting
  moderate : ∀ outcome calls, p.Serves s.toSystem outcome calls → Moderate calls
  /-- Whoever is not the front of the queue has a number that nobody had. -/
  newest : ∀ c calls, p.Serves s.toSystem (.ready c) calls →
    s.pool.idle.head? = some c ∨ ∀ earlier ∈ s.history Movement.made?, earlier.id < c.id
  /-- The front is closed if its probe fails. -/
  closed : ∀ c rest source outcome calls, s.pool.idle = c :: rest → Stale s.clock c →
    (s.backend.ping c.handle).1 = .failed source → p.Serves s.toSystem outcome calls →
    (s.backend.told calls).closedHandles.count c.handle = 1
  /-- Neither a probe nor a closing that fails is heard of. -/
  answers : ∀ name command, command = .get name ∨ command = .tryGet name →
    let answer := (s.obey command).1
    answer = .misuse .nameInUse ∨ answer = .blocked ∨ answer = .nothing ∨
      (∃ c : Connection, answer = .connection c.id) ∨
      answer = .poolError .closed ∧ s.pool.closed = true ∨
      ∃ error before calls, answer = .poolError (.connection error) ∧
        p.Produces { s.toSystem with backend := s.backend.told before } (.error error) calls
  /-- Nor do those hear of it whose turn comes. -/
  outcomes : ∀ name place error,
    s.holdings.find? name = some (.waiter .connection .granted) →
    (s.move (.work place)).holdings.find? name =
      some (.waiter .connection (.finished (.error error))) →
    error = .closed ∧ s.pool.closed = true ∨
      ∃ cause before calls, error = .connection cause ∧
        p.Produces { s.toSystem with backend := s.backend.told before } (.error cause) calls

/-- In every state that a session can reach, checkouts are as described. -/
theorem checkout_exact {backend : Backend} (fresh : backend.log = []) (capacity : Nat)
    (p : Provider) (moves : List Move) :
    ChecksOut p ((start backend (Pool.ofCapacity capacity) (some p)).after moves) := by
  have ordered := orderly_start backend capacity (some p)
  have began := sound_start fresh capacity (some p)
  have orderly := orderly_after ordered moves
  have sound := began.after ordered moves
  have grounded := (grounded_start fresh _ (some p)).after ordered began moves
  have served : ((start backend (Pool.ofCapacity capacity) (some p)).after moves).provider =
      some p := provider_after ordered moves
  generalize (start backend (Pool.ofCapacity capacity) (some p)).after moves = s
    at orderly sound grounded served
  have sane := sound.sane grounded
  refine ⟨p.exists_serves _, Provider.serves_iff sane, ?_, ?_, ?_, ?_,
    fun _ _ serves => serves.moderate, ?_, ?_, ?_,
    fun _ _ _ granted told => outcome_of_turn orderly sane served granted told⟩
  · intro isOpen vacant name command asks free outcome calls serves
    obtain ⟨noSlot, -, same⟩ := obey_asking orderly served asks free
    rw [same]
    exact checkOut_of_serves orderly sane isOpen vacant name noSlot serves
  · intro isOpen vacant name free told
    have same : told = _ := obey_waitGet orderly served isOpen vacant free
    rw [same]
    exact ⟨rfl, rfl, rfl, rfl, Table.find?_insert_self _ _ _⟩
  · intro isOpen name place due granted outcome calls serves
    exact doWork_of_serves orderly sane served isOpen due granted serves
  · intro name c known more admitted
    have still := pending_after orderly known admitted
    exact ⟨still, by rw [obey_poll_probing still]⟩
  · intro c calls serves
    refine serves.of_ready.imp_right fun number earlier here => ?_
    have bound := sound.id_le here
    omega
  · intro c rest source outcome calls front stale fails serves
    rw [serves.closedHandles front stale fails]
    exact List.count_eq_one_of_mem (Backend.closedWith_nodup sound.distinct _)
      (Backend.mem_closedWith.mpr (Or.inr rfl))
  · intro name command asks answer
    by_cases free : s.holdings.find? name = none
    · right
      obtain ⟨noSlot, kind, same⟩ := obey_asking orderly served asks free
      rw [show answer = (s.checkOut p name noSlot).1 from congrArg Prod.fst same]
      exact checkOut_answer orderly sane noSlot kind
    · left
      have new : command.newName? = some name := by rcases asks with rfl | rfl <;> rfl
      exact congrArg Prod.fst (obey_nameInUse new free)

theorem checkout_exact_replaced :
    let p : Provider := ⟨.ofEndpoint "mock" "db", .single "mock" (), .empty, .none⟩
    let moves : List Move := [.command (.get "a"), .command (.release "a"),
      .command (.advance (Duration.ofParts 61 0)), .command (.setFault .pings true)]
    let s := (start .fresh (.ofCapacity 1) (some p)).after moves
    let c : Connection := ⟨1, 1, p.dialect, none, .zero, some .zero⟩
    Backend.fresh.log = [] ∧ ChecksOut p s ∧
      (s.obey (.get "b")).2.backend = s.backend.told (p.parting s.backend c ++ [.opened "db"]) ∧
      (s.obey (.get "b")).1 = .connection 2 ∧
      (s.backend.told (p.parting s.backend c ++ [.opened "db"])).closedHandles.count 1 = 1 := by
  intro p moves s c
  have law : ChecksOut p s := checkout_exact (rfl : Backend.fresh.log = []) 1 p moves
  have isOpen : s.pool.closed = false := by decide +kernel
  have vacant : s.pool.free ≠ 0 := by decide +kernel
  have front : s.pool.idle = [c] := by decide +kernel
  have stale : Stale s.clock c := ⟨.zero, rfl, by decide +kernel⟩
  have fails : (s.backend.ping c.handle).1 = .failed (.ofLink "connection reset by peer") := by
    decide +kernel
  have free : s.holdings.find? "b" = none := by
    have absent : s.holdings.contains "b" = false := by decide +kernel
    simpa [Table.contains] using absent
  let renewed : Connection := ⟨2, 2, p.dialect, none, s.clock, none⟩
  have made : p.Produces { s.toSystem with backend := s.backend.told (p.parting s.backend c) }
      (.ok renewed) [.opened "db"] := by
    have number : s.made + 1 = 2 := by decide +kernel
    have handle : (s.backend.told (p.parting s.backend c)).opens + 1 = 2 := by decide +kernel
    have silent : p.config.initSql = [] := rfl
    have made := Provider.Produces.made (p := p)
      (s := { s.toSystem with backend := s.backend.told (p.parting s.backend c) }) "db"
      (by decide +kernel) (by decide +kernel) (by decide +kernel) (by decide +kernel)
    rwa [silent, List.map_nil, number, handle] at made
  have served : p.Serves s.toSystem (.ready renewed) (p.parting s.backend c ++ [.opened "db"]) :=
    .replaced c [] front stale _ fails made
  obtain ⟨told, answer, -⟩ := law.atOnce isOpen vacant "b" (.get "b") (Or.inl rfl) free _ _ served
  exact ⟨rfl, law, told, answer, law.closed c [] _ _ _ front stale fails served⟩

end Session
end Datastore
