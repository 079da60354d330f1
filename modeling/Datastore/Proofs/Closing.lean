import Datastore.Proofs.Handles
import Datastore.Proofs.Session.Strays

/-!
# Closing

A pool that was closed stays closed and empty. It refuses checkouts, slots and connections, now and
for ever, and whoever waited learns that it is closed. Connections that are still out are closed
once their holders let go of them, wherever later work is attended to; elsewhere they are only
dropped. Main statement: `close_terminal`.
-/

namespace Datastore

/-- The calls that close a handle for good. -/
def Connection.retirement (c : Connection) : List Call :=
  [.lifetimeSet c.handle Connection.retireLifetime, .closed c.handle]

namespace System

@[simp] theorem retireAll_pool (s : System) (cs : List Connection) :
    (s.retireAll cs).pool = s.pool := by
  induction cs generalizing s with
  | nil => rfl
  | cons c rest ih => exact ih _

/-- Open handles are closed in order, each once. -/
theorem log_retireAll {s : System} {cs : List Connection}
    (distinct : (cs.map Connection.handle).Nodup)
    (isOpen : ∀ c ∈ cs, s.backend.isClosed c.handle = false) :
    (s.retireAll cs).backend.log = s.backend.log ++ cs.flatMap Connection.retirement := by
  induction cs generalizing s with
  | nil => simp [retireAll]
  | cons c rest ih =>
    rw [List.map_cons, List.nodup_cons] at distinct
    rw [List.forall_mem_cons] at isOpen
    have retired : (s.retire c).2.backend = (s.backend.record
        (.lifetimeSet c.handle Connection.retireLifetime)).record (.closed c.handle) := by
      rw [retire, Backend.retire_eq, if_neg (by simp [isOpen.1])]
      rfl
    have later : ∀ other ∈ rest, (s.retire c).2.backend.isClosed other.handle = false := by
      intro other here
      have apart : other.handle ≠ c.handle := fun h => distinct.1 (h ▸ List.mem_map_of_mem here)
      have still := isOpen.2 other here
      rw [← Bool.not_eq_true, Backend.isClosed_iff] at still ⊢
      simpa [retired, Call.closed?, apart] using still
    have next := ih distinct.2 later
    rw [show s.retireAll (c :: rest) = (s.retire c).2.retireAll rest from rfl, next, retired]
    simp [Backend.record, Connection.retirement]

/-- Nothing gets into a closed pool. -/
theorem Effect.sealed {d d' : Midway System} (effect : Effect d d')
    (shut : d.state.pool.closed = true) (empty : d.state.pool.idle = []) :
    d'.state.pool.closed = true ∧ d'.state.pool.idle = [] := by
  cases effect with
  | taken front | withdrawn front => simp [front] at empty
  | returned isOpen free => simp [isOpen] at shut
  | _ => exact ⟨shut, empty⟩

end System

namespace Session

theorem Effect.sealed {origin : Session} {m : Move} {d d' : Midway Session}
    (effect : Effect origin m d d')
    (shut : d.state.pool.closed = true ∧ d.state.pool.idle = []) :
    d'.state.pool.closed = true ∧ d'.state.pool.idle = [] := by
  cases effect with
  | system effect => exact effect.sealed shut.1 shut.2
  | shuffled shuffle =>
    have same := shuffle.untouched
    exact ⟨same.closed.trans shut.1, same.idle.trans shut.2⟩
  | @shut s =>
    rw [closePool_pool]
    exact ⟨rfl, rfl⟩
  | enqueued asked bare isOpen => simp [isOpen] at shut
  | _ => exact shut

/-- Closed for good: the pool is closed and empty, and nobody is in line. -/
structure Shut (s : Session) : Prop where
  orderly : Orderly s
  closed : s.pool.closed = true
  idle : s.pool.idle = []

variable {s : Session} {name : String} {c : Connection} {wish : Wish} {progress : Progress}

theorem Shut.barred (shut : Shut s) : s.pool.barred = true := shut.orderly.barred.trans shut.closed

theorem Shut.waiting (shut : Shut s) : s.pool.waiting = [] := shut.orderly.dispersed shut.closed

theorem Shut.after (shut : Shut s) (moves : List Move) : Shut (s.after moves) := by
  have kept := (admitted_everything s moves).sustains
    (I := fun d => d.state.pool.closed = true ∧ d.state.pool.idle = [])
    (fun _ _ _ _ _ effect _ now => effect.sealed now) shut.orderly ⟨shut.closed, shut.idle⟩
  exact ⟨orderly_after shut.orderly moves, kept.1, kept.2⟩

/-- Closing a closed pool finds nothing to do. -/
theorem Shut.closePool (shut : Shut s) : s.closePool = ([], s) := by
  have pool :
      s.pool = { s.pool with waiting := [], idle := [], closed := true, barred := true } := by
    have each : ∀ pool : Pool, pool.waiting = [] → pool.idle = [] → pool.closed = true →
        pool.barred = true →
        pool = { pool with waiting := [], idle := [], closed := true, barred := true } := by
      rintro ⟨⟩ rfl rfl rfl rfl
      rfl
    exact each s.pool shut.waiting shut.idle shut.closed shut.barred
  have same : s.toSystem.close.2 = s.toSystem := by
    rw [System.close_eq, ← pool]
    simp [shut.idle]
  rw [closePool_eq, same, shut.idle, shut.waiting]
  rfl

/-- The commands that close the pool. -/
def closings : List Command := [.closePool, .closeProvider]

/-- What either of them does to the pool and to what callers hold. -/
theorem closing_eq {close : Command} (closes : close ∈ closings)
    (called : close = .closeProvider → s.provider ≠ none) :
    (s.move (.command close)).pool = s.closePool.2.pool ∧
      (s.move (.command close)).holdings = s.closePool.2.holdings := by
  simp only [closings, List.mem_cons, List.not_mem_nil, or_false] at closes
  rcases closes with rfl | rfl
  · have same := forsakeAll_eq s.closePool.1 s.closePool.2
    have pool := congrArg (fun s : Session => s.pool) same
    have holdings := congrArg Session.holdings same
    exact ⟨pool, holdings⟩
  · obtain ⟨p, served⟩ := Option.ne_none_iff_exists'.mp (called rfl)
    simp [move, obey, Command.newName?, carryOut, withProvider, served, withSystem]

theorem shut_move {close : Command} (orderly : Orderly s) (closes : close ∈ closings)
    (called : close = .closeProvider → s.provider ≠ none) : Shut (s.move (.command close)) := by
  have pool := (closing_eq closes called).1.trans (closePool_pool s)
  exact ⟨orderly_move orderly (.command close), by rw [pool], by rw [pool]⟩

/-! ### Whoever waited -/

/-- Told that the pool is closed, or about to learn it. -/
def Dismissed (name : String) (s : Session) : Prop :=
  ∃ wish, s.holdings.find? name = some (.waiter wish .granted) ∨
    s.holdings.find? name = some (.waiter wish (.finished (.error .closed)))

/-- A waiter of a closed pool that is due is refused. -/
theorem refused_resume (shut : Shut s)
    (known : s.holdings.find? name = some (.waiter wish .granted)) :
    (s.resume name).holdings.find? name = some (.waiter wish (.finished (.error .closed))) := by
  have nobody : name ∉ s.pool.waiting := by simp [shut.waiting]
  simp only [resume, known, shut.barred, if_true]
  rw [find?_freeSlot (s := s.hold name _) nobody]
  simp [hold]

theorem Dismissed.move {m : Move} (shut : Shut s) (dismissed : Dismissed name s)
    (spared : sparesWaiter name s m = true) : Dismissed name (s.move m) := by
  obtain ⟨wish, known | known⟩ := dismissed
  · rcases find?_move known (by simp [shut.waiting]) spared with same | ⟨-, place, -, went⟩
    · exact ⟨wish, Or.inl (same.trans known)⟩
    · have shut' : Shut { s with agenda := s.agenda.eraseIdx place } :=
        ⟨shut.orderly.of_holdings (Or.inl rfl) rfl rfl rfl fun _ => Iff.rfl, shut.closed, shut.idle⟩
      exact ⟨wish, Or.inr (went ▸ refused_resume shut' known)⟩
  · rcases find?_move known (by simp [shut.waiting]) spared with same | ⟨granted, -⟩
    · exact ⟨wish, Or.inr (same.trans known)⟩
    · cases granted

theorem Dismissed.after {moves : List Move} (shut : Shut s) (dismissed : Dismissed name s)
    (admitted : Admitted (sparesWaiter name) s moves) : Dismissed name (s.after moves) :=
  (admitted.preserves (I := fun s => Shut s ∧ Dismissed name s)
    (fun _ m spared now => ⟨now.1.after [m], now.2.move now.1 spared⟩) ⟨shut, dismissed⟩).2

theorem poll_refused
    (known : s.holdings.find? name = some (.waiter wish (.finished (.error .closed)))) :
    (s.obey (.poll name)).1 = .poolError .closed := by
  rw [obey_poll known]
  rfl

/-- Whoever was in line when the pool was closed is told at once. -/
theorem refused_move {close : Command} (orderly : Orderly s) (closes : close ∈ closings)
    (called : close = .closeProvider → s.provider ≠ none) (queued : s.Queued name) :
    ∃ wish, (s.move (.command close)).holdings.find? name =
      some (.waiter wish (.finished (.error .closed))) := by
  obtain ⟨t, same, -, refused, -⟩ := closePool_spec orderly
  obtain ⟨wish, told⟩ := refused name ((orderly.mem_waiting name).mpr queued)
  refine ⟨wish, ?_⟩
  rw [(closing_eq closes called).2, same]
  exact told

/-- Every waiter without an answer is told that the pool is closed, as soon as it is due. -/
theorem told_after {close : Command} {more : List Move} (orderly : Orderly s)
    (attended : Attended s) (closes : close ∈ closings)
    (called : close = .closeProvider → s.provider ≠ none)
    (waits : s.Queued name ∨ s.Granted name)
    (admitted : Admitted (sparesWaiter name) (s.move (.command close)) more) :
    (((s.move (.command close)).after more).settle.obey (.poll name)).1 = .poolError .closed := by
  have shut := shut_move orderly closes called
  have attended' : Attended (s.move (.command close)) := attended.after orderly [.command close]
  have dismissed : Dismissed name (s.move (.command close)) := by
    rcases waits with queued | ⟨wish, known⟩
    · obtain ⟨wish, told⟩ := refused_move orderly closes called queued
      exact ⟨wish, Or.inr told⟩
    · refine ⟨wish, Or.inl ?_⟩
      rw [(closing_eq closes called).2, find?_closePool (orderly.not_mem known (by simp)), known]
  obtain ⟨rest, admitted', settled⟩ := admitted.settled fun _ _ => rfl
  have done := agenda_settle ((s.move (.command close)).after more)
  rw [settled] at done ⊢
  obtain ⟨wish, granted | told⟩ := dismissed.after shut admitted'
  · have idle := (attended'.after shut.orderly rest).not_granted done name
    exact absurd ⟨wish, granted⟩ idle
  · exact poll_refused told

/-! ### Whatever is still out -/

/-- The command lets go of this connection, by whether later work is attended to: a guard is given
back, or a waiter is given up, with the connection that it got or behind a probe that never
answers. -/
def LetsGo (s : Session) (attended : Bool) (command : Command) (c : Connection) : Prop :=
  ∃ name, s.holdings.find? name = some (.pooled c) ∧ command ∈ lettings name attended ∨
    command = givingUp name attended ∧ ∃ wish,
      s.holdings.find? name = some (.waiter wish (.finished (.ok (.connection c)))) ∨
        s.holdings.find? name = some (.waiter wish (.probing c))

/-- In a closed pool, whoever is let go of is discarded. -/
theorem LetsGo.discards {attended : Bool} {command : Command} (lets : LetsGo s attended command c)
    (shut : s.pool.closed = true) : ∃ name c', c'.handle = c.handle ∧
      s.move (.command command) = ((s.letGo name).discard attended c').freeSlot := by
  obtain ⟨name, thing, here, obeyed⟩ : ∃ name thing, c ∈ thing.guarded ++ thing.probed ∧
      s.obey command = s.partWith attended name thing := by
    obtain ⟨name, ⟨known, lets⟩ | ⟨rfl, wish, known | known⟩⟩ := lets
    · exact ⟨name, .pooled c, List.mem_singleton_self c, obey_letting known (by simp [shut]) lets⟩
    · exact ⟨name, .waiter wish (.finished (.ok (.connection c))), List.mem_singleton_self c,
        obey_givingUp attended known⟩
    · exact ⟨name, .waiter wish (.probing c), List.mem_singleton_self c,
        obey_givingUp attended known⟩
  obtain ⟨c', same, parted⟩ := partWith_of_shut shut attended here name
  exact ⟨name, c', same, by rw [move, obeyed, parted]⟩

theorem LetsGo.condemned {command : Command} (lets : LetsGo s true command c)
    (shut : s.pool.closed = true) :
    ∃ c', c'.handle = c.handle ∧ Condemned c' (rest (s.move (.command command))) := by
  obtain ⟨name, c', same, moved⟩ := lets.discards shut
  exact ⟨c', same, moved ▸ condemned_discard _ c'⟩

theorem LetsGo.gone {command : Command} (lets : LetsGo s false command c)
    (shut : s.pool.closed = true) : c.handle ∈
      ((s.move (.command command)).history Movement.gone?).map Connection.handle := by
  obtain ⟨name, c', same, moved⟩ := lets.discards shut
  rw [moved, ← same]
  exact List.mem_map_of_mem (mem_gone_discard _ c')

theorem LetsGo.live {attended : Bool} {command : Command} (lets : LetsGo s attended command c) :
    c ∈ s.live := by
  obtain ⟨name, ⟨known, -⟩ | ⟨-, wish, known | known⟩⟩ := lets
  · have here : c ∈ s.held Holding.guarded := mem_held known (List.mem_singleton_self c)
    simp [Session.live, circulating, here]
  · have here : c ∈ s.held Holding.guarded := mem_held known (List.mem_singleton_self c)
    simp [Session.live, circulating, here]
  · have here : c ∈ s.held Holding.probed := mem_held known (List.mem_singleton_self c)
    simp [Session.live, circulating, here]

/-- Only to part with a connection where no later work is attended to tells the backend nothing. -/
theorem LetsGo.backend {command : Command} (lets : LetsGo s false command c)
    (shut : s.pool.closed = true) : (s.move (.command command)).backend = s.backend := by
  obtain ⟨name, c', same, moved⟩ := lets.discards shut
  rw [moved]
  exact backend_discard (s.letGo name) false c'

/-- What a closed pool has for its callers. -/
structure Terminated (s : Session) : Prop where
  closed : s.pool.closed = true
  idle : s.pool.idle = []
  status : s.pool.status = ⟨0, 0, s.pool.capacity⟩
  /-- Checkouts are refused and nothing else happens, on either side. -/
  checkouts : ∀ name, s.holdings.find? name = none → s.provider ≠ none →
    (∀ command ∈ [.get name, .tryGet name], s.obey command = (.poolError .closed, s)) ∧
      s.obey (.waitGet name) =
        (.waiting, s.hold name (.waiter .connection (.finished (.error .closed))))
  slots : ∀ name, s.holdings.find? name = none →
    (∀ command ∈ [.acquire name, .tryAcquire name], s.obey command = (.poolError .closed, s)) ∧
      s.obey (.waitAcquire name) =
        (.waiting, s.hold name (.waiter .slot (.finished (.error .closed))))
  /-- A connection that is put into the queue stays with the caller. -/
  handedBack : ∀ name c, s.holdings.find? name = some (.bare c) →
    s.obey (.enqueue name) = (.refused c.id, s)
  /-- A connection that is let go was open, and is closed once and for all. -/
  closings : ∀ command c, LetsGo s true command c → s.backend.closedHandles.count c.handle = 0 ∧
    ∀ more, ((s.move (.command command)).after more).settle.backend.closedHandles.count
      c.handle = 1
  /-- Where no later work is attended to, it is only dropped, and left open for ever. -/
  leavings : ∀ command c, LetsGo s false command c →
    (s.move (.command command)).backend = s.backend ∧
      ∀ more, ((s.move (.command command)).after more).backend.closedHandles.count c.handle = 0
  again : s.obey .closePool = (.drained [], s) ∧
    (s.provider ≠ none → s.obey .closeProvider = (.closed true, s))

/-- The handle of a connection that is there is open. -/
theorem Kept.isOpen_handle (kept : Kept (rest s)) (here : c ∈ s.live) :
    c.handle ∉ s.backend.closedHandles := by
  have isOpen := kept.conserved.isOpen c here
  rwa [← Bool.not_eq_true, Backend.isClosed_iff] at isOpen

theorem Shut.terminated (shut : Shut s) (kept : Kept (rest s)) : Terminated s where
  closed := shut.closed
  idle := shut.idle
  status := by simp [Pool.status, shut.closed, shut.idle]
  checkouts := by
    intro name fresh provided
    obtain ⟨p, served⟩ := Option.ne_none_iff_exists'.mp provided
    constructor
    · simp [obey, Command.newName?, Table.contains, fresh, carryOut, withProvider, served,
        unlessClosed, checkOut, shut.closed, shut.barred]
    · simp [obey, Command.newName?, Table.contains, fresh, carryOut, withProvider, served, lineUp,
        shut.closed]
  slots := by
    intro name fresh
    constructor
    · simp [obey, Command.newName?, Table.contains, fresh, carryOut, unlessClosed,
        acquireSlot, shut.closed, shut.barred]
    · simp [obey, Command.newName?, Table.contains, fresh, carryOut, lineUp, shut.closed]
  handedBack := by
    intro name c known
    simp [obey, Command.newName?, carryOut, withHolding, known, shut.closed]
  closings := by
    intro command c lets
    refine ⟨List.count_eq_zero.mpr (kept.isOpen_handle lets.live), fun more => ?_⟩
    obtain ⟨c', same, condemned⟩ := lets.condemned shut.closed
    rw [← same]
    exact condemned.closed_once (orderly_move shut.orderly _) (kept.sound.move shut.orderly _) more
  leavings := by
    intro command c lets
    have told := lets.backend shut.closed
    refine ⟨told, fun more => List.count_eq_zero.mpr ?_⟩
    refine gone_after (orderly_move shut.orderly _) (kept.sound.move shut.orderly _)
      (lets.gone shut.closed) ?_ more
    rw [told]
    exact kept.isOpen_handle lets.live
  again := by
    constructor
    · simp [obey, Command.newName?, carryOut, shut.closePool]
    · intro provided
      obtain ⟨p, served⟩ := Option.ne_none_iff_exists'.mp provided
      simp only [obey, Command.newName?, carryOut, withProvider, served, shut.closePool,
        shut.closed]
      rfl

/-! ### The moment of closing -/

/-- Closing the provider closes the idle connections, the longest idle first. -/
theorem log_closeProvider (kept : Kept (rest s)) (provided : s.provider ≠ none) :
    (s.move (.command .closeProvider)).backend.log =
      s.backend.log ++ s.pool.idle.flatMap Connection.retirement := by
  obtain ⟨p, served⟩ := Option.ne_none_iff_exists'.mp provided
  have same := closePool_backend s
  have live : s.pool.idle.Sublist s.live := by
    simp only [Session.live, circulating, List.append_assoc]
    exact List.sublist_append_left _ _
  have distinct := kept.conserved.handles.sublist (live.map Connection.handle)
  have isOpen : ∀ c ∈ s.pool.idle, s.closePool.2.backend.isClosed c.handle = false := by
    rw [same]
    exact fun c here => kept.conserved.isOpen c (live.subset here)
  have log := System.log_retireAll (s := s.closePool.2.toSystem) distinct isOpen
  rw [same] at log
  simpa [move, obey, Command.newName?, carryOut, withProvider, served, withSystem, closePool_eq]
    using log

/-- Closing the pool hands the idle connections to the caller and tells the driver nothing. -/
theorem backend_closePool (s : Session) :
    (s.obey .closePool).1 = .drained (s.pool.idle.map Connection.id) ∧
      (s.move (.command .closePool)).backend = s.backend := by
  have noted := congrArg (fun s : Session => s.backend) (forsakeAll_eq s.closePool.1 s.closePool.2)
  exact ⟨rfl, Eq.trans noted (closePool_backend s)⟩

/-- Closing is final. In every state after it the pool is closed and empty and refuses all, whoever
waited is told, and whatever is let go of is closed once where later work is attended to. The
provider closes the idle connections in order; the pool itself hands them out. -/
theorem close_terminal {backend : Backend} (fresh : backend.log = []) (capacity : Nat)
    (provider : Option Provider) {moves more : List Move} {close : Command}
    (closes : close ∈ closings) (called : close = .closeProvider → provider ≠ none)
    (admitted : Admitted sparesHandles (start backend (Pool.ofCapacity capacity) provider)
      (moves ++ .command close :: more)) :
    let s := (start backend (Pool.ofCapacity capacity) provider).after moves
    let u := s.move (.command close)
    Terminated (u.after more) ∧ (u.after more).backend.closedHandles.Nodup ∧
      (∀ name, s.Queued name ∨ s.Granted name → Admitted (sparesWaiter name) u more →
        ((u.after more).settle.obey (.poll name)).1 = .poolError .closed) ∧
      (∀ name, s.Queued name → Admitted (sparesWaiter name) u more →
        ((u.after more).obey (.poll name)).1 = .poolError .closed) ∧
      (close = .closeProvider →
        u.backend.log = s.backend.log ++ s.pool.idle.flatMap Connection.retirement) ∧
      (close = .closePool → (s.obey close).1 = .drained (s.pool.idle.map Connection.id) ∧
        u.backend = s.backend) := by
  intro s u
  have began := orderly_start backend capacity provider
  have orderly : Orderly s := orderly_after began moves
  have attended : Attended s := (attended_start _ _ _).after began moves
  have served : close = .closeProvider → s.provider ≠ none := by
    rw [show s.provider = provider from provider_after began moves]
    exact called
  obtain ⟨early, -⟩ := admitted_split admitted
  have kept : Kept (rest s) := kept_after fresh capacity provider early
  have shut : Shut u := shut_move orderly closes served
  have kept' : Kept (rest (u.after more)) := by
    have later := kept_after fresh capacity provider admitted
    rwa [after_append] at later
  refine ⟨(shut.after more).terminated kept', kept'.sound.distinct, ?_, ?_, ?_, ?_⟩
  · intro name waits spared
    exact told_after orderly attended closes served waits spared
  · intro name queued spared
    obtain ⟨wish, told⟩ := refused_move orderly closes served queued
    exact poll_refused (find?_after shut.orderly told spared)
  · rintro rfl
    exact log_closeProvider kept (served rfl)
  · rintro rfl
    exact backend_closePool s

theorem close_terminal_outstanding :
    let p : Provider := ⟨.ofEndpoint "mock" "db", .single "mock" (), .empty, .none⟩
    let moves : List Move := [.command (.get "a"), .command (.beginTransaction "a"),
      .command (.waitGet "b")]
    let began := start .fresh (.ofCapacity 1) (some p)
    let u := (began.after moves).move (.command .closeProvider)
    Backend.fresh.log = [] ∧ .closeProvider ∈ closings ∧ some p ≠ none ∧
      Admitted sparesHandles began (moves ++ [.command .closeProvider]) ∧
      u.pool.status = ⟨0, 0, 1⟩ ∧ (u.settle.obey (.poll "b")).1 = .poolError .closed ∧
      ∃ c, u.holdings.find? "a" = some (.pooled c) ∧ c.inTransaction = true ∧
        (u.move (.command (.drop "a"))).settle.backend.closedHandles.count c.handle = 1 := by
  have admitted : Admitted sparesHandles (start .fresh (.ofCapacity 1) (some
      ⟨.ofEndpoint "mock" "db", .single "mock" (), .empty, .none⟩))
      ([.command (.get "a"), .command (.beginTransaction "a"), .command (.waitGet "b")] ++
        [.command .closeProvider]) := ⟨rfl, rfl, rfl, rfl, trivial⟩
  obtain ⟨terminated, -, told, -⟩ :=
    close_terminal rfl 1 _ (by simp [closings]) (fun _ => by simp) admitted
  have refused := told "b" (Or.inl ⟨.connection, rfl⟩) trivial
  have closed := (terminated.closings (.drop "a")
    ⟨1, 1, .generic "mock", some 1, .zero, none⟩ ⟨"a", Or.inl ⟨rfl, by simp [lettings]⟩⟩).2 []
  exact ⟨rfl, by simp [closings], by simp, admitted, terminated.status, refused, _, rfl, rfl,
    closed⟩

/-- Where no later work is attended to, a guard that outlives the pool leaves its handle open. -/
theorem unattended_outlives_close :
    let p : Provider := ⟨.ofEndpoint "mock" "db", .single "mock" (), .empty, .none⟩
    let moves : List Move := [.command (.get "a")]
    let began := start .fresh (.ofCapacity 1) (some p)
    let u := (began.after moves).move (.command .closePool)
    Admitted sparesHandles began (moves ++ [.command .closePool,
        .command (.dropUnattended "a")]) ∧
      ∃ c, u.holdings.find? "a" = some (.pooled c) ∧
        (u.move (.command (.dropUnattended "a"))).holdings.find? "a" = none ∧
        (u.move (.command (.dropUnattended "a"))).settle.backend.closedHandles.count
          c.handle = 0 :=
  ⟨⟨rfl, rfl, rfl, trivial⟩, ⟨1, 1, .generic "mock", none, .zero, none⟩, rfl, rfl, rfl⟩

end Session
end Datastore
