import Datastore.Proofs.Session.Departure
import Datastore.Proofs.Session.Turns

/-!
# Isolation of transactions

As long as callers put only connections without a transaction into the idle queue, nobody is
handed a connection in the transaction of somebody else. A guard that is let go in a transaction is
not given back: its connection is gone for good, its transaction is never ended, and where work can
be put off its handle is closed. Main statement: `transactions_isolated`.
-/

namespace Datastore

/-- The connection that a checkout hands out. -/
def Movement.issued? : Movement → Option Connection
  | .issued c => some c
  | _ => none

/-- One for connections in a transaction. -/
def restless : Connection → Nat := pending fun _ => 1

theorem restless_eq_zero {c : Connection} : restless c = 0 ↔ c.inTransaction = false := by
  rw [restless, pending, Connection.inTransaction]
  cases c.transaction <;> simp

theorem weigh_restless {cs : List Connection} :
    weigh restless cs = 0 ↔ ∀ c ∈ cs, c.inTransaction = false := by
  simp only [weigh_eq_zero, restless_eq_zero]

namespace System

/-- Connections in a transaction where there should be none: at rest, on their way to a caller, or
handed out. -/
def unrest (d : Midway System) : Nat :=
  weigh restless d.state.pool.idle + weigh restless d.quiet +
    weigh restless (d.state.history Movement.issued?)

theorem Effect.calm {d d' : Midway System} (effect : Effect d d') (calm : unrest d = 0) :
    unrest d' = 0 := by
  cases effect with
  | @issued s n e o q l c here =>
    have less := le_weigh restless here
    simp only [unrest, history_note, Movement.issued?, Option.toList_some, weigh_append, weigh_cons,
      weigh_nil, note_pool] at calm ⊢
    omega
  | @wrapped s n e o q l handle dialect =>
    have new : restless (s.wrap handle dialect).1 = 0 := rfl
    simp only [unrest, history_wrap, Movement.issued?, Option.toList_none, List.append_nil,
      weigh_cons, wrap_pool, new] at calm ⊢
    omega
  | @returned s n e o q l c isOpen free =>
    have none : restless (c.stamp (some s.clock)) = 0 := pending_of_none free
    simp only [unrest, history_enqueue, Movement.issued?, Option.toList_none, List.append_nil]
      at calm ⊢
    simp only [enqueue, note, Pool.enqueue, weigh_append, weigh_cons, weigh_nil, none]
    omega
  | taken front =>
    simp [unrest, history, note, front, Movement.issued?] at calm ⊢
    omega
  | withdrawn front =>
    simp [unrest, history, note, front, Movement.issued?] at calm ⊢
    omega
  | loosened c =>
    simp only [unrest, weigh_cons] at calm ⊢
    omega
  | retired c => simpa [unrest, history_retire, Movement.issued?] using calm
  | examined | probed | orphaned | forsaken =>
    simpa [unrest, history_note, Movement.issued?] using calm
  | _ => exact calm

theorem Effects.calm {d d' : Midway System} (chain : Effects d d') (calm : unrest d = 0) :
    unrest d' = 0 := by
  induction chain with
  | refl => exact calm
  | tail _ effect ih => exact effect.calm ih

end System

namespace Session

/-- Connections in a transaction where there should be none. -/
def unrest (d : Midway Session) : Nat :=
  System.unrest (onSystem d) + d.state.holdings.total fun t => weigh restless t.quiet

/-- Callers put only connections without a transaction into the idle queue. -/
def calmQueue (s : Session) : Move → Bool
  | .command (.enqueue name) =>
    match s.holdings.find? name with
    | some (.bare c) => !c.inTransaction
    | _ => true
  | _ => true

theorem agrees_restless :
    Agrees (fun t => weigh restless t.quiet) fun _ q _ => weigh restless q := by
  intro t e q l
  simp only [weigh_append]
  omega

theorem Effect.calm {origin : Session} {m : Move} {d d' : Midway Session}
    (effect : Effect origin m d d') (allowed : calmQueue origin m = true)
    (orderly : Orderly d.state) (calm : unrest d = 0) : unrest d' = 0 := by
  cases effect with
  | @system s n e o q l y n' e' o' q' l' effect =>
    simp only [unrest, onSystem, withSystem] at calm ⊢
    have before : System.unrest ⟨s.toSystem, n, e, o, q, l⟩ = 0 := by omega
    have after := effect.calm before
    omega
  | shuffled shuffle =>
    have balance := shuffle.balance agrees_restless orderly
    have same := shuffle.untouched
    simp only [unrest, onSystem, System.unrest, System.history, same.idle, same.journal]
      at calm ⊢
    omega
  | @shut s =>
    obtain ⟨t, same, -, -, total⟩ := closePool_spec orderly
    have kept := total (fun t => weigh restless t.quiet) fun _ => rfl
    have issued : s.toSystem.close.2.history Movement.issued? = s.history Movement.issued? :=
      System.history_close _ fun _ => rfl
    rw [same]
    simp only [unrest, onSystem, System.unrest, withSystem, kept, issued] at calm ⊢
    simp only [System.close_eq, weigh_nil]
    omega
  | discarded c => exact calm
  | buried due =>
    simpa [unrest, onSystem, System.unrest, withSystem, System.history_retire, Movement.issued?]
      using calm
  | @enqueued s n e o q l name c asked bare isOpen =>
    subst asked
    simp only [calmQueue, bare, Bool.not_eq_true'] at allowed
    have none := restless_eq_zero.mpr allowed
    simp only [unrest, onSystem, System.unrest, withSystem, System.history_enqueue,
      Movement.issued?, Option.toList_none, List.append_nil] at calm ⊢
    simp only [System.enqueue, System.note, Pool.enqueue, weigh_append, weigh_cons, weigh_nil,
      none]
    omega
  | severed asked known => exact calm

theorem calm_start (backend : Backend) (capacity : Nat) (provider : Option Provider) :
    unrest (rest (start backend (Pool.ofCapacity capacity) provider)) = 0 := rfl

/-! ### Handing out -/

/-- A connection that somebody got out of a checkout is not in a transaction. -/
def Fresh (outcome : Answer × Session) (name : String) : Prop :=
  ∀ id, outcome.1 = .connection id → ∃ c, outcome.2.holdings.find? name = some (.pooled c) ∧
    c.id = id ∧ c.inTransaction = false

theorem fresh_checkOut {s : Session} (calm : unrest (rest s) = 0) (p : Provider) (name : String)
    {noSlot : Answer} (other : ∀ id, noSlot ≠ .connection id) :
    Fresh (s.checkOut p name noSlot) name := by
  intro id told
  rw [checkOut] at told ⊢
  by_cases shut : s.pool.barred
  · simp [shut] at told
  by_cases busy : s.pool.free = 0
  · simp only [shut, busy, Bool.false_eq_true, if_false, if_true] at told
    exact absurd told (other id)
  simp only [shut, busy, Bool.false_eq_true, if_false] at told ⊢
  have start : System.unrest ⟨s.takeSlot.toSystem, 1, 0, [], [], []⟩ = 0 := by
    simp only [unrest, onSystem, rest] at calm
    exact (Nat.add_eq_zero_iff.mp calm).1
  have chain := System.checkout_effects (s := s.takeSlot.toSystem) (n := 0) (e := 0) (o := [])
    (q := []) (l := []) p
  have quiet := chain.calm start
  cases outcome : (p.checkout s.takeSlot.toSystem).1 with
  | ready c =>
    rw [outcome] at quiet
    simp only [outcome, Answer.connection.injEq] at told ⊢
    refine ⟨c, Table.find?_insert_self _ _ _, told, restless_eq_zero.mp ?_⟩
    simp only [Provider.Checkout.midway, System.unrest, weigh_cons] at quiet
    omega
  | failed error => simp [outcome] at told
  | stalled c => simp [outcome] at told

theorem fresh_unlessClosed {s : Session} {outcome : Answer × Session} {name : String}
    (fresh : Fresh outcome name) : Fresh (s.unlessClosed outcome) name := by
  rw [unlessClosed]
  split
  · intro id told
    cases told
  · exact fresh

theorem calm_of_quiet {s : Session} (calm : unrest (rest s) = 0) {name : String} {t : Holding}
    (known : s.holdings.find? name = some t) {c : Connection} (here : c ∈ t.quiet) :
    c.inTransaction = false := by
  have held : weigh restless t.quiet ≤ _ :=
    Table.le_total (fun t => weigh restless t.quiet) known
  have less := le_weigh restless here
  simp only [unrest, rest] at calm
  exact restless_eq_zero.mp (by omega)

theorem fresh_collect {s : Session} (calm : unrest (rest s) = 0) {name : String} {wish : Wish}
    {progress : Progress} (known : s.holdings.find? name = some (.waiter wish progress)) :
    Fresh (s.collect name progress) name := by
  intro id told
  unfold collect at told ⊢
  split at told
  · next c =>
    have calm := calm_of_quiet calm known (List.mem_singleton_self c)
    exact ⟨c, Table.find?_insert_self _ _ _, Answer.connection.inj told, calm⟩
  all_goals cases told

theorem fresh_obey {s : Session} (calm : unrest (rest s) = 0) {name : String} {command : Command}
    (asks : command ∈ [.get name, .tryGet name, .poll name]) : Fresh (s.obey command) name := by
  have misused (misuse : Misuse) : Fresh (s.misused misuse) name := fun _ told => by cases told
  rw [obey]
  split
  · exact misused _
  · simp only [List.mem_cons, List.not_mem_nil, or_false] at asks
    rcases asks with rfl | rfl | rfl
    · simp only [carryOut, withProvider]
      split
      · next p _ => exact fresh_unlessClosed (fresh_checkOut calm p name fun _ h => by cases h)
      · exact misused _
    · simp only [carryOut, withProvider]
      split
      · next p _ => exact fresh_checkOut calm p name fun _ h => by cases h
      · exact misused _
    · simp only [carryOut, withHolding]
      split
      · next t known =>
        split
        · exact fresh_collect calm known
        · exact misused _
      · exact misused _

/-! ### Letting go -/

/-- A slot of `s` is free in `t`, or the first in line has it. -/
def PassesSlot (s t : Session) : Prop :=
  s.pool.waiting = [] ∧ t.pool.waiting = [] ∧ t.pool.free = s.pool.free + 1 ∨
    ∃ first others, s.pool.waiting = first :: others ∧ t.pool.waiting = others ∧ t.Granted first

theorem passesSlot_freeSlot {s s' : Session} (orderly : Orderly s) {name : String} {t : Holding}
    (known : s.holdings.find? name = some t) (apart : t.isQueued = false)
    (pool : s'.pool = s.pool) (holdings : s'.holdings = s.holdings.erase name) :
    PassesSlot s s'.freeSlot := by
  have orderly' : Orderly s' :=
    orderly.of_holdings (Or.inl (congrArg Pool.free pool)) (congrArg Pool.waiting pool)
      (congrArg Pool.closed pool) (congrArg Pool.barred pool)
      (queued_iff_of_change (not_queued_of_some known apart)
        (fun _ h => by cases h) fun other => holdings ▸ Table.find?_erase _ _ other)
  rcases freeSlot_cases orderly' with ⟨empty, same⟩ | ⟨first, others, wish, line, -, same⟩
  · left
    rw [pool] at empty
    refine ⟨empty, ?_, ?_⟩
    · rw [same, pool]
      exact empty
    · rw [same, pool]
  · right
    rw [pool] at line
    refine ⟨first, others, line, ?_, wish, ?_⟩
    · rw [same]
      rfl
    · rw [same]
      exact Table.find?_insert_self _ _ _

/-- A thing is let go of with its slot. -/
theorem passesSlot_discard {s : Session} (orderly : Orderly s) {name : String} {thing : Holding}
    (known : s.holdings.find? name = some thing) (apart : thing.isQueued = false) (attended : Bool)
    (c : Connection) : PassesSlot s ((s.letGo name).discard attended c).freeSlot := by
  cases attended <;> exact passesSlot_freeSlot orderly known apart rfl rfl

/-- What becomes of a connection that is let go in a transaction: its slot is passed on, nobody ever
has it again and its transaction is never ended. -/
structure Banished (s : Session) (c : Connection) (number : Nat) (t : Session) : Prop where
  slot : PassesSlot s t
  never : ∀ more, c.id ∉ (t.after more).circulating.map Connection.id
  alone : ∀ more, .committed number ∉ (t.after more).backend.log ∧
    .rolledBack number ∉ (t.after more).backend.log

theorem banished_of_departed {s t : Session} {c : Connection} {number : Nat}
    (orderly : Orderly t) (sound : Sound (rest t)) (departed : Departed c (rest t))
    (active : c.transaction = some number) (slot : PassesSlot s t) : Banished s c number t := by
  refine ⟨slot, ?_, ?_⟩
  · intro more
    exact (sound.after orderly more).departed (departed.after orderly more)
  · intro more
    have gone := departed.after orderly more
    have later := sound.after orderly more
    exact ⟨fun here => later.not_ended gone active here rfl,
      fun here => later.not_ended gone active here rfl⟩

theorem move_letGo {s : Session} {name : String} {c : Connection}
    (known : s.holdings.find? name = some (.pooled c)) (active : c.inTransaction = true)
    {attended : Bool} {command : Command} (lets : command ∈ lettings name attended) :
    s.move (.command command) = ((s.letGo name).discard attended c).freeSlot := by
  rw [move, obey_letting known (by simp [active]) lets]
  simp only [partWith, giveBack, active, if_true]

theorem banished_letGo {s : Session} (orderly : Orderly s) (sound : Sound (rest s))
    {name : String} {c : Connection} {number : Nat}
    (known : s.holdings.find? name = some (.pooled c)) (active : c.transaction = some number)
    {attended : Bool} {command : Command} (lets : command ∈ lettings name attended) :
    Banished s c number (s.move (.command command)) := by
  have inside : c.inTransaction = true := by simp [Connection.inTransaction, active]
  have orderly' := orderly_move orderly (.command command)
  have sound' : Sound (rest (s.move (.command command))) :=
    sound.after orderly [.command command]
  rw [move_letGo known inside lets] at orderly' sound' ⊢
  exact banished_of_departed orderly' sound' (departed_discard _ attended c) active
    (passesSlot_discard orderly known rfl attended c)

theorem closed_letGo {s : Session} (orderly : Orderly s) (sound : Sound (rest s))
    {name : String} {c : Connection} {number : Nat}
    (known : s.holdings.find? name = some (.pooled c)) (active : c.transaction = some number)
    {command : Command} (lets : command ∈ lettings name true) (more : List Move) :
    ((s.move (.command command)).after more).settle.backend.closedHandles.count c.handle = 1 := by
  have inside : c.inTransaction = true := by simp [Connection.inTransaction, active]
  have orderly' := orderly_move orderly (.command command)
  have sound' : Sound (rest (s.move (.command command))) :=
    sound.after orderly [.command command]
  have condemned : Condemned c (rest (s.move (.command command))) := by
    rw [move_letGo known inside lets]
    exact condemned_discard (s.letGo name) c
  exact condemned.closed_once orderly' sound' more

/-- In every run in which callers put only connections without a transaction into the idle queue,
no transaction is handed from one caller to another. -/
theorem transactions_isolated {backend : Backend} (fresh : backend.log = []) (capacity : Nat)
    (provider : Option Provider) {moves : List Move}
    (admitted : Admitted calmQueue (start backend (Pool.ofCapacity capacity) provider) moves) :
    let s := (start backend (Pool.ofCapacity capacity) provider).after moves
    (∀ c ∈ s.pool.idle, c.inTransaction = false) ∧
      (∀ name t, s.holdings.find? name = some t → ∀ c ∈ t.quiet, c.inTransaction = false) ∧
      (∀ c ∈ s.history Movement.issued?, c.inTransaction = false) ∧
      (∀ name, ∀ command ∈ [.get name, .tryGet name, .poll name], Fresh (s.obey command) name) ∧
      ∀ name c number, s.holdings.find? name = some (.pooled c) → c.transaction = some number →
        (∀ attended, ∀ command ∈ lettings name attended,
          Banished s c number (s.move (.command command))) ∧
        ∀ command ∈ lettings name true, ∀ more,
          ((s.move (.command command)).after more).settle.backend.closedHandles.count
            c.handle = 1 := by
  intro s
  have began := orderly_start backend capacity provider
  have orderly : Orderly s := orderly_after began moves
  have sound : Sound (rest s) := (sound_start fresh capacity provider).after began moves
  have calm : unrest (rest s) = 0 := admitted.sustains
    (fun _ _ allowed _ _ effect there now => effect.calm allowed there now) began
    (calm_start backend capacity provider)
  have system : System.unrest (onSystem (rest s)) = 0 := (Nat.add_eq_zero_iff.mp calm).1
  simp only [System.unrest, onSystem, rest] at system
  refine ⟨?_, ?_, ?_, ?_, ?_⟩
  · exact weigh_restless.mp (by omega)
  · intro name t known c here
    exact calm_of_quiet calm known here
  · exact weigh_restless.mp (by omega)
  · intro name command asks
    exact fresh_obey calm asks
  · intro name c number known active
    exact ⟨fun attended command lets => banished_letGo orderly sound known active lets,
      fun command lets more => closed_letGo orderly sound known active lets more⟩

theorem transactions_isolated_dropped :
    let p : Provider := ⟨.ofEndpoint "mock" "db", .single "mock" (), .empty, .none⟩
    let moves : List Move := [.command (.get "a"), .command (.beginTransaction "a")]
    let s := (start .fresh (.ofCapacity 1) (some p)).after moves
    Backend.fresh.log = [] ∧
      Admitted calmQueue (start .fresh (.ofCapacity 1) (some p)) moves ∧
      ∃ c, s.holdings.find? "a" = some (.pooled c) ∧ c.transaction = some 1 ∧
        ((s.move (.command (.drop "a"))).after []).settle.backend.closedHandles.count
          c.handle = 1 := by
  have guard : ((start .fresh (.ofCapacity 1) (some
      ⟨.ofEndpoint "mock" "db", .single "mock" (), .empty, .none⟩)).after
        [.command (.get "a"), .command (.beginTransaction "a")]).holdings.find? "a" =
      some (.pooled ⟨1, 1, .generic "mock", some 1, .zero, none⟩) := rfl
  intro p moves
  have admitted : Admitted calmQueue (start .fresh (.ofCapacity 1) (some p)) moves :=
    ⟨rfl, rfl, trivial⟩
  obtain ⟨-, -, -, -, given⟩ := transactions_isolated rfl 1 (some p) admitted
  obtain ⟨-, closed⟩ := given "a" _ 1 guard rfl
  exact ⟨rfl, admitted, _, guard, rfl, closed (.drop "a") (by simp [lettings]) []⟩

/-- Where no later work is attended to, a guard that is let go in a transaction leaves its handle
open. -/
theorem unattended_stays_open :
    let p : Provider := ⟨.ofEndpoint "mock" "db", .single "mock" (), .empty, .none⟩
    let moves : List Move := [.command (.get "a"), .command (.beginTransaction "a")]
    let s := (start .fresh (.ofCapacity 1) (some p)).after moves
    Admitted calmQueue (start .fresh (.ofCapacity 1) (some p)) moves ∧
      ∃ c number, s.holdings.find? "a" = some (.pooled c) ∧ c.transaction = some number ∧
        (s.move (.command (.dropUnattended "a"))).settle.backend.closedHandles.count
          c.handle = 0 :=
  ⟨⟨rfl, rfl, trivial⟩, ⟨1, 1, .generic "mock", some 1, .zero, none⟩, 1, rfl, rfl, rfl⟩

end Session
end Datastore
