import Datastore.Proofs.Closing
import Datastore.Proofs.Session.Handout
import Datastore.Proofs.Slots

/-!
# The idle queue

Nothing that enters the queue is lost, doubled or passed by: it leaves at the front, or closing
drains it. As long as callers put no connections into it themselves, every idle connection carries
the time at which its last guard was dropped, and these times do not decrease from front to back.
Main statement: `queue_fifo`.
-/

namespace Datastore

namespace System

@[simp] theorem forsakeAll_pool (s : System) (cs : List Connection) :
    (s.forsakeAll cs).pool = s.pool := by
  induction cs generalizing s with
  | nil => rfl
  | cons c rest ih => exact ih _

theorem pool_enact_close (s : System) (retire : Bool) : (s.enact (.close retire)).pool =
    { s.pool with waiting := [], idle := [], closed := true, barred := true } := by
  cases retire <;> simp [enact, close_eq]

/-- What an act does to the queue. -/
theorem idle_enact (s : System) (a : Act) : (s.enact a).pool.idle =
    match a with
    | .checkout _ | .withdraw => s.pool.idle.tail
    | .enqueue c => s.pool.idle ++ [c]
    | .close _ => []
    | _ => s.pool.idle := by
  cases a with
  | checkout p => simp only [enact, Provider.checkout_pool]
  | manufacture p => simp only [enact, Provider.manufacture_pool]
  | openDirect driver dsn =>
    simp only [enact, openDirect]
    split <;> rfl
  | withdraw =>
    simp only [enact, withdraw]
    split
    · next empty => rw [empty]; rfl
    · next front => rw [front]; rfl
  | close retire => simp only [pool_enact_close]
  | _ => rfl

end System

namespace Session

/-- What a move puts into the queue. -/
def accepted (s : Session) (m : Move) : List Connection :=
  match s.act m with
  | .enqueue c => [c]
  | _ => []

/-- What a checkout or the caller takes out of the queue. -/
def takenOut (s : Session) (m : Move) : List Connection :=
  match s.act m with
  | .checkout _ | .withdraw => s.pool.idle.take 1
  | _ => []

/-- What closing takes out of the queue. -/
def drained (s : Session) (m : Move) : List Connection :=
  match s.act m with
  | .close _ => s.pool.idle
  | _ => []

/-- While the pool is open, guards that are dropped in no transaction are accepted, stamped with the
time, and so are connections that callers put into the queue. -/
theorem mem_accepted {s : Session} {m : Move} {c : Connection} :
    c ∈ s.accepted m ↔ s.pool.closed = false ∧
      ((∃ guard, s.guardDropped? m = some guard ∧ guard.inTransaction = false ∧
          c = guard.stamp (some s.clock)) ∨
        ∃ name, m = .command (.enqueue name) ∧ s.holdings.find? name = some (.bare c)) := by
  constructor
  · intro here
    have known := s.acts m
    unfold accepted at here
    generalize s.act m = a at known here
    cases known with
    | returned dropped free isOpen =>
      rw [List.mem_singleton] at here
      exact ⟨isOpen, Or.inl ⟨_, dropped, by simp [Connection.inTransaction, free], here⟩⟩
    | enqueued bare isOpen =>
      rw [List.mem_singleton] at here
      exact ⟨isOpen, Or.inr ⟨_, rfl, here ▸ bare⟩⟩
    | _ => cases here
  · rintro ⟨isOpen, ⟨guard, dropped, free, rfl⟩ | ⟨name, rfl, bare⟩⟩
    · simp [accepted, act_of_dropped dropped free isOpen]
    · simp [accepted, act, Command.newName?, commandAct, bare, isOpen]

/-- One move: what was idle or is accepted is taken out at the front, drained, or idle. -/
theorem queue_move (s : Session) (m : Move) :
    s.pool.idle ++ s.accepted m = s.takenOut m ++ s.drained m ++ (s.move m).pool.idle := by
  rw [idle_move, System.idle_enact, accepted, takenOut, drained]
  have split : s.pool.idle.take 1 ++ s.pool.idle.tail = s.pool.idle := by
    cases s.pool.idle <;> rfl
  cases s.act m <;> simp [split]

theorem takenOut_shut {s : Session} (shut : Shut s) (m : Move) : s.takenOut m = [] := by
  unfold takenOut
  split <;> simp [shut.idle]

theorem along_takenOut_shut {s : Session} (shut : Shut s) (moves : List Move) :
    along takenOut s moves = [] := by
  induction moves generalizing s with
  | nil => rfl
  | cons m rest ih =>
    have later : Shut (s.move m) := shut.after [m]
    rw [along, takenOut_shut shut, ih later, List.nil_append]

/-- A pool that was drained is closed for good. -/
theorem drained_eq_nil_or_shut {s : Session} (orderly : Orderly s) (m : Move) :
    s.drained m = [] ∨ Shut (s.move m) := by
  have idle := s.idle_move m
  have closed := s.closed_move m
  unfold drained
  cases a : s.act m with
  | close retire =>
    right
    rw [a, System.pool_enact_close] at idle closed
    exact ⟨orderly_move orderly m, closed, idle⟩
  | _ => exact Or.inl rfl

/-- A run: what was accepted was taken out in order, then drained, and the rest is idle. -/
theorem queue_after {s : Session} (orderly : Orderly s) (moves : List Move) :
    s.pool.idle ++ along accepted s moves =
      along takenOut s moves ++ along drained s moves ++ (s.after moves).pool.idle := by
  induction moves generalizing s with
  | nil => simp [along]
  | cons m rest ih =>
    have later := ih (orderly_move orderly m)
    calc s.pool.idle ++ along accepted s (m :: rest)
        = s.pool.idle ++ s.accepted m ++ along accepted (s.move m) rest := by
          rw [along, List.append_assoc]
      _ = s.takenOut m ++ s.drained m ++
            (along takenOut (s.move m) rest ++ along drained (s.move m) rest ++
              (s.after (m :: rest)).pool.idle) := by
          rw [queue_move, List.append_assoc, later, after_cons]
      _ = along takenOut s (m :: rest) ++ along drained s (m :: rest) ++
            (s.after (m :: rest)).pool.idle := by
          -- After a pool was drained nothing is taken out, so drained ones come last.
          rcases drained_eq_nil_or_shut orderly m with none | shut
          · simp only [along, none, List.append_nil, List.nil_append, List.append_assoc]
          · simp only [along, along_takenOut_shut shut, List.append_nil, List.nil_append,
              List.append_assoc]

/-! ### The order of idleness -/

/-- The number of a guard that is dropped, and when. -/
def returns (s : Session) (m : Move) : List (Nat × Duration) :=
  (s.guardDropped? m).toList.map fun c => (c.id, s.clock)

/-- When the last guard of a connection was dropped. -/
def lastReturn (past : List (Nat × Duration)) (id : Nat) : Option Duration :=
  past.reverse.lookup id

/-- Idle connections tell when they were given back, the first of them first. -/
structure Ranked (past : List (Nat × Duration)) (s : Session) : Prop where
  stamped : ∀ c ∈ s.pool.idle, ∃ time, c.lastUsed = some time ∧
    lastReturn past c.id = some time ∧ time.nanos ≤ s.clock.nanos
  sorted : s.pool.idle.Pairwise fun c c' => ∀ time time',
    c.lastUsed = some time → c'.lastUsed = some time' → time.nanos ≤ time'.nanos

theorem Sound.idle_apart {s : Session} (sound : Sound (rest s)) {c c' : Connection}
    (idle : c ∈ s.pool.idle) (held : c' ∈ s.held Holding.guarded) : c.id ≠ c'.id := by
  have distinct := sound.ids_nodup
  simp only [live, circulating, List.map_append, List.append_assoc, List.nodup_append] at distinct
  exact distinct.2.2 c.id (List.mem_map_of_mem idle) c'.id
    (List.mem_append_left _ (List.mem_map_of_mem held))

/-- Whoever drops a guard does not touch what is idle. -/
theorem lastReturn_idle {s : Session} (sound : Sound (rest s)) {c : Connection}
    (idle : c ∈ s.pool.idle) (past : List (Nat × Duration)) (m : Move) :
    lastReturn (past ++ s.returns m) c.id = lastReturn past c.id := by
  unfold returns lastReturn
  cases dropped : s.guardDropped? m with
  | none => simp
  | some guard =>
    have apart := sound.idle_apart idle (mem_guarded_of_dropped dropped)
    have skip : (c.id == guard.id) = false := by simpa using apart
    simp [List.lookup_cons, skip]

theorem Ranked.of_sublist {s s' : Session} {past past' : List (Nat × Duration)}
    (ranked : Ranked past s) (less : s'.pool.idle.Sublist s.pool.idle)
    (later : s.clock.nanos ≤ s'.clock.nanos)
    (same : ∀ c ∈ s.pool.idle, lastReturn past' c.id = lastReturn past c.id) :
    Ranked past' s' where
  stamped := by
    intro c here
    obtain ⟨time, stamp, last, old⟩ := ranked.stamped c (less.subset here)
    exact ⟨time, stamp, (same c (less.subset here)).trans last, by omega⟩
  sorted := ranked.sorted.sublist less

theorem Effect.clock_le {origin : Session} {m : Move} {d d' : Midway Session}
    (effect : Effect origin m d d') : d.state.clock.nanos ≤ d'.state.clock.nanos := by
  cases effect with
  | system effect =>
    cases effect with
    | waited time => exact Nat.le_add_right _ _
    | _ => exact Nat.le_refl _
  | shuffled shuffle => exact Nat.le_of_eq (congrArg Duration.nanos shuffle.untouched.clock.symm)
  | @shut s =>
    have same := congrArg System.clock ((toSystem_closePool s).trans (System.close_eq _))
    exact Nat.le_of_eq (congrArg Duration.nanos same.symm)
  | _ => exact Nat.le_refl _

/-- Time does not run backwards. -/
theorem clock_le_move {s : Session} (orderly : Orderly s) (m : Move) :
    s.clock.nanos ≤ (s.move m).clock.nanos :=
  ((move_effects s m).sustains (I := fun d => s.clock.nanos ≤ d.state.clock.nanos)
    (fun _ _ effect _ now => Nat.le_trans now effect.clock_le) orderly (Nat.le_refl _)).2

theorem Ranked.move {s : Session} {m : Move} {past : List (Nat × Duration)}
    (ranked : Ranked past s) (orderly : Orderly s) (sound : Sound (rest s))
    (spares : sparesQueue s m = true) : Ranked (past ++ s.returns m) (s.move m) := by
  have later := clock_le_move orderly m
  have same := fun c (here : c ∈ s.pool.idle) => lastReturn_idle sound here past m
  have idle := (s.idle_move m).trans (System.idle_enact _ _)
  have known := s.acts m
  generalize s.act m = a at idle known
  cases known with
  | @returned _ guard dropped free isOpen =>
    have old : Ranked (past ++ s.returns m) s :=
      ranked.of_sublist (List.Sublist.refl _) (Nat.le_refl _) same
    have last : lastReturn (past ++ s.returns m) guard.id = some s.clock := by
      simp [lastReturn, returns, dropped]
    simp only at idle
    constructor
    · rw [idle]
      intro c here
      rcases List.mem_append.mp here with before | new
      · obtain ⟨time, stamp, last, ago⟩ := old.stamped c before
        exact ⟨time, stamp, last, by omega⟩
      · rw [List.mem_singleton] at new
        subst new
        exact ⟨s.clock, rfl, last, later⟩
    · -- Whoever is given back now goes behind all that were given back before.
      rw [idle, List.pairwise_append]
      refine ⟨old.sorted, List.pairwise_singleton _ _, ?_⟩
      intro c before c' new time time' stamp stamp'
      rw [List.mem_singleton] at new
      subst new
      obtain ⟨time'', stamp'', -, ago⟩ := old.stamped c before
      cases stamp.symm.trans stamp''
      cases stamp'
      exact ago
  | enqueued bare isOpen => cases spares
  | checkout | withdraw => exact ranked.of_sublist (idle ▸ List.tail_sublist _) later same
  | close => exact ranked.of_sublist (idle ▸ List.nil_sublist _) later same
  | _ => exact ranked.of_sublist (idle ▸ List.Sublist.refl _) later same

/-- A checkout takes the connection that has been idle for longest. -/
structure TakesLongestIdle (s : Session) (m : Move) (front : Connection)
    (others : List Connection) : Prop where
  left : (s.move m).pool.idle = others
  /-- Instead of one that cannot be used, a new one is handed out. -/
  handed : ∀ c, HandsOut s m c → c = front ∨ c.id = s.made + 1
  longest : ∃ time, front.idleFor s.clock = some time ∧
    ∀ c ∈ s.pool.idle, ∃ time', c.idleFor s.clock = some time' ∧ time'.nanos ≤ time.nanos
  recent : Provider.isStale s.clock front = false →
    ∀ c ∈ s.pool.idle, Provider.isStale s.clock c = false

theorem Ranked.longest {s : Session} {past : List (Nat × Duration)} (ranked : Ranked past s)
    {front : Connection} {others : List Connection} (line : s.pool.idle = front :: others) :
    ∃ time, front.idleFor s.clock = some time ∧
      ∀ c ∈ s.pool.idle, ∃ time', c.idleFor s.clock = some time' ∧ time'.nanos ≤ time.nanos := by
  obtain ⟨first, stamp, -⟩ := ranked.stamped front (by simp [line])
  refine ⟨s.clock.since first, by simp [Connection.idleFor, stamp], ?_⟩
  intro c here
  obtain ⟨time, stamp', -⟩ := ranked.stamped c here
  refine ⟨s.clock.since time, by simp [Connection.idleFor, stamp'], ?_⟩
  have order : first.nanos ≤ time.nanos := by
    rw [line, List.mem_cons] at here
    rcases here with rfl | behind
    · cases stamp.symm.trans stamp'
      exact Nat.le_refl _
    · have sorted := ranked.sorted
      rw [line, List.pairwise_cons] at sorted
      exact sorted.1 c behind first time stamp stamp'
  simp only [Duration.since]
  omega

theorem Ranked.takes {s : Session} {past : List (Nat × Duration)} (ranked : Ranked past s)
    (orderly : Orderly s) {m : Move} {p : Provider} (checks : s.act m = .checkout p)
    {front : Connection} {others : List Connection} (line : s.pool.idle = front :: others) :
    TakesLongestIdle s m front others where
  left := by rw [idle_move, System.idle_enact, checks, line, List.tail_cons]
  handed := by
    intro c out
    rcases out.front_or_new orderly with ⟨rest, front', -⟩ | new
    · rw [line, List.cons.injEq] at front'
      exact Or.inl front'.1.symm
    · exact Or.inr new
  longest := ranked.longest line
  recent := by
    intro recent c here
    obtain ⟨time, since, bound⟩ := ranked.longest line
    obtain ⟨time', since', less⟩ := bound c here
    simp only [Provider.isStale, since, since', decide_eq_false_iff_not] at recent ⊢
    omega

/-- The queue is first in, first out, and loses nothing of what it accepts, which is what guards
leave to an open pool and what callers put there. Without the latter it is ordered by idleness, so a
checkout takes whoever has been idle for longest. -/
theorem queue_fifo {backend : Backend} (fresh : backend.log = []) (capacity : Nat)
    (provider : Option Provider) (moves : List Move) :
    let began := start backend (Pool.ofCapacity capacity) provider
    let s := began.after moves
    along accepted began moves =
        along takenOut began moves ++ along drained began moves ++ s.pool.idle ∧
      (∀ m c, c ∈ s.accepted m ↔ s.pool.closed = false ∧
        ((∃ guard, s.guardDropped? m = some guard ∧ guard.inTransaction = false ∧
            c = guard.stamp (some s.clock)) ∨
          ∃ name, m = .command (.enqueue name) ∧ s.holdings.find? name = some (.bare c))) ∧
      (Admitted sparesQueue began moves → Ranked (along returns began moves) s ∧
        ∀ m p front others, s.act m = .checkout p → s.pool.idle = front :: others →
          TakesLongestIdle s m front others) := by
  intro began s
  have orderly : Orderly began := orderly_start backend capacity provider
  refine ⟨queue_after orderly moves, fun m c => mem_accepted, ?_⟩
  intro admitted
  have empty : Ranked [] began := ⟨fun c here => absurd here List.not_mem_nil, List.Pairwise.nil⟩
  have kept := admitted.gathers
    (I := fun past s => Orderly s ∧ Sound (rest s) ∧ Ranked past s)
    (fun past s m spares ⟨there, sound, ranked⟩ =>
      ⟨orderly_move there m, sound.after there [m], ranked.move there sound spares⟩)
    ⟨orderly, sound_start fresh capacity provider, empty⟩
  rw [List.nil_append] at kept
  refine ⟨kept.2.2, ?_⟩
  intro m p front others checks line
  exact kept.2.2.takes kept.1 checks line

theorem queue_fifo_returned :
    let p : Provider := ⟨.ofEndpoint "mock" "db", .single "mock" (), .empty, .none⟩
    let moves : List Move := [.command (.get "a"), .command (.get "b"), .command (.release "b"),
      .command (.advance (Duration.ofMillis 5)), .command (.setLastUsed "a" false),
      .command (.drop "a")]
    let began := start .fresh (.ofCapacity 2) (some p)
    let s := began.after moves
    Backend.fresh.log = [] ∧ Admitted sparesQueue began moves ∧
      along accepted began moves =
        along takenOut began moves ++ along drained began moves ++ s.pool.idle ∧
      Ranked (along returns began moves) s ∧
      (along accepted began moves).map Connection.id = [2, 1] ∧
      along returns began moves = [(2, .zero), (1, Duration.ofMillis 5)] ∧
      ∃ front others, TakesLongestIdle s (.command (.get "c")) front others ∧ front.id = 2 := by
  have fresh : Backend.fresh.log = [] := rfl
  obtain ⟨law, -, ordered⟩ := queue_fifo fresh 2 (some
      ⟨.ofEndpoint "mock" "db", .single "mock" (), .empty, .none⟩)
    [.command (.get "a"), .command (.get "b"), .command (.release "b"),
      .command (.advance (Duration.ofMillis 5)), .command (.setLastUsed "a" false),
      .command (.drop "a")]
  obtain ⟨ranked, takes⟩ := ordered ⟨rfl, rfl, rfl, rfl, rfl, rfl, trivial⟩
  exact ⟨fresh, ⟨rfl, rfl, rfl, rfl, rfl, rfl, trivial⟩, law, ranked, by decide +kernel,
    by decide +kernel, _, _, takes (.command (.get "c")) _ _ _ rfl rfl, rfl⟩

end Session
end Datastore
