import Datastore.Proofs.Session.Decomposition

/-!
# The waiting line

The names in line are exactly the waiters in the queue of the pool, each once; nobody waits while a
slot is free, and nobody waits for a closed pool. The queue and the slots are closed together. This
holds in every state, also in the middle of a move, and says what giving a slot back and closing the
pool do. Main statements: `Effect.orderly`, `Admitted.sustains`.
-/

namespace Datastore.Session

/-- In line for a slot. -/
def Queued (s : Session) (name : String) : Prop :=
  ∃ wish, s.holdings.find? name = some (.waiter wish .queued)

structure Orderly (s : Session) : Prop where
  distinct : s.pool.waiting.Nodup
  mem_waiting : ∀ name, name ∈ s.pool.waiting ↔ s.Queued name
  busy : s.pool.waiting ≠ [] → s.pool.free = 0
  dispersed : s.pool.closed = true → s.pool.waiting = []
  /-- The queue and the slots are closed together. -/
  barred : s.pool.barred = s.pool.closed

theorem orderly_start (backend : Backend) (capacity : Nat) (provider : Option Provider) :
    Orderly (start backend (Pool.ofCapacity capacity) provider) where
  distinct := List.nodup_nil
  mem_waiting := by simp [start, System.start, Pool.ofCapacity, Queued]
  busy := fun h => absurd rfl h
  dispersed := fun _ => rfl
  barred := rfl

theorem Orderly.unbarred {s : Session} (orderly : Orderly s) (isOpen : s.pool.closed = false) :
    s.pool.barred = false := orderly.barred.trans isOpen

/-- Whoever asks for a slot without waiting need not ask whether the pool is closed. -/
theorem Orderly.unlessClosed_checkOut {s : Session} (orderly : Orderly s) (p : Provider)
    (name : String) (noSlot : Answer) :
    s.unlessClosed (s.checkOut p name noSlot) = s.checkOut p name noSlot := by
  rw [unlessClosed]
  split
  · next shut => rw [checkOut, if_pos (orderly.barred.trans shut)]
  · rfl

theorem Orderly.unlessClosed_acquireSlot {s : Session} (orderly : Orderly s) (name : String)
    (noSlot : Answer) : s.unlessClosed (s.acquireSlot name noSlot) = s.acquireSlot name noSlot := by
  rw [unlessClosed]
  split
  · next shut => rw [acquireSlot, if_pos (orderly.barred.trans shut)]
  · rfl

/-! ### Giving a slot back -/

/-- A slot that is given back is free, or the first in line has it. -/
theorem freeSlot_cases {s : Session} (orderly : Orderly s) :
    s.pool.waiting = [] ∧ s.freeSlot = { s with pool := { s.pool with free := s.pool.free + 1 } } ∨
    ∃ name rest wish, s.pool.waiting = name :: rest ∧
      s.holdings.find? name = some (.waiter wish .queued) ∧
      s.freeSlot = ({ s with pool := { s.pool with waiting := rest } }.hold name
        (.waiter wish .granted)).putOff (.resume name) := by
  cases line : s.pool.waiting with
  | nil => exact Or.inl ⟨rfl, by simp only [freeSlot, line]⟩
  | cons name rest =>
    obtain ⟨wish, known⟩ := (orderly.mem_waiting name).mp (by simp [line])
    refine Or.inr ⟨name, rest, wish, rfl, known, ?_⟩
    simp only [freeSlot, line, advanceWaiter, known]

/-! ### Closing the pool -/

/-- All in line are refused. -/
def refuseAll (s : Session) (names : List String) : Session := names.foldl refuseWaiter s

theorem closePool_eq (s : Session) :
    s.closePool = (s.pool.idle, (s.withSystem s.toSystem.close.2).refuseAll s.pool.waiting) := rfl

theorem toSystem_refuseAll (s : Session) (names : List String) :
    (s.refuseAll names).toSystem = s.toSystem := by
  induction names generalizing s with
  | nil => rfl
  | cons name rest ih =>
    have first : (s.refuseWaiter name).toSystem = s.toSystem := by
      rw [refuseWaiter, advanceWaiter]
      split <;> rfl
    exact (ih _).trans first

theorem toSystem_closePool (s : Session) : s.closePool.2.toSystem = s.toSystem.close.2 := by
  rw [closePool_eq]
  exact toSystem_refuseAll _ _

theorem refuseWaiter_eq {s : Session} {name : String} {wish : Wish}
    (known : s.holdings.find? name = some (.waiter wish .queued)) :
    s.refuseWaiter name = s.hold name (.waiter wish (.finished (.error .closed))) := by
  simp only [refuseWaiter, advanceWaiter, known]

theorem refuseAll_eq {s : Session} {names : List String} (distinct : names.Nodup)
    (queued : ∀ name ∈ names, s.Queued name) :
    ∃ t : Table Holding, s.refuseAll names = { s with holdings := t } ∧
      (∀ other, other ∉ names → t.find? other = s.holdings.find? other) ∧
      (∀ name ∈ names, ∃ wish, t.find? name = some (.waiter wish (.finished (.error .closed)))) ∧
      ∀ μ : Holding → Nat,
        (∀ wish, μ (.waiter wish .queued) = μ (.waiter wish (.finished (.error .closed)))) →
        t.total μ = s.holdings.total μ := by
  induction names generalizing s with
  | nil => exact ⟨s.holdings, rfl, fun _ _ => rfl, by simp, fun _ _ => rfl⟩
  | cons name rest ih =>
    rw [List.nodup_cons] at distinct
    obtain ⟨wish, known⟩ := queued name (List.mem_cons_self ..)
    have later : ∀ other ∈ rest,
        (s.hold name (.waiter wish (.finished (.error .closed)))).Queued other := by
      intro other here
      obtain ⟨wish', known'⟩ := queued other (List.mem_cons_of_mem _ here)
      have apart : other ≠ name := fun h => distinct.1 (h ▸ here)
      exact ⟨wish', by rw [hold, Table.find?_insert_of_ne _ _ apart, known']⟩
    obtain ⟨t, same, others, refused, total⟩ := ih distinct.2 later
    refine ⟨t, ?_, ?_, ?_, ?_⟩
    · rw [refuseAll, List.foldl_cons, refuseWaiter_eq known]
      exact same
    · intro other absent
      rw [List.mem_cons, not_or] at absent
      rw [others other absent.2, hold, Table.find?_insert_of_ne _ _ absent.1]
    · intro other here
      by_cases there : other ∈ rest
      · exact refused other there
      · obtain rfl : other = name := (List.mem_cons.mp here).resolve_right there
        exact ⟨wish, by rw [others other there, hold, Table.find?_insert_self]⟩
    · intro μ even
      have first := Table.total_insert_of_find? μ
        (.waiter wish (.finished (.error .closed))) known
      have rest := total μ even
      have same := even wish
      simp only [hold] at rest
      omega

/-- Closing the pool empties it, and whoever was in line learns of it. -/
theorem closePool_spec {s : Session} (orderly : Orderly s) :
    ∃ t : Table Holding,
      s.closePool.2 = { s.withSystem s.toSystem.close.2 with holdings := t } ∧
      (∀ name, name ∉ s.pool.waiting → t.find? name = s.holdings.find? name) ∧
      (∀ name ∈ s.pool.waiting,
        ∃ wish, t.find? name = some (.waiter wish (.finished (.error .closed)))) ∧
      ∀ μ : Holding → Nat,
        (∀ wish, μ (.waiter wish .queued) = μ (.waiter wish (.finished (.error .closed)))) →
        t.total μ = s.holdings.total μ := by
  have queued : ∀ name ∈ s.pool.waiting, (s.withSystem s.toSystem.close.2).Queued name :=
    fun name here => (orderly.mem_waiting name).mp here
  rw [closePool_eq]
  exact refuseAll_eq orderly.distinct queued

end Datastore.Session

namespace Datastore.System

theorem close_eq (s : System) :
    s.close.2 = { s with
      pool := { s.pool with waiting := [], idle := [], closed := true, barred := true }
      journal := s.journal ++ s.pool.idle.map fun c => (s.clock, .drained c) } := by
  have noted : ∀ (cs : List Connection) (y : System),
      cs.foldl (fun s c => s.note (.drained c)) y =
        { y with journal := y.journal ++ cs.map fun c => (y.clock, .drained c) } := by
    intro cs
    induction cs with
    | nil => simp
    | cons c rest ih =>
      intro y
      rw [List.foldl_cons, ih]
      simp [note]
  simp only [close, noted]

/-- Effects on the system leave the slots and the line alone. -/
theorem Effect.line {d d' : Midway System} (effect : Effect d d') :
    d'.state.pool.free = d.state.pool.free ∧ d'.state.pool.waiting = d.state.pool.waiting ∧
      d'.state.pool.closed = d.state.pool.closed ∧
      d'.state.pool.capacity = d.state.pool.capacity ∧
      d'.state.pool.barred = d.state.pool.barred := by
  cases effect <;> exact ⟨rfl, rfl, rfl, rfl, rfl⟩

end Datastore.System

namespace Datastore.Session

theorem closePool_pool (s : Session) :
    s.closePool.2.pool =
      { s.pool with waiting := [], idle := [], closed := true, barred := true } :=
  (congrArg System.pool (toSystem_closePool s)).trans (by rw [System.close_eq])

theorem closePool_backend (s : Session) : s.closePool.2.backend = s.backend :=
  (congrArg System.backend (toSystem_closePool s)).trans (by rw [System.close_eq])

/-! ### Order is kept -/

theorem Orderly.of_holdings {s s' : Session} (orderly : Orderly s)
    (free : s'.pool.free = s.pool.free ∨ s.pool.free ≠ 0)
    (waiting : s'.pool.waiting = s.pool.waiting) (closed : s'.pool.closed = s.pool.closed)
    (barred : s'.pool.barred = s.pool.barred)
    (queued : ∀ name, s'.Queued name ↔ s.Queued name) : Orderly s' where
  distinct := waiting ▸ orderly.distinct
  mem_waiting := by
    intro name
    rw [waiting, queued]
    exact orderly.mem_waiting name
  busy := by
    intro long
    rw [waiting] at long
    have none := orderly.busy long
    rcases free with same | some
    · exact same.trans none
    · exact absurd none some
  dispersed := by
    rw [waiting, closed]
    exact orderly.dispersed
  barred := by rw [barred, closed, orderly.barred]

theorem not_queued {thing : Holding} (apart : thing.isQueued = false) (wish : Wish) :
    thing ≠ .waiter wish .queued := by
  rintro rfl
  cases apart

theorem not_queued_of_settled {thing : Holding} (settled : thing.isSettled = true) :
    thing.isQueued = false := by
  cases thing with
  | waiter wish progress =>
    cases progress with
    | queued => cases settled
    | _ => rfl
  | _ => rfl

/-- A name that is not in line before and after changes nothing about the line. -/
theorem queued_iff_of_change {s s' : Session} {name : String} {now : Option Holding}
    (before : ¬ s.Queued name) (after : ∀ wish, now ≠ some (.waiter wish .queued))
    (change : ∀ other, s'.holdings.find? other =
      if other = name then now else s.holdings.find? other) (other : String) :
    s'.Queued other ↔ s.Queued other := by
  unfold Queued
  rw [change]
  by_cases same : other = name
  · subst same
    simp only [if_true]
    exact ⟨fun ⟨wish, h⟩ => absurd h (after wish), fun h => absurd h before⟩
  · simp only [same, if_false]

theorem not_queued_of_none {s : Session} {name : String} (fresh : s.holdings.find? name = none) :
    ¬ s.Queued name := by
  rintro ⟨wish, known⟩
  rw [fresh] at known
  cases known

theorem not_queued_of_some {s : Session} {name : String} {thing : Holding}
    (known : s.holdings.find? name = some thing) (apart : thing.isQueued = false) :
    ¬ s.Queued name := by
  rintro ⟨wish, known'⟩
  rw [known] at known'
  exact not_queued apart wish (Option.some.inj known')

theorem orderly_freeSlot {s : Session} (orderly : Orderly s) : Orderly s.freeSlot := by
  rcases freeSlot_cases orderly with ⟨empty, same⟩ | ⟨name, rest, wish, line, known, same⟩
  · rw [same]
    exact ⟨orderly.distinct, orderly.mem_waiting, fun long => absurd empty long,
      orderly.dispersed, orderly.barred⟩
  · have distinct := orderly.distinct
    rw [line, List.nodup_cons] at distinct
    rw [same]
    refine ⟨distinct.2, ?_, fun _ => orderly.busy (by simp [line]), ?_, orderly.barred⟩
    · intro other
      have mem := orderly.mem_waiting other
      rw [line, List.mem_cons] at mem
      by_cases first : other = name
      · subst first
        simp [Queued, putOff, hold, distinct.1]
      · simpa [Queued, putOff, hold, Table.find?_insert_of_ne _ _ first, first] using mem
    · intro closed
      have none := orderly.dispersed closed
      rw [line] at none
      cases none

theorem orderly_closePool {s : Session} (orderly : Orderly s) : Orderly s.closePool.2 := by
  obtain ⟨t, same, others, refused, -⟩ := closePool_spec orderly
  rw [same, System.close_eq]
  refine ⟨List.nodup_nil, ?_, fun long => absurd rfl long, fun _ => rfl, rfl⟩
  intro name
  simp only [withSystem, List.not_mem_nil, false_iff]
  rintro ⟨wish, known⟩
  by_cases here : name ∈ s.pool.waiting
  · obtain ⟨wish', refused⟩ := refused name here
    rw [refused] at known
    cases known
  · rw [others name here] at known
    exact here ((orderly.mem_waiting name).mpr ⟨wish, known⟩)

theorem Shuffle.orderly {origin : Session} {d d' : Midway Session} (shuffle : Shuffle origin d d')
    (orderly : Orderly d.state) : Orderly d'.state := by
  cases shuffle with
  | claimed isOpen some => exact orderly.of_holdings (Or.inr some) rfl rfl rfl fun _ => Iff.rfl
  | freed => exact orderly_freeSlot orderly
  | put thing fresh settled =>
    exact orderly.of_holdings (Or.inl rfl) rfl rfl rfl (queued_iff_of_change
      (not_queued_of_none fresh)
      (fun wish h => not_queued (not_queued_of_settled settled) wish (Option.some.inj h))
      fun other => Table.find?_insert _ _ other _)
  | lifted known apart =>
    exact orderly.of_holdings (Or.inl rfl) rfl rfl rfl (queued_iff_of_change
      (not_queued_of_some known apart) (fun _ h => by cases h)
      fun other => Table.find?_erase _ _ other)
  | exchanged new known apart settled =>
    exact orderly.of_holdings (Or.inl rfl) rfl rfl rfl (queued_iff_of_change
      (not_queued_of_some known apart)
      (fun wish h => not_queued (not_queued_of_settled settled) wish (Option.some.inj h))
      fun other => Table.find?_insert _ _ other _)
  | welcomed wish vacant fresh =>
    exact orderly.of_holdings (Or.inl rfl) rfl rfl rfl (queued_iff_of_change
      (not_queued_of_none fresh) (fun _ h => by cases h)
      fun other => Table.find?_insert _ _ other _)
  | @joined s _ _ _ _ _ name wish new fresh isOpen busy =>
    have absent : name ∉ s.pool.waiting := fun here =>
      not_queued_of_none fresh ((orderly.mem_waiting name).mp here)
    refine ⟨?_, ?_, fun _ => busy, fun closed => by simp [hold, isOpen] at closed, orderly.barred⟩
    · rw [hold, List.nodup_append]
      refine ⟨orderly.distinct, by simp, ?_⟩
      rintro a here b last rfl
      exact absent (List.mem_singleton.mp last ▸ here)
    · intro other
      have mem := orderly.mem_waiting other
      by_cases same : other = name
      · subst same
        simp [Queued, hold]
      · simpa [Queued, hold, Table.find?_insert_of_ne _ _ same, same] using mem
  | @left s _ _ _ _ _ name wish known =>
    refine ⟨orderly.distinct.filter _, ?_, ?_, ?_, orderly.barred⟩
    · intro other
      have mem := orderly.mem_waiting other
      by_cases same : other = name
      · subst same
        simp [Queued, letGo, Table.find?_erase]
      · simpa [Queued, letGo, Table.find?_erase, same] using mem
    · intro long
      apply orderly.busy
      intro empty
      change s.pool.waiting = [] at empty
      simp [empty] at long
    · intro closed
      have empty : s.pool.waiting = [] := orderly.dispersed closed
      simp [empty]
  | dismissed due => exact orderly.of_holdings (Or.inl rfl) rfl rfl rfl fun _ => Iff.rfl

/-- Every effect keeps the line in order. -/
theorem Effect.orderly {origin : Session} {m : Move} {d d' : Midway Session}
    (effect : Effect origin m d d') (orderly : Orderly d.state) : Orderly d'.state := by
  cases effect with
  | system effect =>
    obtain ⟨free, waiting, closed, -, barred⟩ := effect.line
    exact orderly.of_holdings (Or.inl free) waiting closed barred fun _ => Iff.rfl
  | shuffled shuffle => exact shuffle.orderly orderly
  | shut => exact orderly_closePool orderly
  | discarded c => exact orderly.of_holdings (Or.inl rfl) rfl rfl rfl fun _ => Iff.rfl
  | buried due => exact orderly.of_holdings (Or.inl rfl) rfl rfl rfl fun _ => Iff.rfl
  | enqueued asked bare isOpen =>
    exact orderly.of_holdings (Or.inl rfl) rfl rfl rfl fun _ => Iff.rfl
  | severed asked known => exact orderly.of_holdings (Or.inl rfl) rfl rfl rfl fun _ => Iff.rfl

/-! ### Runs -/

/-- What every effect keeps in an orderly session, a chain of effects keeps. -/
theorem Effects.sustains {origin : Session} {m : Move} {I : Midway Session → Prop}
    (keeps : ∀ d d', Effect origin m d d' → Orderly d.state → I d → I d')
    {d d' : Midway Session} (chain : Effects origin m d d') (orderly : Orderly d.state)
    (now : I d) : Orderly d'.state ∧ I d' := by
  induction chain with
  | refl => exact ⟨orderly, now⟩
  | tail _ effect ih => exact ⟨effect.orderly ih.1, keeps _ _ effect ih.1 ih.2⟩

theorem orderly_move {s : Session} (orderly : Orderly s) (m : Move) : Orderly (s.move m) :=
  ((move_effects s m).sustains (I := fun _ => True) (fun _ _ _ _ _ => trivial) orderly trivial).1

theorem orderly_after {s : Session} (orderly : Orderly s) (moves : List Move) :
    Orderly (s.after moves) := by
  induction moves generalizing s with
  | nil => exact orderly
  | cons m rest ih => exact ih (orderly_move orderly m)

/-- What every effect of an admitted move keeps, every admitted run keeps. -/
theorem Admitted.sustains {rule : Session → Move → Bool} {I : Midway Session → Prop}
    (keeps : ∀ origin m, rule origin m = true → ∀ d d', Effect origin m d d' → Orderly d.state →
      I d → I d')
    {s : Session} {moves : List Move} (admitted : Admitted rule s moves) (orderly : Orderly s)
    (now : I (rest s)) : I (rest (s.after moves)) := by
  have both := admitted.preserves (I := fun s => Orderly s ∧ I (rest s))
    (fun s m allowed here =>
      (move_effects s m).sustains (keeps s m allowed) here.1 here.2) ⟨orderly, now⟩
  exact both.2

end Datastore.Session
