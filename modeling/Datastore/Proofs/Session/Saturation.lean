import Datastore.Proofs.Session.Absence
import Datastore.Proofs.Slots

/-!
# Saturated pools

As long as nobody takes a slot without a connection or puts a connection into the queue, every slot
in use has a connection once all work is done. So while somebody waits, all connections that the
pool may have are out and none is idle. The line itself is in the order in which its waiters began.
Main statements: `idle_of_line`, `line_begun`.
-/

namespace Datastore

/-- A slot without a connection, or a waiter for one. -/
def Holding.isBareSlot : Holding → Bool
  | .slot | .waiter .slot _ | .waiter .connection (.finished (.ok .slot)) => true
  | _ => false

theorem Holding.slots_eq_zero {thing : Holding} (kept : thing.isBareSlot = false)
    (used : ∀ wish, thing ≠ .waiter wish .granted) : thing.slots = 0 := by
  unfold slots
  split
  · cases kept
  · next wish => exact absurd rfl (used wish)
  · next wish => cases wish <;> cases kept
  · rfl

/-- A waiter begins under one name. -/
theorem Wish.command_inj {wish wish' : Wish} {first second : String}
    (same : wish.command first = wish'.command second) : first = second := by
  cases wish <;> cases wish' <;> cases same <;> rfl

namespace Session

variable {s began : Session} {m : Move} {moves : List Move} {first second : String}

/-! ### Slots without connections -/

/-- Callers take no slots without connections and put nothing into the idle queue. -/
def sparesSlots (_ : Session) : Move → Bool
  | .command (.acquire _) | .command (.tryAcquire _) | .command (.waitAcquire _)
  | .command (.enqueue _) => false
  | _ => true

/-- Nobody has a slot without a connection, or waits for one. -/
def Slotless (s : Session) : Prop :=
  ∀ name thing, s.holdings.find? name = some thing → thing.isBareSlot = false

theorem Slotless.move (slotless : Slotless s) (orderly : Orderly s)
    (allowed : sparesSlots s m = true) : Slotless (s.move m) := by
  intro name thing now
  have fate := becomes orderly name m
  rw [now] at fate
  generalize told : some thing = after at fate
  cases fate with
  | lapsed lapses =>
    generalize was : s.holdings.find? name = past at lapses
    cases lapses with
    | kept => exact slotless name thing (was.trans told.symm)
    | given wish | refused wish =>
      cases told
      have before := slotless name _ was
      cases wish <;> first | rfl | cases before
  | gone => cases told
  | guard c | bare c =>
    cases told
    rfl
  | slot asked => rcases asked with rfl | rfl <;> cases allowed
  | collected known =>
    have before := slotless name _ known
    cases ‹Wish› <;> cases before
  | begun wish progress free early =>
    cases told
    cases wish with
    | slot => cases allowed
    | connection => rcases early with rfl | rfl | rfl <;> rfl
  | content granted => cases slotless name _ granted
  | late granted =>
    cases told
    have before := slotless name _ granted
    cases ‹Wish› <;> first | rfl | cases before
  | @served place p granted due goes =>
    cases told
    cases (p.checkout s.toSystem).1 <;> rfl

theorem Slotless.after (slotless : Slotless s) (orderly : Orderly s)
    (admitted : Admitted sparesSlots s moves) : Slotless (s.after moves) :=
  (admitted.preserves (I := fun s => Orderly s ∧ Slotless s)
    (fun _ m allowed now => ⟨orderly_move now.1 m, now.2.move now.1 allowed⟩)
    ⟨orderly, slotless⟩).2

theorem slotless_start (backend : Backend) (pool : Pool) (provider : Option Provider) :
    Slotless (start backend pool provider) := by
  rintro name thing ⟨⟩

/-- Whoever is in line waits for a connection. -/
theorem Slotless.queued (slotless : Slotless s) (queued : s.Queued first) :
    s.holdings.find? first = some (.waiter .connection .queued) := by
  obtain ⟨wish, known⟩ := queued
  have waits := slotless first _ known
  cases wish with
  | slot => cases waits
  | connection => exact known

theorem bounded_after {backend : Backend} {capacity : Nat} {provider : Option Provider}
    (admitted : Admitted sparesSlots (start backend (Pool.ofCapacity capacity) provider) moves) :
    Bounded (max capacity 1)
      (rest ((start backend (Pool.ofCapacity capacity) provider).after moves)) :=
  admitted.sustains
    (fun _ _ allowed _ _ effect there now =>
      effect.bounded (by rintro name rfl; cases allowed) there now)
    (orderly_start backend capacity provider) (bounded_start backend capacity provider)

/-- While somebody waits, all connections are out. -/
theorem idle_of_line {capacity : Nat} (bounded : Bounded capacity (rest s)) (orderly : Orderly s)
    (attended : Attended s) (slotless : Slotless s) (done : s.agenda = [])
    (line : s.pool.waiting ≠ []) : s.pool.idle = [] := by
  have busy := orderly.busy line
  have bare : s.holdings.total Holding.slots = 0 := by
    refine weigh_eq_zero.mpr fun entry here => ?_
    have known := (s.holdings.find?_eq_some_iff entry.1 entry.2).mpr here
    exact Holding.slots_eq_zero (slotless _ _ known) fun wish granted =>
      attended.not_granted done entry.1 ⟨wish, granted ▸ known⟩
  have slots := bounded.slots
  have pooled := bounded.pooled
  simp only [slotsOf, rest, Table.total_add] at slots pooled
  exact List.length_eq_zero_iff.mp (by omega)

/-! ### The order of the line -/

theorem not_sublist_swap {α : Type} {a b : α} {xs : List α} (distinct : xs.Nodup)
    (order : [a, b].Sublist xs) : ¬ [b, a].Sublist xs := by
  induction xs with
  | nil => cases order
  | cons x rest ih =>
    intro other
    rw [List.nodup_cons] at distinct
    by_cases front : a = x
    · subst front
      have apart : b ≠ a := by
        rintro rfl
        exact distinct.1 (List.singleton_sublist.mp (List.cons_sublist_cons.mp order))
      exact distinct.1 ((other.of_cons_of_ne apart).subset (by simp))
    · have order' := order.of_cons_of_ne front
      by_cases front' : b = x
      · exact distinct.1 (front' ▸ order'.subset (by simp))
      · exact ih distinct.2 order' (other.of_cons_of_ne front')

/-- The second began to wait when the first was in line, and both have waited since. -/
def BegunAfter (began : Session) (moves : List Move) (first second : String) : Prop :=
  ∃ early, ∃ wish : Wish, ∃ later, moves = early ++ .command (wish.command second) :: later ∧
    ¬ (began.after early).Queued second ∧
    Throughout (·.Queued first) (began.after early) (.command (wish.command second) :: later) ∧
    Throughout (·.Queued second)
      ((began.after early).move (.command (wish.command second))) later

/-- Those in line are in the order in which they began. -/
theorem line_begun (orderly : Orderly began) (fresh : ∀ name, began.holdings.find? name = none)
    (moves : List Move) : (began.after moves).pool.waiting.Pairwise (BegunAfter began moves) := by
  rw [List.pairwise_iff_forall_sublist]
  intro first second order
  have orderly' := orderly_after orderly moves
  have queued (name : String) (here : name ∈ [first, second]) :=
    (orderly'.mem_waiting name).mp (order.subset here)
  obtain ⟨early, wish, later, split, free, waits⟩ :=
    queued_since orderly (fresh second) (queued second (by simp))
  obtain ⟨early', wish', later', split', free', waits'⟩ :=
    queued_since orderly (fresh first) (queued first (by simp))
  refine ⟨early, wish, later, split, not_queued_of_none free, ?_, waits⟩
  rcases List.append_eq_append_iff.mp (split.symm.trans split') with
    ⟨between, rfl, tail⟩ | ⟨between, rfl, tail⟩
  · exfalso
    rcases List.cons_eq_append_iff.mp tail with ⟨rfl, same⟩ | ⟨between, rfl, rfl⟩
    · -- The same move began both.
      obtain rfl := Wish.command_inj (Move.command.inj (List.cons.inj same).1)
      exact absurd (order.nodup orderly'.distinct) (by simp)
    · -- The second was in line already, so the first got in line behind it.
      have line := waits.later
      rw [← after_cons, ← after_append] at line
      have behind : Behind second first (began.after (early ++ _ :: between)) :=
        ⟨fun ⟨_, granted⟩ => by simp [free'] at granted,
          fun queued => absurd queued (not_queued_of_none free')⟩
      have stays := behind_after (orderly_after orderly _) line behind
      rw [← after_append, ← split'] at stays
      exact not_sublist_swap orderly'.distinct order (stays.2 (queued first (by simp)))
  · rcases List.cons_eq_append_iff.mp tail with ⟨rfl, same⟩ | ⟨between, rfl, rfl⟩
    · obtain rfl := Wish.command_inj (Move.command.inj (List.cons.inj same).1)
      exact absurd (order.nodup orderly'.distinct) (by simp)
    · have line := waits'.later
      rwa [← after_cons, ← after_append] at line

end Session
end Datastore
