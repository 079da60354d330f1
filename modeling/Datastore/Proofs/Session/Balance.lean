import Datastore.Proofs.Session.Line

/-!
# What shuffling keeps

Slots and things that change hands are neither made nor lost. A measure that adds up slots alone
has the free ones on its balance; one that adds up what comes with the slots has not, so giving a
slot to a waiter does not count. Main statements: `Shuffle.slots`, `Shuffle.balance`.
-/

namespace Datastore

/-- The connection that is about to be retired. -/
def Task.doomed? : Task → Option Connection
  | .retire c => some c
  | .resume _ => none

namespace Session

/-- Connections that were discarded and are not retired yet. -/
def doomed (s : Session) : List Connection := s.agenda.filterMap Task.doomed?

/-- All but slots, line and holdings is as it was. -/
structure Untouched (d d' : Midway Session) : Prop where
  backend : d'.state.backend = d.state.backend
  clock : d'.state.clock = d.state.clock
  made : d'.state.made = d.state.made
  journal : d'.state.journal = d.state.journal
  idle : d'.state.pool.idle = d.state.pool.idle
  closed : d'.state.pool.closed = d.state.pool.closed
  capacity : d'.state.pool.capacity = d.state.pool.capacity
  opened : d'.opened = d.opened
  doomed : d'.state.doomed = d.state.doomed

theorem doomed_putOff_resume (s : Session) (name : String) :
    (s.putOff (.resume name)).doomed = s.doomed := by
  simp [doomed, putOff, Task.doomed?]

theorem doomed_eraseIdx_resume {agenda : List Task} {place : Nat} {name : String}
    (due : agenda[place]? = some (.resume name)) :
    (agenda.eraseIdx place).filterMap Task.doomed? = agenda.filterMap Task.doomed? := by
  induction agenda generalizing place with
  | nil => simp at due
  | cons task rest ih =>
    cases place with
    | zero =>
      obtain rfl : task = .resume name := Option.some.inj due
      rfl
    | succ place =>
      have next : rest[place]? = some (.resume name) := due
      have later := ih next
      simp only [List.eraseIdx_cons_succ, List.filterMap_cons, later]

theorem untouched_freeSlot (s : Session) {n e : Nat} {o : List Nat} {q l : List Connection} :
    Untouched ⟨s, n + 1, e, o, q, l⟩ ⟨s.freeSlot, n, e, o, q, l⟩ := by
  rw [freeSlot]
  split
  · constructor <;> rfl
  · next name rest line =>
    rw [advanceWaiter]
    split
    · constructor <;> first | rfl | exact doomed_putOff_resume _ name
    · constructor <;> first | rfl | exact doomed_putOff_resume _ name

theorem Shuffle.untouched {origin : Session} {d d' : Midway Session}
    (shuffle : Shuffle origin d d') : Untouched d d' := by
  cases shuffle with
  | freed => exact untouched_freeSlot _
  | welcomed wish vacant fresh =>
    constructor <;> first | rfl | exact doomed_putOff_resume _ _
  | dismissed due =>
    constructor <;> first | rfl | exact doomed_eraseIdx_resume due
  | _ => constructor <;> rfl

/-- Slots at the hands of the holdings, of the move and of nobody. -/
def slotsOf (d : Midway Session) : Nat :=
  d.state.pool.free + d.state.holdings.total (fun t => t.slots + t.engaged) + d.slots + d.engaged

/-- A slot goes from hand to hand. -/
theorem Shuffle.slots {origin : Session} {d d' : Midway Session} (shuffle : Shuffle origin d d')
    (orderly : Orderly d.state) : slotsOf d' = slotsOf d := by
  cases shuffle with
  | claimed isOpen some =>
    simp only [slotsOf, takeSlot, Pool.takeSlot]
    omega
  | @freed s =>
    rcases freeSlot_cases orderly with ⟨-, same⟩ | ⟨name, rest, wish, -, known, same⟩
    · rw [same]
      simp only [slotsOf]
      omega
    · have change := Table.total_insert_of_find? (fun t => t.slots + t.engaged)
        (.waiter wish .granted) known
      rw [same]
      simp only [slotsOf, putOff, hold, Holding.slots, Holding.engaged] at change ⊢
      omega
  | put thing fresh settled =>
    have change := Table.total_insert_of_none (fun t => t.slots + t.engaged) thing fresh
    simp only [slotsOf, hold]
    omega
  | lifted known apart =>
    have change := Table.total_erase (fun t => t.slots + t.engaged) known
    simp only [slotsOf, letGo]
    omega
  | exchanged new known apart settled =>
    have change := Table.total_insert_of_find? (fun t => t.slots + t.engaged) new known
    simp only [slotsOf, hold]
    omega
  | welcomed wish vacant fresh =>
    have change := Table.total_insert_of_none (fun t => t.slots + t.engaged)
      (.waiter wish .granted) fresh
    simp only [slotsOf, putOff, hold, Holding.slots, Holding.engaged] at change ⊢
    omega
  | joined wish new fresh isOpen busy =>
    have change := Table.total_insert_of_none (fun t => t.slots + t.engaged)
      (.waiter wish .queued) fresh
    simp only [slotsOf, hold, Holding.slots, Holding.engaged] at change ⊢
    omega
  | left known =>
    have change := Table.total_erase (fun t => t.slots + t.engaged) known
    simp only [slotsOf, letGo, Holding.slots, Holding.engaged] at change ⊢
    omega
  | dismissed due => rfl

/-- A measure of holdings that agrees with one of engaged slots and connections in hand. -/
def Agrees (μ : Holding → Nat) (hand : Nat → List Connection → List Connection → Nat) : Prop :=
  ∀ (t : Holding) (e : Nat) (q l : List Connection),
    hand (e + t.engaged) (t.quiet ++ q) (t.loose ++ l) = hand e q l + μ t

/-- What comes with the slots goes from hand to hand. -/
theorem Shuffle.balance {origin : Session} {d d' : Midway Session} {μ : Holding → Nat}
    {hand : Nat → List Connection → List Connection → Nat} (agrees : Agrees μ hand)
    (shuffle : Shuffle origin d d') (orderly : Orderly d.state) :
    d'.state.holdings.total μ + hand d'.engaged d'.quiet d'.loose =
      d.state.holdings.total μ + hand d.engaged d.quiet d.loose := by
  have nothing : ∀ wish, μ (.waiter wish .queued) = 0 ∧ μ (.waiter wish .granted) = 0 := by
    intro wish
    have queued := agrees (.waiter wish .queued) 0 [] []
    have granted := agrees (.waiter wish .granted) 0 [] []
    simp only [Holding.engaged, Holding.quiet, Holding.loose, List.nil_append, Nat.add_zero]
      at queued granted
    constructor <;> omega
  cases shuffle with
  | claimed isOpen some => rfl
  | @freed s =>
    rcases freeSlot_cases orderly with ⟨-, same⟩ | ⟨name, rest, wish, -, known, same⟩
    · rw [same]
    · have change := Table.total_insert_of_find? μ (.waiter wish .granted) known
      have none := nothing wish
      simp only [same, putOff, hold] at change ⊢
      omega
  | @put s n e o q l name thing fresh settled =>
    have change := Table.total_insert_of_none μ thing fresh
    have agreed := agrees thing e q l
    simp only [hold]
    omega
  | @lifted s n e o q l name thing known apart =>
    have change := Table.total_erase μ known
    have agreed := agrees thing e q l
    simp only [letGo]
    omega
  | @exchanged s n e o q l name old new known apart settled =>
    have change := Table.total_insert_of_find? μ new known
    have agreed := agrees new e q l
    have agreed' := agrees old e q l
    simp only [hold]
    omega
  | welcomed wish vacant fresh =>
    have change := Table.total_insert_of_none μ (.waiter wish .granted) fresh
    have none := nothing wish
    simp only [putOff, hold]
    omega
  | joined wish new fresh isOpen busy =>
    have change := Table.total_insert_of_none μ (.waiter wish .queued) fresh
    have none := nothing wish
    simp only [hold]
    omega
  | @left s n e o q l name wish known =>
    have change := Table.total_erase μ known
    have none := nothing wish
    simp only [letGo]
    omega
  | dismissed due => rfl

end Session
end Datastore
