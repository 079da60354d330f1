import Datastore.Proofs.Session.Balance

/-!
# The ledger of connections

Every connection that was made is at rest, held, in hand, about to be retired, or gone: retired or
dropped for good. A weight of connections that does not see stamps has the same sum on both sides,
unless a transaction begins or ends on a connection in hand. Main statement: `Effect.ledger`.
-/

namespace Datastore

namespace Movement

/-- The connection that is new. -/
def made? : Movement → Option Connection
  | .made c => some c
  | _ => none

/-- The connection that will not be seen again. -/
def gone? : Movement → Option Connection
  | .retired c | .forsaken c => some c
  | _ => none

end Movement

/-- It does not see when a connection was given back. -/
def Blind (ν : Connection → Nat) : Prop := ∀ c at?, ν (c.stamp at?) = ν c

namespace System

/-- What the journal says of one matter, oldest first. -/
def history {α : Type} (s : System) (matter : Movement → Option α) : List α :=
  s.journal.filterMap fun entry => matter entry.2

theorem history_note {α : Type} (s : System) (matter : Movement → Option α)
    (movement : Movement) :
    (s.note movement).history matter = s.history matter ++ (matter movement).toList := by
  simp only [history, note, List.filterMap_append, List.filterMap_cons, List.filterMap_nil]
  cases matter movement <;> rfl

theorem history_wrap {α : Type} (s : System) (matter : Movement → Option α) (handle : Nat)
    (dialect : Dialect) :
    (s.wrap handle dialect).2.history matter =
      s.history matter ++ (matter (.made (s.wrap handle dialect).1)).toList :=
  history_note { s with made := s.made + 1 } matter _

theorem history_retire {α : Type} (s : System) (matter : Movement → Option α) (c : Connection) :
    (s.retire c).2.history matter = s.history matter ++ (matter (.retired c)).toList :=
  history_note { s with backend := (c.retire s.backend).2 } matter _

theorem history_enqueue {α : Type} (s : System) (matter : Movement → Option α) (c : Connection) :
    (s.enqueue c).history matter = s.history matter ++ (matter (.entered c)).toList :=
  history_note { s with pool := s.pool.enqueue c } matter _

/-- The weight of all connections in the system, gone ones included. -/
def tally (ν : Connection → Nat) (d : Midway System) : Nat :=
  weigh ν d.state.pool.idle + weigh ν d.quiet + weigh ν d.loose +
    weigh ν (d.state.history Movement.gone?)

/-- A transaction begins or ends on a connection in hand; all else stays where it is. -/
inductive Turn : Midway System → Midway System → Prop
  | begun {s n e o q l} {c : Connection} (free : c.transaction = none) :
    Turn ⟨s, n, e, o, q, c :: l⟩
      ⟨{ s with backend := s.backend.record (.begun c.handle) }, n, e, o, q,
        { c with transaction := some (s.backend.record (.begun c.handle)).begins } :: l⟩
  | ended {s n e o q l} {c : Connection} {number : Nat} {call : Call}
      (active : c.transaction = some number) (ends : call.ends number) :
    Turn ⟨s, n, e, o, q, c :: l⟩
      ⟨{ s with backend := s.backend.record call }, n, e, o, q,
        { c with transaction := none } :: l⟩

/-- The weights of connections and the transactions in the log add up as before. -/
structure Balanced (d d' : Midway System) : Prop where
  books : ∀ ν, Blind ν →
    tally ν d' + weigh ν (d.state.history Movement.made?) =
      tally ν d + weigh ν (d'.state.history Movement.made?)
  calls : d.state.backend.Balanced d'.state.backend

theorem Effect.ledger {d d' : Midway System} (effect : Effect d d') :
    Balanced d d' ∨ Turn d d' := by
  cases effect with
  | begun free => exact Or.inr (.begun free)
  | ended active ends => exact Or.inr (.ended active ends)
  | called call plain =>
    left
    exact ⟨fun _ _ => rfl, Backend.balanced_record _ (Call.isBegun_of_plain plain)
      (Call.ended?_of_plain plain)⟩
  | opened dsn =>
    left
    exact ⟨fun _ _ => rfl, Backend.balanced_record _ rfl rfl⟩
  | configured b same =>
    left
    exact ⟨fun _ _ => rfl, Backend.balanced_of_log same⟩
  | passed handle ends =>
    left
    exact ⟨fun _ _ => rfl, Backend.balanced_passed _ handle ends⟩
  | waited | engaged | disengaged =>
    left
    exact ⟨fun _ _ => rfl, Backend.Balanced.refl _⟩
  | examined | probed | issued | orphaned =>
    left
    refine ⟨fun ν blind => ?_, Backend.Balanced.refl _⟩
    simp [tally, history_note, Movement.gone?, Movement.made?]
  | wrapped handle dialect =>
    left
    refine ⟨fun ν blind => ?_, Backend.Balanced.refl _⟩
    simp [tally, history_wrap, Movement.gone?, Movement.made?]
    omega
  | retired c =>
    left
    refine ⟨fun ν blind => ?_, Backend.balanced_retire _ c⟩
    simp [tally, history_retire, Movement.gone?, Movement.made?]
    omega
  | forsaken c =>
    left
    refine ⟨fun ν blind => ?_, Backend.Balanced.refl _⟩
    simp [tally, history_note, Movement.gone?, Movement.made?]
    omega
  | stamped c at? =>
    left
    refine ⟨fun ν blind => ?_, Backend.Balanced.refl _⟩
    simp [tally, blind c at?]
  | taken front | withdrawn front =>
    left
    refine ⟨fun ν blind => ?_, Backend.Balanced.refl _⟩
    simp [tally, history, note, front, Movement.gone?, Movement.made?]
    omega
  | loosened c =>
    left
    refine ⟨fun ν blind => ?_, Backend.Balanced.refl _⟩
    simp [tally]
    omega
  | @returned s n e o q l c isOpen free =>
    left
    refine ⟨fun ν blind => ?_, Backend.Balanced.refl _⟩
    have same := blind c (some s.clock)
    simp [tally, history_enqueue, Movement.gone?, Movement.made?]
    simp [enqueue, Pool.enqueue, same]
    omega

theorem history_close {α : Type} (s : System) {matter : Movement → Option α}
    (unmoved : ∀ c, matter (.drained c) = none) : s.close.2.history matter = s.history matter := by
  rw [close_eq]
  simp [history, List.filterMap_map, unmoved]

end System

/-- The weight of the connections of a holding. -/
def Holding.cargo (ν : Connection → Nat) (t : Holding) : Nat := weigh ν t.quiet + weigh ν t.loose

namespace Session

/-- The part of a state in the middle of a move that concerns the system. -/
def onSystem (d : Midway Session) : Midway System :=
  ⟨d.state.toSystem, d.slots, d.engaged, d.opened, d.quiet, d.loose⟩

/-- The weight of all connections, gone ones included. -/
def tally (ν : Connection → Nat) (d : Midway Session) : Nat :=
  System.tally ν (onSystem d) + d.state.holdings.total (Holding.cargo ν) + weigh ν d.state.doomed

/-- The weight of all connections that were made, as they were then. -/
def output (ν : Connection → Nat) (d : Midway Session) : Nat :=
  weigh ν (d.state.history Movement.made?)

variable {ν : Connection → Nat}

theorem agrees_cargo : Agrees (Holding.cargo ν) fun _ q l => weigh ν q + weigh ν l := by
  intro t e q l
  simp only [weigh_append, Holding.cargo]
  omega

theorem weigh_doomed_eraseIdx {agenda : List Task} {place : Nat} {c : Connection}
    (due : agenda[place]? = some (.retire c)) :
    weigh ν ((agenda.eraseIdx place).filterMap Task.doomed?) + ν c =
      weigh ν (agenda.filterMap Task.doomed?) := by
  induction agenda generalizing place with
  | nil => simp at due
  | cons task rest ih =>
    cases place with
    | zero =>
      obtain rfl : task = .retire c := Option.some.inj due
      simp [Task.doomed?]
      omega
    | succ place =>
      have next : rest[place]? = some (.retire c) := due
      have later := ih next
      cases task with
      | retire c' =>
        simp only [List.eraseIdx_cons_succ, List.filterMap_cons, Task.doomed?, weigh_cons]
        omega
      | resume name =>
        simpa only [List.eraseIdx_cons_succ, List.filterMap_cons, Task.doomed?] using later

/-- The weights of connections and the transactions in the log add up as before. -/
structure Balanced (d d' : Midway Session) : Prop where
  books : ∀ ν, Blind ν → tally ν d' + output ν d = tally ν d + output ν d'
  calls : d.state.backend.Balanced d'.state.backend

/-- A transaction begins or ends on a connection in hand. -/
structure Turn (d d' : Midway Session) : Prop where
  system : System.Turn (onSystem d) (onSystem d')
  holdings : d'.state.holdings = d.state.holdings
  agenda : d'.state.agenda = d.state.agenda

/-- The books are balanced, unless a transaction begins or ends. -/
theorem Effect.ledger {origin : Session} {m : Move} {d d' : Midway Session}
    (effect : Effect origin m d d') (orderly : Orderly d.state) : Balanced d d' ∨ Turn d d' := by
  cases effect with
  | system effect =>
    rcases effect.ledger with even | turn
    · left
      refine ⟨fun ν blind => ?_, even.calls⟩
      have books := even.books ν blind
      simp only [tally, output, onSystem, withSystem, doomed] at books ⊢
      omega
    · exact Or.inr ⟨turn, rfl, rfl⟩
  | shuffled shuffle =>
    left
    have same := shuffle.untouched
    refine ⟨fun ν blind => ?_, Backend.balanced_of_log (congrArg Backend.log same.backend)⟩
    have balance := shuffle.balance (agrees_cargo (ν := ν)) orderly
    simp only [tally, output, onSystem, System.tally, System.history, same.idle, same.journal,
      same.doomed]
    omega
  | @shut s =>
    left
    obtain ⟨t, same, -, -, total⟩ := closePool_spec orderly
    have gone : s.toSystem.close.2.history Movement.gone? = s.history Movement.gone? :=
      System.history_close _ fun _ => rfl
    have made : s.toSystem.close.2.history Movement.made? = s.history Movement.made? :=
      System.history_close _ fun _ => rfl
    refine ⟨fun ν blind => ?_, ?_⟩
    · have kept := total (Holding.cargo ν) fun _ => rfl
      rw [same]
      simp only [tally, output, onSystem, System.tally, withSystem, doomed, kept, gone, made,
        weigh_append]
      simp only [System.close_eq, weigh_nil]
      omega
    · rw [same, System.close_eq]
      exact Backend.Balanced.refl _
  | discarded c =>
    left
    refine ⟨fun ν blind => ?_, Backend.Balanced.refl _⟩
    simp [tally, output, onSystem, System.tally, putOff, doomed, Task.doomed?]
    omega
  | @buried s n e o q l place c due =>
    left
    refine ⟨fun ν blind => ?_, Backend.balanced_retire _ c⟩
    have less := weigh_doomed_eraseIdx (ν := ν) due
    simp [tally, output, onSystem, System.tally, withSystem, doomed, System.history_retire,
      Movement.gone?, Movement.made?]
    omega
  | @enqueued s n e o q l name c asked bare isOpen =>
    left
    refine ⟨fun ν blind => ?_, Backend.Balanced.refl _⟩
    simp [tally, output, onSystem, System.tally, withSystem, doomed, System.history_enqueue,
      Movement.gone?, Movement.made?]
    simp [System.enqueue, Pool.enqueue, System.note]
    omega
  | severed asked known =>
    left
    exact ⟨fun _ _ => rfl, Backend.balanced_close _ _⟩

/-- It does not see transactions either. -/
structure Steady (ν : Connection → Nat) : Prop where
  blind : Blind ν
  still : ∀ c transaction, ν { c with transaction } = ν c

theorem Turn.steady {d d' : Midway Session} (turn : Turn d d') (steady : Steady ν) :
    tally ν d' = tally ν d ∧ output ν d' = output ν d := by
  have same : System.tally ν (onSystem d') = System.tally ν (onSystem d) ∧
      (onSystem d').state.history Movement.made? = (onSystem d).state.history Movement.made? := by
    have system := turn.system
    generalize onSystem d = y at system
    generalize onSystem d' = y' at system
    cases system with
    | begun free => simp [System.tally, System.history, steady.still]
    | ended active ends => simp [System.tally, System.history, steady.still]
  refine ⟨?_, congrArg (weigh ν) same.2⟩
  simp only [tally, turn.holdings, doomed, turn.agenda, same.1]

/-- Whatever happens, the books of a steady weight are balanced. -/
theorem Effect.steady {origin : Session} {m : Move} {d d' : Midway Session}
    (effect : Effect origin m d d') (orderly : Orderly d.state) (steady : Steady ν)
    (even : tally ν d = output ν d) : tally ν d' = output ν d' := by
  rcases effect.ledger orderly with balanced | turn
  · have kept := balanced.books ν steady.blind
    omega
  · obtain ⟨tallied, made⟩ := turn.steady steady
    omega

end Session
end Datastore
