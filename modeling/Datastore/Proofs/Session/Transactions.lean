import Datastore.Proofs.Session.Register

/-!
# Transactions

Every transaction that began was ended by one native call, or is that of one connection, which may
be gone. Main statement: `Effect.accounted`.
-/

namespace Datastore

/-- A weight of transactions as one of the connections that have them. -/
def pending (g : Nat → Nat) (c : Connection) : Nat := (c.transaction.map g).getD 0

theorem pending_of_none {g : Nat → Nat} {c : Connection} (free : c.transaction = none) :
    pending g c = 0 := by
  rw [pending, free]
  rfl

theorem pending_of_some {g : Nat → Nat} {c : Connection} {number : Nat}
    (active : c.transaction = some number) : pending g c = g number := by
  rw [pending, active]
  rfl

theorem weigh_pending {g : Nat → Nat} {cs : List Connection}
    (calm : ∀ c ∈ cs, c.transaction = none) : weigh (pending g) cs = 0 :=
  weigh_eq_zero.mpr fun c here => pending_of_none (calm c here)

namespace System

theorem Turn.accounted {d d' : Midway System} (turn : Turn d d') (g : Nat → Nat) :
    tally (pending g) d' + Backend.endedWeight g d'.state.backend +
        Backend.begunWeight g d.state.backend =
      tally (pending g) d + Backend.endedWeight g d.state.backend +
        Backend.begunWeight g d'.state.backend := by
  cases turn with
  | @begun s n e o q l c free =>
    have none : (Call.begun c.handle).ended? = none := rfl
    have before := pending_of_none (g := g) free
    have after : pending g { c with
        transaction := some (s.backend.record (.begun c.handle)).begins } = _ :=
      pending_of_some rfl
    simp only [tally, weigh_cons, before, after, Backend.begunWeight_begun,
      Backend.endedWeight_record, none, Option.toList_none, weigh_nil]
    simp only [history]
    omega
  | @ended s n e o q l c number call active ends =>
    have last : call.ended? = some number := ends
    have before := pending_of_some (g := g) active
    have after : pending g { c with transaction := none } = 0 := pending_of_none rfl
    simp only [tally, weigh_cons, before, after, Backend.endedWeight_record, last,
      Backend.begunWeight_record g _ (Call.isBegun_of_ends ends), Option.toList_some,
      weigh_nil]
    simp only [history]
    omega

end System

namespace Session

/-- Every transaction is ended or pending. -/
def Accounted (d : Midway Session) : Prop :=
  ∀ g, tally (pending g) d + Backend.endedWeight g d.state.backend =
    Backend.begunWeight g d.state.backend

theorem Effect.accounted {origin : Session} {m : Move} {d d' : Midway Session}
    (effect : Effect origin m d d') (orderly : Orderly d.state)
    (registered : System.Registered (onSystem d)) (accounted : Accounted d) : Accounted d' := by
  intro g
  have now := accounted g
  rcases effect.ledger orderly with balanced | turn
  · have books := balanced.books (pending g) fun _ _ => rfl
    have calls := balanced.calls g
    have none : output (pending g) d = 0 := weigh_pending registered.calm
    have none' : output (pending g) d' = 0 :=
      weigh_pending (effect.registered registered).calm
    omega
  · have system := turn.system.accounted g
    simp only [tally, turn.holdings, doomed, turn.agenda] at now ⊢
    simp only [onSystem] at system now ⊢
    omega

theorem accounted_start {backend : Backend} (fresh : backend.log = []) (capacity : Nat)
    (provider : Option Provider) :
    Accounted (rest (start backend (Pool.ofCapacity capacity) provider)) := by
  intro g
  simp [tally, onSystem, System.tally, rest, start, System.start, System.history, doomed,
    Pool.ofCapacity, Backend.endedWeight, Backend.begunWeight, Backend.begins, fresh]

end Session
end Datastore
