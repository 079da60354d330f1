import Datastore.Proofs.Backend
import Datastore.Proofs.Session.Moves
import Mathlib.Logic.Relation

/-!
# Effects

A move is a chain of small effects, each of which takes up or puts down one slot, one handle or
one connection. In between, what is taken up is in hand. An invariant that counts what is in hand
needs to be checked for each effect only, and not for each command. The effects allow more chains
than there are moves; `Datastore.Proofs.Session.Decomposition` has a chain for each move.
-/

namespace Datastore

/-- A state in the middle of a move, with what is in hand. -/
structure Midway (σ : Type) where
  state : σ
  /-- Slots for which no connection was sought yet. -/
  slots : Nat
  /-- Slots with a connection, or with one being sought. -/
  engaged : Nat
  /-- Open handles that are not wrapped. -/
  opened : List Nat
  /-- Connections that no caller has had since they were made or at rest. -/
  quiet : List Connection
  loose : List Connection

namespace System

/-- Effects on the system. -/
inductive Effect : Midway System → Midway System → Prop
  | called {s n e o q l} (call : Call) (plain : call.isPlain = true) :
    Effect ⟨s, n, e, o, q, l⟩ ⟨{ s with backend := s.backend.record call }, n, e, o, q, l⟩
  | configured {s n e o q l} (b : Backend) (same : b.log = s.backend.log) :
    Effect ⟨s, n, e, o, q, l⟩ ⟨{ s with backend := b }, n, e, o, q, l⟩
  | waited {s n e o q l} (time : Duration) :
    Effect ⟨s, n, e, o, q, l⟩ ⟨{ s with clock := s.clock.add time }, n, e, o, q, l⟩
  | examined {s n e o q l} (c : Connection) (finding : Finding) :
    Effect ⟨s, n, e, o, q, l⟩ ⟨s.note (.examined c finding), n, e, o, q, l⟩
  | probed {s n e o q l} (c : Connection) :
    Effect ⟨s, n, e, o, q, l⟩ ⟨s.note (.probed c), n, e, o, q, l⟩
  | issued {s n e o q l} {c : Connection} (here : c ∈ q) :
    Effect ⟨s, n, e, o, q, l⟩ ⟨s.note (.issued c), n, e, o, q, l⟩
  | opened {s n e o q l} (dsn : String) :
    Effect ⟨s, n, e, o, q, l⟩
      ⟨{ s with backend := s.backend.record (.opened dsn) }, n, e,
        (s.backend.record (.opened dsn)).opens :: o, q, l⟩
  | wrapped {s n e o q l} (handle : Nat) (dialect : Dialect) :
    Effect ⟨s, n, e, handle :: o, q, l⟩
      ⟨(s.wrap handle dialect).2, n, e, o, (s.wrap handle dialect).1 :: q, l⟩
  | orphaned {s n e o q l} (handle : Nat) :
    Effect ⟨s, n, e, handle :: o, q, l⟩ ⟨s.note (.orphaned handle), n, e, o, q, l⟩
  | retired {s n e o q l} (c : Connection) :
    Effect ⟨s, n, e, o, q, c :: l⟩ ⟨(s.retire c).2, n, e, o, q, l⟩
  | forsaken {s n e o q l} (c : Connection) :
    Effect ⟨s, n, e, o, q, c :: l⟩ ⟨s.note (.forsaken c), n, e, o, q, l⟩
  | begun {s n e o q l} {c : Connection} (free : c.transaction = none) :
    Effect ⟨s, n, e, o, q, c :: l⟩
      ⟨{ s with backend := s.backend.record (.begun c.handle) }, n, e, o, q,
        { c with transaction := some (s.backend.record (.begun c.handle)).begins } :: l⟩
  | ended {s n e o q l} {c : Connection} {number : Nat} {call : Call}
      (active : c.transaction = some number) (ends : call.ends number) :
    Effect ⟨s, n, e, o, q, c :: l⟩
      ⟨{ s with backend := s.backend.record call }, n, e, o, q,
        { c with transaction := none } :: l⟩
  /-- A transaction that no connection knows of begins and ends. -/
  | passed {s n e o q l} (handle : Nat) {call : Call}
      (ends : call.ends (s.backend.record (.begun handle)).begins) :
    Effect ⟨s, n, e, o, q, l⟩
      ⟨{ s with backend := (s.backend.record (.begun handle)).record call }, n, e, o, q, l⟩
  | stamped {s n e o q l} (c : Connection) (at? : Option Duration) :
    Effect ⟨s, n, e, o, q, c :: l⟩ ⟨s, n, e, o, q, c.stamp at? :: l⟩
  /-- A slot is engaged with the longest idle connection. -/
  | taken {s n e o q l} {c : Connection} {rest : List Connection}
      (front : s.pool.idle = c :: rest) :
    Effect ⟨s, n + 1, e, o, q, l⟩
      ⟨{ s with pool := { s.pool with idle := rest } }.note (.taken c), n, e + 1, o, c :: q, l⟩
  /-- A slot is engaged and nobody is idle. -/
  | engaged {s n e o q l} (empty : s.pool.idle = []) :
    Effect ⟨s, n + 1, e, o, q, l⟩ ⟨s, n, e + 1, o, q, l⟩
  | disengaged {s n e o q l} : Effect ⟨s, n, e + 1, o, q, l⟩ ⟨s, n + 1, e, o, q, l⟩
  /-- A connection is no longer kept from callers. -/
  | loosened {s n e o q l} (c : Connection) : Effect ⟨s, n, e, o, c :: q, l⟩ ⟨s, n, e, o, q, c :: l⟩
  | withdrawn {s n e o q l} {c : Connection} {rest : List Connection}
      (front : s.pool.idle = c :: rest) :
    Effect ⟨s, n, e, o, q, l⟩
      ⟨{ s with pool := { s.pool with idle := rest } }.note (.withdrawn c), n, e, o, q, c :: l⟩
  /-- The connection of an engaged slot goes to rest. -/
  | returned {s n e o q l} {c : Connection} (isOpen : s.pool.closed = false)
      (free : c.transaction = none) :
    Effect ⟨s, n, e + 1, o, q, c :: l⟩
      ⟨s.enqueue (c.stamp (some s.clock)), n + 1, e, o, q, l⟩

/-- A chain of effects on the system. -/
abbrev Effects : Midway System → Midway System → Prop := Relation.ReflTransGen Effect

end System

/-- Slots without a connection. -/
def Holding.slots : Holding → Nat
  | .slot | .waiter _ .granted | .waiter _ (.finished (.ok .slot)) => 1
  | _ => 0

/-- Slots with a connection. -/
def Holding.engaged : Holding → Nat
  | .pooled _ | .waiter _ (.probing _) | .waiter _ (.finished (.ok (.connection _))) => 1
  | _ => 0

/-- Connections that were checked out, and not collected yet. -/
def Holding.quiet : Holding → List Connection
  | .waiter _ (.probing c) | .waiter _ (.finished (.ok (.connection c))) => [c]
  | _ => []

/-- Connections in the hands of the caller. -/
def Holding.loose : Holding → List Connection
  | .pooled c | .bare c => [c]
  | _ => []

/-- Waiting for a slot. -/
def Holding.isQueued : Holding → Bool
  | .waiter _ .queued => true
  | _ => false

/-- Neither waiting for a slot nor just given one. -/
def Holding.isSettled : Holding → Bool
  | .waiter _ .queued | .waiter _ .granted => false
  | _ => true

namespace Session

/-- Slots and things change hands, in a move that started in `origin`. -/
inductive Shuffle (origin : Session) : Midway Session → Midway Session → Prop
  | claimed {s n e o q l} (isOpen : s.pool.barred = false) (some : s.pool.free ≠ 0) :
    Shuffle origin ⟨s, n, e, o, q, l⟩ ⟨s.takeSlot, n + 1, e, o, q, l⟩
  | freed {s n e o q l} : Shuffle origin ⟨s, n + 1, e, o, q, l⟩ ⟨s.freeSlot, n, e, o, q, l⟩
  | put {s n e o q l} {name : String} (thing : Holding)
      (fresh : s.holdings.find? name = none) (settled : thing.isSettled = true) :
    Shuffle origin
      ⟨s, n + thing.slots, e + thing.engaged, o, thing.quiet ++ q, thing.loose ++ l⟩
      ⟨s.hold name thing, n, e, o, q, l⟩
  | lifted {s n e o q l} {name : String} {thing : Holding}
      (known : s.holdings.find? name = some thing) (apart : thing.isQueued = false) :
    Shuffle origin ⟨s, n, e, o, q, l⟩
      ⟨s.letGo name, n + thing.slots, e + thing.engaged, o, thing.quiet ++ q, thing.loose ++ l⟩
  | exchanged {s n e o q l} {name : String} {old : Holding} (new : Holding)
      (known : s.holdings.find? name = some old) (apart : old.isQueued = false)
      (settled : new.isSettled = true) :
    Shuffle origin
      ⟨s, n + new.slots, e + new.engaged, o, new.quiet ++ q, new.loose ++ l⟩
      ⟨s.hold name new, n + old.slots, e + old.engaged, o, old.quiet ++ q, old.loose ++ l⟩
  /-- A new waiter has a slot at once. -/
  | welcomed {s n e o q l} {name : String} (wish : Wish)
      (vacant : origin.pool.free ≠ 0) (fresh : s.holdings.find? name = none)
      (served : wish = .connection → s.provider ≠ none) :
    Shuffle origin ⟨s, n + 1, e, o, q, l⟩
      ⟨(s.hold name (.waiter wish .granted)).putOff (.resume name), n, e, o, q, l⟩
  /-- A new waiter gets in line. -/
  | joined {s n e o q l} {name : String} (wish : Wish)
      (new : origin.holdings.find? name = none) (fresh : s.holdings.find? name = none)
      (isOpen : s.pool.closed = false) (busy : s.pool.free = 0)
      (served : wish = .connection → s.provider ≠ none) :
    Shuffle origin ⟨s, n, e, o, q, l⟩
      ⟨{ s with pool := { s.pool with waiting := s.pool.waiting ++ [name] } }.hold name
        (.waiter wish .queued), n, e, o, q, l⟩
  /-- A waiter in line is given up. -/
  | left {s n e o q l} {name : String} {wish : Wish}
      (known : s.holdings.find? name = some (.waiter wish .queued)) :
    Shuffle origin ⟨s, n, e, o, q, l⟩
      ⟨{ s.letGo name with
          pool := { s.pool with waiting := s.pool.waiting.filter (· ≠ name) } },
        n, e, o, q, l⟩
  /-- The waiter went on, cannot go on, or is due once more. -/
  | dismissed {s n e o q l} {place : Nat} {name : String}
      (due : s.agenda[place]? = some (.resume name))
      (past : ∀ wish, s.holdings.find? name = some (.waiter wish .granted) →
        wish = .connection ∧ s.provider = none ∨ .resume name ∈ s.agenda.eraseIdx place) :
    Shuffle origin ⟨s, n, e, o, q, l⟩
      ⟨{ s with agenda := s.agenda.eraseIdx place }, n, e, o, q, l⟩

/-- Effects of a move that started in `origin`. -/
inductive Effect (origin : Session) (m : Move) : Midway Session → Midway Session → Prop
  | system {s n e o q l} {y : System} {n' e' : Nat} {o' : List Nat} {q' l' : List Connection}
      (effect : System.Effect ⟨s.toSystem, n, e, o, q, l⟩ ⟨y, n', e', o', q', l'⟩) :
    Effect origin m ⟨s, n, e, o, q, l⟩ ⟨s.withSystem y, n', e', o', q', l'⟩
  | shuffled {d d' : Midway Session} (shuffle : Shuffle origin d d') : Effect origin m d d'
  /-- The pool is closed. -/
  | shut {s n e o q l} :
    Effect origin m ⟨s, n, e, o, q, l⟩ ⟨s.closePool.2, n, e, o, q, s.pool.idle ++ l⟩
  | discarded {s n e o q l} (c : Connection) :
    Effect origin m ⟨s, n, e, o, q, c :: l⟩ ⟨s.putOff (.retire c), n, e, o, q, l⟩
  /-- A discarded connection is retired. -/
  | buried {s n e o q l} {place : Nat} {c : Connection}
      (due : s.agenda[place]? = some (.retire c)) :
    Effect origin m ⟨s, n, e, o, q, l⟩
      ⟨{ s with agenda := s.agenda.eraseIdx place }.withSystem (s.toSystem.retire c).2,
        n, e, o, q, l⟩
  /-- The caller puts a connection into the idle queue. -/
  | enqueued {s n e o q l} {name : String} {c : Connection}
      (asked : m = .command (.enqueue name)) (bare : origin.holdings.find? name = some (.bare c))
      (isOpen : s.pool.closed = false) :
    Effect origin m ⟨s, n, e, o, q, c :: l⟩
      ⟨s.withSystem (s.toSystem.enqueue c), n, e, o, q, l⟩
  /-- The caller closes a native handle behind the back of its connection. -/
  | severed {s n e o q l} {name : String} {c : Connection}
      (asked : m = .command (.nativeClose name)) (known : origin.connection? name = some c) :
    Effect origin m ⟨s, n, e, o, q, l⟩
      ⟨{ s with backend := (s.backend.close c.handle).2 }, n, e, o, q, l⟩

/-- A chain of effects of one move. -/
abbrev Effects (origin : Session) (m : Move) : Midway Session → Midway Session → Prop :=
  Relation.ReflTransGen (Effect origin m)

/-- A session between two moves: nothing is in hand. -/
def rest (s : Session) : Midway Session := ⟨s, 0, 0, [], [], []⟩

/-- A chain on the system is one on the session around it. -/
theorem effects_withSystem {origin s : Session} {m : Move} {y : System} {n e n' e' : Nat}
    {o o' : List Nat} {q l q' l' : List Connection}
    (chain : System.Effects ⟨s.toSystem, n, e, o, q, l⟩ ⟨y, n', e', o', q', l'⟩) :
    Effects origin m ⟨s, n, e, o, q, l⟩ ⟨s.withSystem y, n', e', o', q', l'⟩ := by
  generalize final : (⟨y, n', e', o', q', l'⟩ : Midway System) = d at chain
  induction chain generalizing y n' e' o' q' l' with
  | refl =>
    cases final
    exact .refl
  | @tail d d' _ effect ih =>
    subst final
    obtain ⟨z, n'', e'', o'', q'', l''⟩ := d
    exact (ih rfl).tail (.system effect)

end Session
end Datastore
