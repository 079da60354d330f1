import Datastore.Proofs.Session.Departure
import Mathlib.Data.List.Nodup
import Mathlib.Data.List.Pairwise

/-!
# Handles

As long as callers do not close native handles themselves, no handle is ever lost, held twice or
closed twice: each one that was opened is in exactly one place. Main statement:
`handles_conserved`.
-/

namespace Datastore

/-- Where a handle can be. -/
inductive Place
  /-- In the idle queue. -/
  | idle
  /-- With a caller that has a slot for it. -/
  | guard
  /-- Behind a probe that never answers. -/
  | probe
  /-- With a caller, without a slot. -/
  | bare
  /-- About to be retired. -/
  | discarded
  | closed
  /-- Left open by a failed initial statement. -/
  | orphaned
  /-- Let go of without being closed. -/
  | dropped
deriving DecidableEq

def Place.all : List Place :=
  [.idle, .guard, .probe, .bare, .discarded, .closed, .orphaned, .dropped]

theorem Place.mem_all (place : Place) : place ∈ Place.all := by
  cases place <;> simp [Place.all]

namespace Session

def handlesAt (s : Session) : Place → List Nat
  | .idle => s.pool.idle.map Connection.handle
  | .guard => (s.held Holding.guarded).map Connection.handle
  | .probe => (s.held Holding.probed).map Connection.handle
  | .bare => (s.held Holding.bared).map Connection.handle
  | .discarded => s.doomed.map Connection.handle
  | .closed => s.backend.closedHandles
  | .orphaned => s.history Movement.orphaned?
  | .dropped => (s.history Movement.forsaken?).map Connection.handle

/-- Every retirement closed a handle, also in the middle of a move. -/
structure Kept (d : Midway Session) : Prop where
  sound : Sound d
  closings : d.state.backend.closedHandles =
    (d.state.history Movement.retired?).map Connection.handle

/-- No handle was wrapped twice. -/
theorem Kept.output_le {d : Midway Session} (kept : Kept d) (handle : Nat) :
    output (tagged Connection.handle handle) d ≤ 1 := by
  have perm := kept.sound.registered.handles
  have distinct : (List.range' 1 d.state.backend.opens).Nodup := List.nodup_range'
  have once := List.nodup_iff_count.mp (perm.nodup_iff.mpr distinct) handle
  simp only [onSystem, List.count_append] at once
  rw [output, weigh_tagged]
  omega

/-- A connection in hand or about to be retired has an open handle. -/
theorem Kept.isOpen {d : Midway Session} (kept : Kept d) {c : Connection}
    (held : c ∈ d.loose ∨ c ∈ d.state.doomed) : d.state.backend.isClosed c.handle = false := by
  have even := kept.sound.books _ (steady_handle c.handle)
  have bound := kept.output_le c.handle
  have self := tagged_self Connection.handle c
  have weight : 1 ≤ weigh (tagged Connection.handle c.handle) d.loose +
      weigh (tagged Connection.handle c.handle) d.state.doomed := by
    rcases held with here | here
    · have less := le_weigh (tagged Connection.handle c.handle) here
      omega
    · have less := le_weigh (tagged Connection.handle c.handle) here
      omega
  -- The handle was wrapped once, so no connection with it was retired.
  have none : weigh (tagged Connection.handle c.handle)
      (d.state.history Movement.retired?) = 0 := by
    have split := weigh_gone (tagged Connection.handle c.handle) d.state.toSystem
    simp only [tally, onSystem, System.tally] at even
    omega
  rw [weigh_tagged, ← kept.closings] at none
  rw [← Bool.not_eq_true, Backend.isClosed_iff]
  exact List.count_eq_zero.mp none

theorem Effect.kept {origin : Session} {m : Move} {d d' : Midway Session}
    (effect : Effect origin m d d') (spares : ∀ name, m ≠ .command (.nativeClose name))
    (orderly : Orderly d.state) (kept : Kept d) : Kept d' := by
  refine ⟨effect.sound orderly kept.sound, ?_⟩
  rcases effect.closing with ⟨closed, retired⟩ | ⟨c, held, closed, retired⟩ | ⟨name, c, asked, -⟩
  · rw [closed, retired]
    exact kept.closings
  · have isOpen := kept.isOpen held
    rw [closed, retired, Backend.closedWith, if_neg (by simp [isOpen]), kept.closings]
    simp
  · exact absurd asked (spares name)

theorem kept_start {backend : Backend} (fresh : backend.log = []) (capacity : Nat)
    (provider : Option Provider) :
    Kept (rest (start backend (Pool.ofCapacity capacity) provider)) where
  sound := sound_start fresh capacity provider
  closings := by
    simp [rest, start, System.start, System.history, Backend.closedHandles, fresh]

/-- Callers close no native handle behind the back of its connection. -/
def sparesHandles (_ : Session) : Move → Bool
  | .command (.nativeClose _) => false
  | _ => true

theorem kept_after {backend : Backend} (fresh : backend.log = []) (capacity : Nat)
    (provider : Option Provider) {moves : List Move}
    (admitted : Admitted sparesHandles (start backend (Pool.ofCapacity capacity) provider) moves) :
    Kept (rest ((start backend (Pool.ofCapacity capacity) provider).after moves)) :=
  admitted.sustains
    (fun _ _ allowed _ _ effect there now => effect.kept (by rintro name rfl; cases allowed) there now)
    (orderly_start backend capacity provider) (kept_start fresh capacity provider)

/-- Every handle that was opened is accounted for. -/
structure Conserved (s : Session) : Prop where
  /-- All places together have every handle once, and no other handle. -/
  everywhere : (Place.all.flatMap s.handlesAt).Perm (List.range' 1 s.backend.opens)
  once : ∀ handle, 1 ≤ handle → handle ≤ s.backend.opens → ∃! place, handle ∈ s.handlesAt place
  handles : (s.live.map Connection.handle).Nodup
  ids : (s.live.map Connection.id).Nodup
  isOpen : ∀ c ∈ s.live, s.backend.isClosed c.handle = false
  /-- No retirement found its handle closed. -/
  closings : s.backend.closedHandles = (s.history Movement.retired?).map Connection.handle
  closeNow : ∀ name c, s.connection? name = some c → (s.obey (.closeNow name)).1 = .done
  opens : s.backend.opens = s.backend.closes +
    weigh (fun place => (s.handlesAt place).length) (Place.all.filter (· ≠ .closed))

theorem count_places (s : Session) (handle : Nat) :
    (Place.all.flatMap s.handlesAt).count handle =
      weigh (tagged Connection.handle handle) s.live + s.backend.closedHandles.count handle +
        (s.history Movement.orphaned?).count handle +
        weigh (tagged Connection.handle handle) (s.history Movement.forsaken?) := by
  simp only [Place.all, List.flatMap_cons, List.flatMap_nil, List.append_nil, List.count_append,
    handlesAt, live, circulating, weigh_append, weigh_tagged]
  omega

theorem Kept.everywhere {s : Session} (kept : Kept (rest s)) :
    (Place.all.flatMap s.handlesAt).Perm (List.range' 1 s.backend.opens) := by
  have perm := kept.sound.registered.handles
  refine List.Perm.trans ?_ perm
  rw [List.perm_iff_count]
  intro handle
  have even := kept.sound.books _ (steady_handle handle)
  have split := weigh_gone (tagged Connection.handle handle) s.toSystem
  have closings : s.backend.closedHandles = _ := kept.closings
  have made : output (tagged Connection.handle handle) (rest s) =
    ((s.history Movement.made?).map Connection.handle).count handle := weigh_tagged ..
  rw [tally_rest] at even
  rw [count_places, closings, ← weigh_tagged]
  simp only [onSystem, rest, List.nil_append, List.count_append]
  simp only [rest] at made even ⊢
  omega

theorem closeNow_done {s : Session} {name : String} {c : Connection}
    (known : s.connection? name = some c) (isOpen : s.backend.isClosed c.handle = false) :
    (s.obey (.closeNow name)).1 = .done := by
  have closes := Backend.retire_ok isOpen
  rcases find?_of_connection? known with pooled | bare
  · simp [obey, Command.newName?, carryOut, withHolding, pooled, closeNow, System.retire, closes]
  · simp [obey, Command.newName?, carryOut, withHolding, bare, closeNow, System.retire, closes,
      answerOf, Except.mapError]

theorem Kept.conserved {s : Session} (kept : Kept (rest s)) : Conserved s := by
  have everywhere := kept.everywhere
  have distinct : (Place.all.flatMap s.handlesAt).Nodup :=
    everywhere.nodup_iff.mpr List.nodup_range'
  have split : Place.all.flatMap s.handlesAt = s.live.map Connection.handle ++
      (s.backend.closedHandles ++ s.history Movement.orphaned? ++
        (s.history Movement.forsaken?).map Connection.handle) := by
    simp [Place.all, handlesAt, live, circulating]
  have apart := distinct
  rw [split, List.nodup_append] at apart
  have isOpen : ∀ c ∈ s.live, s.backend.isClosed c.handle = false := by
    intro c here
    rw [← Bool.not_eq_true, Backend.isClosed_iff]
    intro closed
    exact apart.2.2 c.handle (List.mem_map_of_mem here) c.handle (by simp [closed]) rfl
  refine ⟨everywhere, ?_, apart.1, kept.sound.ids_nodup, isOpen, kept.closings, ?_, ?_⟩
  · intro handle first last
    have listed : handle ∈ List.range' 1 s.backend.opens := by
      rw [List.mem_range'_1]
      omega
    obtain ⟨place, -, here⟩ := List.mem_flatMap.mp (everywhere.mem_iff.mpr listed)
    refine ⟨place, here, ?_⟩
    intro other there
    by_contra different
    have symmetric : Std.Symm (Function.onFun List.Disjoint s.handlesAt) :=
      ⟨fun _ _ disjoint _ here there => disjoint there here⟩
    have disjoint := (List.nodup_flatMap.mp distinct).2.forall other.mem_all place.mem_all different
    exact disjoint there here
  · intro name c known
    exact closeNow_done known (isOpen c (mem_live_of_connection? known))
  · have length := everywhere.length_eq
    rw [List.length_range'] at length
    rw [← length]
    simp [Place.all, handlesAt, Backend.closes]
    omega

/-- Every handle that was opened is in exactly one place after every run; and once all work is
done, none is about to be retired. -/
theorem handles_conserved {backend : Backend} (fresh : backend.log = []) (capacity : Nat)
    (provider : Option Provider) {moves : List Move}
    (admitted : Admitted sparesHandles (start backend (Pool.ofCapacity capacity) provider) moves) :
    let s := (start backend (Pool.ofCapacity capacity) provider).after moves
    Conserved s ∧ Conserved s.settle ∧ s.settle.handlesAt .discarded = [] := by
  intro s
  obtain ⟨more, admitted', settled⟩ := admitted.settled fun _ _ => rfl
  refine ⟨(kept_after fresh capacity provider admitted).conserved, ?_, ?_⟩
  · rw [show s.settle = _ from settled]
    exact (kept_after fresh capacity provider admitted').conserved
  · simp [handlesAt, doomed, agenda_settle]

/-- A guard is dropped in a transaction, and an idle connection fails its probe and is replaced. -/
theorem handles_conserved_dropped :
    let p : Provider := ⟨.ofEndpoint "mock" "db", .single "mock" (), .empty, .none⟩
    let moves : List Move := [.command (.get "a"), .command (.beginTransaction "a"),
      .command (.get "b"), .command (.release "b"), .command (.drop "a"),
      .command (.advance (Duration.ofParts 61 0)), .command (.setFault .pings true),
      .command (.get "c")]
    let s := (start .fresh (.ofCapacity 2) (some p)).after moves
    Backend.fresh.log = [] ∧ Admitted sparesHandles (start .fresh (.ofCapacity 2) (some p)) moves ∧
      Conserved s ∧ Conserved s.settle ∧ s.settle.handlesAt .discarded = [] ∧
      s.handlesAt .discarded = [1] ∧ s.handlesAt .closed = [2] ∧ s.handlesAt .guard = [3] ∧
      s.settle.handlesAt .closed = [2, 1] := by
  intro p moves s
  have admitted : Admitted sparesHandles (start .fresh (.ofCapacity 2) (some p)) moves :=
    ⟨rfl, rfl, rfl, rfl, rfl, rfl, rfl, rfl, trivial⟩
  obtain ⟨now, later, settled⟩ := handles_conserved rfl 2 (some p) admitted
  exact ⟨rfl, admitted, now, later, settled, by decide +kernel, by decide +kernel,
    by decide +kernel, by decide +kernel⟩

end Session
end Datastore
