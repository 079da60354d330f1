import Datastore.Proofs.Session.Ledger

/-!
# Numbers of handles and connections

Every handle that was opened is in hand, was wrapped by one connection or was left open, and every
connection has a number of its own. A handle is closed when a connection with it is retired, or
behind its back; never twice. Main statements: `Effect.registered`, `Effect.closing`.
-/

namespace Datastore

namespace Movement

/-- The handle that nobody holds. -/
def orphaned? : Movement → Option Nat
  | .orphaned handle => some handle
  | _ => none

def retired? : Movement → Option Connection
  | .retired c => some c
  | _ => none

/-- The connection that was dropped with its handle open. -/
def forsaken? : Movement → Option Connection
  | .forsaken c => some c
  | _ => none

end Movement

theorem weigh_gone (ν : Connection → Nat) (s : System) :
    weigh ν (s.history Movement.gone?) =
      weigh ν (s.history Movement.retired?) + weigh ν (s.history Movement.forsaken?) := by
  unfold System.history
  induction s.journal with
  | nil => rfl
  | cons entry rest ih =>
    obtain ⟨time, movement⟩ := entry
    cases movement <;>
      simp [Movement.gone?, Movement.retired?, Movement.forsaken?] at ih ⊢ <;> omega

namespace System

/-- Handles and connections are numbered from one, and nothing has two numbers. -/
structure Registered (d : Midway System) : Prop where
  handles : (d.opened ++ (d.state.history Movement.made?).map Connection.handle ++
    d.state.history Movement.orphaned?).Perm (List.range' 1 d.state.backend.opens)
  ids : (d.state.history Movement.made?).map Connection.id = List.range' 1 d.state.made
  calm : ∀ c ∈ d.state.history Movement.made?, c.transaction = none

/-- What the register reads is the same. -/
theorem Registered.of_same {d d' : Midway System} (registered : Registered d)
    (opened : d'.opened = d.opened) (opens : d'.state.backend.opens = d.state.backend.opens)
    (number : d'.state.made = d.state.made)
    (made : d'.state.history Movement.made? = d.state.history Movement.made?)
    (orphaned : d'.state.history Movement.orphaned? = d.state.history Movement.orphaned?) :
    Registered d' where
  handles := by
    rw [opened, opens, made, orphaned]
    exact registered.handles
  ids := by
    rw [number, made]
    exact registered.ids
  calm := by
    rw [made]
    exact registered.calm

theorem Effect.registered {d d' : Midway System} (effect : Effect d d')
    (registered : Registered d) : Registered d' := by
  cases effect with
  | @opened s n e o q l dsn =>
    have handles := registered.handles
    refine ⟨?_, registered.ids, registered.calm⟩
    simp only [Backend.opens_record, Call.isOpened, Bool.toNat_true] at handles ⊢
    rw [List.range'_1_concat, Nat.add_comm 1]
    exact (handles.cons _).trans (List.perm_append_singleton _ _).symm
  | @wrapped s n e o q l handle dialect =>
    have handles := registered.handles
    have ids := registered.ids
    have handle' : (s.wrap handle dialect).1.handle = handle := rfl
    refine ⟨?_, ?_, ?_⟩
    · simp only [history_wrap, Movement.made?, Movement.orphaned?, Option.toList_some,
        Option.toList_none, List.map_append, List.map_cons, List.map_nil, List.append_nil, handle']
      refine List.Perm.trans ?_ handles
      rw [List.perm_iff_count]
      intro a
      simp only [List.count_append, List.count_cons, List.count_nil]
      omega
    · simp only [history_wrap, Movement.made?, Option.toList_some, List.map_append, ids]
      rw [show (s.wrap handle dialect).2.made = s.made + 1 from rfl, List.range'_1_concat,
        Nat.add_comm 1]
      rfl
    · intro c new
      simp only [history_wrap, Movement.made?, Option.toList_some, List.mem_append,
        List.mem_singleton] at new
      rcases new with old | rfl
      · exact registered.calm c old
      · rfl
  | @orphaned s n e o q l handle =>
    refine ⟨?_, ?_, ?_⟩
    · simp only [history_note, Movement.made?, Movement.orphaned?, Option.toList_some,
        Option.toList_none, List.append_nil]
      refine List.Perm.trans ?_ registered.handles
      rw [List.perm_iff_count]
      intro a
      simp only [List.count_append, List.count_cons, List.count_nil]
      omega
    · have ids : _ = List.range' 1 (s.note (.orphaned handle)).made := registered.ids
      simpa [history_note, Movement.made?] using ids
    · simpa [history_note, Movement.made?] using registered.calm
  | called call plain =>
    exact registered.of_same rfl (by simp [Call.isOpened_of_plain plain]) rfl rfl rfl
  | configured b same =>
    exact registered.of_same rfl (by simp [Backend.opens, same]) rfl rfl rfl
  | begun free => exact registered.of_same rfl (by simp [Call.isOpened]) rfl rfl rfl
  | ended active ends =>
    exact registered.of_same rfl (by simp [Call.isOpened_of_ends ends]) rfl rfl rfl
  | passed handle ends =>
    have begun : (Call.begun handle).isOpened = false := rfl
    exact registered.of_same rfl (by simp [Call.isOpened_of_ends ends, begun]) rfl rfl rfl
  | retired c =>
    exact registered.of_same rfl (Backend.opens_retire _ c) rfl
      (by simp [history_retire, Movement.made?]) (by simp [history_retire, Movement.orphaned?])
  | returned =>
    exact registered.of_same rfl rfl rfl (by simp [history_enqueue, Movement.made?])
      (by simp [history_enqueue, Movement.orphaned?])
  | taken | withdrawn =>
    exact registered.of_same rfl rfl rfl (by simp [history, note, Movement.made?])
      (by simp [history, note, Movement.orphaned?])
  | examined | probed | issued | forsaken =>
    exact registered.of_same rfl rfl rfl (by simp [history_note, Movement.made?])
      (by simp [history_note, Movement.orphaned?])
  | waited | stamped | engaged | disengaged | loosened =>
    exact registered.of_same rfl rfl rfl rfl rfl

/-- Only retiring a connection in hand closes a handle. -/
theorem Effect.closing {d d' : Midway System} (effect : Effect d d') :
    d'.state.backend.closedHandles = d.state.backend.closedHandles ∧
        d'.state.history Movement.retired? = d.state.history Movement.retired? ∨
      ∃ c ∈ d.loose, d'.state.backend.closedHandles = d.state.backend.closedWith c.handle ∧
        d'.state.history Movement.retired? = d.state.history Movement.retired? ++ [c] := by
  cases effect with
  | retired c =>
    right
    exact ⟨c, List.mem_cons_self .., Backend.closedHandles_retire _ c,
      by simp [history_retire, Movement.retired?]⟩
  | called call plain =>
    left
    exact ⟨by simp [Call.closed?_of_plain plain], rfl⟩
  | configured b same =>
    left
    exact ⟨by simp [Backend.closedHandles, same], rfl⟩
  | ended active ends =>
    left
    exact ⟨by simp [Call.closed?_of_ends ends], rfl⟩
  | passed handle ends =>
    left
    have begun : (Call.begun handle).closed? = none := rfl
    exact ⟨by simp [Call.closed?_of_ends ends, begun], rfl⟩
  | begun | opened =>
    left
    exact ⟨by simp [Call.closed?], rfl⟩
  | wrapped =>
    left
    exact ⟨rfl, by simp [history_wrap, Movement.retired?]⟩
  | returned =>
    left
    exact ⟨rfl, by simp [history_enqueue, Movement.retired?]⟩
  | taken | withdrawn =>
    left
    exact ⟨rfl, by simp [history, note, Movement.retired?]⟩
  | examined | probed | issued | orphaned | forsaken =>
    left
    exact ⟨rfl, by simp [history_note, Movement.retired?]⟩
  | waited | stamped | engaged | disengaged | loosened => exact Or.inl ⟨rfl, rfl⟩

end System

namespace Session

theorem Effect.registered {origin : Session} {m : Move} {d d' : Midway Session}
    (effect : Effect origin m d d') (registered : System.Registered (onSystem d)) :
    System.Registered (onSystem d') := by
  cases effect with
  | system effect => exact effect.registered registered
  | shuffled shuffle =>
    have same := shuffle.untouched
    exact registered.of_same same.opened (congrArg Backend.opens same.backend) same.made
      (congrArg (List.filterMap _) same.journal) (congrArg (List.filterMap _) same.journal)
  | @shut s n e o q l =>
    have kept : System.Registered ⟨s.toSystem.close.2, n, e, o, q, s.pool.idle ++ l⟩ :=
      registered.of_same rfl (by rw [System.close_eq]; rfl) (by rw [System.close_eq]; rfl)
        (System.history_close _ fun _ => rfl) (System.history_close _ fun _ => rfl)
    rw [← toSystem_closePool] at kept
    exact kept
  | discarded c => exact registered.of_same rfl rfl rfl rfl rfl
  | buried due =>
    exact registered.of_same rfl (Backend.opens_retire _ _) rfl
      (by simp [onSystem, withSystem, System.history_retire, Movement.made?])
      (by simp [onSystem, withSystem, System.history_retire, Movement.orphaned?])
  | enqueued asked bare isOpen =>
    exact registered.of_same rfl rfl rfl
      (by simp [onSystem, withSystem, System.history_enqueue, Movement.made?])
      (by simp [onSystem, withSystem, System.history_enqueue, Movement.orphaned?])
  | severed asked known => exact registered.of_same rfl (Backend.opens_close _ _) rfl rfl rfl

theorem registered_start {backend : Backend} (fresh : backend.log = []) (capacity : Nat)
    (provider : Option Provider) :
    System.Registered (onSystem (rest (start backend (Pool.ofCapacity capacity) provider))) where
  handles := by
    simp [onSystem, rest, start, System.start, System.history, Backend.opens, fresh]
  ids := rfl
  calm := by simp [onSystem, rest, start, System.start, System.history]

/-- Handles are closed by retiring a connection in hand or a discarded one, or by the caller. -/
theorem Effect.closing {origin : Session} {m : Move} {d d' : Midway Session}
    (effect : Effect origin m d d') :
    d'.state.backend.closedHandles = d.state.backend.closedHandles ∧
        d'.state.history Movement.retired? = d.state.history Movement.retired? ∨
      (∃ c, (c ∈ d.loose ∨ c ∈ d.state.doomed) ∧
        d'.state.backend.closedHandles = d.state.backend.closedWith c.handle ∧
        d'.state.history Movement.retired? = d.state.history Movement.retired? ++ [c]) ∨
      ∃ (name : String) (c : Connection), m = .command (.nativeClose name) ∧
        d'.state.backend.closedHandles = d.state.backend.closedWith c.handle ∧
        d'.state.history Movement.retired? = d.state.history Movement.retired? := by
  cases effect with
  | system effect =>
    rcases effect.closing with same | ⟨c, held, closed, retired⟩
    · exact Or.inl same
    · exact Or.inr (Or.inl ⟨c, Or.inl held, closed, retired⟩)
  | shuffled shuffle =>
    have same := shuffle.untouched
    exact Or.inl ⟨congrArg _ same.backend, congrArg (List.filterMap _) same.journal⟩
  | @shut s =>
    left
    have retired : s.toSystem.close.2.history Movement.retired? = s.history Movement.retired? :=
      System.history_close _ fun _ => rfl
    rw [← toSystem_closePool] at retired
    exact ⟨congrArg _ (closePool_backend s), retired⟩
  | discarded c => exact Or.inl ⟨rfl, rfl⟩
  | @buried s n e o q l place c due =>
    right
    left
    refine ⟨c, Or.inr ?_, Backend.closedHandles_retire _ c, ?_⟩
    · exact List.mem_filterMap.mpr ⟨_, List.mem_of_getElem? due, rfl⟩
    · simp [withSystem, System.history_retire, Movement.retired?]
  | enqueued asked bare isOpen =>
    left
    exact ⟨rfl, by simp [withSystem, System.history_enqueue, Movement.retired?]⟩
  | @severed s n e o q l name c asked known =>
    exact Or.inr (Or.inr ⟨name, c, asked, Backend.closedHandles_close _ _, rfl⟩)

end Session
end Datastore
