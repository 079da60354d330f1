import Datastore.Proofs.Session.Calls
import Datastore.Proofs.Session.Origin

/-!
# Upkeep

What the backend is told for the upkeep of handles in a run is known from the acts of the run, call
by call. Main statement: `upkeep_after`.
-/

namespace Datastore

namespace System

variable {kind : Call → Bool} {s : System} {a : Act}

/-- What an act tells the backend for upkeep, unless the caller closes a handle. -/
def upkeepOf (s : System) : Act → List Call
  | .checkout p => (s.pool.idle.take 1).flatMap (p.handling s.backend s.clock)
  | .close true => s.pool.idle.flatMap Connection.retirement
  | .retire c => c.farewell s.backend
  | .probe c => [.pinged c.handle]
  | .ask c request => request.upkeep c
  | _ => []

theorem isUpkeep_of_upkeepOf {call : Call} (here : call ∈ s.upkeepOf a) :
    call.isUpkeep = true := by
  unfold upkeepOf at here
  split at here
  · obtain ⟨c, -, told⟩ := List.mem_flatMap.mp here
    exact Provider.isUpkeep_of_handling _ told
  · obtain ⟨c, -, told⟩ := List.mem_flatMap.mp here
    simp only [Connection.retirement, List.mem_cons, List.not_mem_nil, or_false] at told
    rcases told with rfl | rfl <;> rfl
  · exact Connection.isUpkeep_of_farewell here
  · obtain rfl := List.mem_singleton.mp here
    rfl
  · unfold Request.upkeep at here
    split at here
    · exact Tuning.isUpkeep_of_calls here
    · cases here
  · cases here

/-- What an act tells the backend, if it is as expected for what is asked of a connection and for
draining the pool. -/
theorem calls_enact (errands : ∀ call, call.isErrand = true → kind call = false)
    (asks : ∀ c request, a = .ask c request → (request.serve c s.backend).calls kind =
      s.backend.calls kind ++ (request.upkeep c).filter kind)
    (drains : a = .close true → (s.close.2.retireAll s.pool.idle).backend.calls kind =
      s.backend.calls kind ++ (s.pool.idle.flatMap Connection.retirement).filter kind) :
    (s.enact a).backend.calls kind = s.backend.calls kind ++ (s.upkeepOf a).filter kind := by
  cases a with
  | checkout p => exact p.calls_checkout errands s
  | manufacture p => exact (p.calls_manufacture errands s).trans (List.append_nil _).symm
  | openDirect driver dsn =>
    have opened := s.backend.calls_openHandle errands dsn
    refine Eq.trans ?_ (List.append_nil _).symm
    simp only [enact, openDirect]
    split
    · next ran =>
      rw [ran] at opened
      exact opened
    · next ran =>
      rw [ran] at opened
      exact opened
  | withdraw =>
    refine Eq.trans ?_ (List.append_nil _).symm
    simp only [enact, withdraw]
    split <;> rfl
  | close retire =>
    cases retire with
    | true => exact drains rfl
    | false =>
      refine Eq.trans ?_ (List.append_nil _).symm
      have noted : ∀ (cs : List Connection) (y : System), (y.forsakeAll cs).backend = y.backend :=
        fun cs => by induction cs with
          | nil => exact fun _ => rfl
          | cons c rest ih => exact fun _ => ih _
      rw [enact, noted, close_eq]
  | retire c => exact s.backend.calls_retire kind c
  | probe c => exact s.backend.calls_ping kind c.handle
  | ask c request => exact asks c request rfl
  | _ => exact (List.append_nil _).symm

end System

namespace Session

variable {s : Session} {m : Move}

theorem mem_live_of_idle {c : Connection} (here : c ∈ s.pool.idle) : c ∈ s.live := by
  simp [live, circulating, here]

/-- What a move tells the backend for upkeep. -/
def upkeep (s : Session) (m : Move) : List Call := s.toSystem.upkeepOf (s.act m)

theorem kept_move (orderly : Orderly s) (kept : Kept (rest s))
    (spares : sparesHandles s m = true) : Kept (rest (s.move m)) :=
  ((move_effects s m).sustains
    (fun _ _ effect there now => effect.kept (by rintro name rfl; cases spares) there now)
    orderly kept).2

theorem Kept.idle_handles (kept : Kept (rest s)) :
    (s.pool.idle.map Connection.handle).Nodup := by
  have live : s.pool.idle.Sublist s.live := by
    simp only [Session.live, circulating, List.append_assoc]
    exact List.sublist_append_left _ _
  exact kept.conserved.handles.sublist (live.map Connection.handle)

theorem Kept.calls_drained (kept : Kept (rest s)) (kind : Call → Bool) :
    (s.toSystem.close.2.retireAll s.pool.idle).backend.calls kind =
      s.backend.calls kind ++ (s.pool.idle.flatMap Connection.retirement).filter kind := by
  have same : s.toSystem.close.2.backend = s.backend := by rw [System.close_eq]
  have isOpen : ∀ c ∈ s.pool.idle, s.toSystem.close.2.backend.isClosed c.handle = false := by
    rw [same]
    exact fun c here => kept.conserved.isOpen c (mem_live_of_idle here)
  rw [Backend.calls, System.log_retireAll kept.idle_handles isOpen, same, List.filter_append]
  rfl

theorem Kept.upkeep_move (kept : Kept (rest s)) (spares : sparesHandles s m = true) :
    (s.move m).backend.calls Call.isUpkeep = s.backend.calls Call.isUpkeep ++ s.upkeep m := by
  have errands : ∀ call : Call, call.isErrand = true → call.isUpkeep = false := by
    rintro (_ | _) <;> simp [Call.isErrand, Call.isUpkeep]
  have transactions : ∀ call : Call, call.isTransactional = true → call.isUpkeep = false := by
    rintro (_ | _) <;> simp [Call.isTransactional, Call.isUpkeep]
  have all : (s.upkeep m).filter Call.isUpkeep = s.upkeep m :=
    List.filter_eq_self.mpr fun call here => System.isUpkeep_of_upkeepOf here
  have known := s.acts m
  rw [backend_move, ← all]
  apply System.calls_enact errands
  · intro c request asked
    rw [asked] at known
    apply Request.calls_serve c _ errands transactions
    rintro rfl
    cases known
    cases spares
  · exact fun _ => kept.calls_drained _

/-- What the backend was told for upkeep in a run, call by call. -/
theorem upkeep_after (orderly : Orderly s) (kept : Kept (rest s)) {moves : List Move}
    (admitted : Admitted sparesHandles s moves) :
    (s.after moves).backend.calls Call.isUpkeep =
      s.backend.calls Call.isUpkeep ++ along upkeep s moves := by
  induction moves generalizing s with
  | nil => simp [along]
  | cons m rest ih =>
    have now := kept.upkeep_move admitted.1
    have later := ih (orderly_move orderly m) (kept_move orderly kept admitted.1) admitted.2
    rw [after_cons, later, now, along, List.append_assoc]

end Session
end Datastore
