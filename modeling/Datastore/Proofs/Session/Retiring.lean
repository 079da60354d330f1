import Datastore.Proofs.Settings

/-!
# Late retirement

A handle is tuned or closed only for a connection that is idle, in the hands of a caller, or due to
be retired. Between being discarded and being retired, and ever after, nothing is set on the handle
of a connection but what closes it. Main statements: `adjustments_move`, `Retiring.move`,
`Retiring.settled`.
-/

namespace Datastore

variable {handle : Nat} {call : Call}

theorem Tuning.handle_of_adjusts {t : Tuning} {other : Nat} (here : call ∈ t.calls other)
    (adjusts : call.adjusts handle = true) : other = handle := by
  by_contra apart
  have none : (t.calls other).filter (Call.adjusts handle) = [] := by
    rw [filter_calls, if_neg apart]
  have listed := List.mem_filter.mpr ⟨here, adjusts⟩
  rw [none] at listed
  cases listed

theorem Connection.handle_of_adjusts {c : Connection} {b : Backend} (here : call ∈ c.farewell b)
    (adjusts : call.adjusts handle = true) : c.handle = handle := by
  rw [farewell, List.mem_cons] at here
  rcases here with rfl | closing
  · simpa [Call.adjusts] using adjusts
  · split at closing
    · cases closing
    · obtain rfl := List.mem_singleton.mp closing
      simpa [Call.adjusts] using adjusts

theorem Provider.handle_of_adjusts {p : Provider} {b : Backend} {now : Duration} {c : Connection}
    (here : call ∈ p.handling b now c) (adjusts : call.adjusts handle = true) :
    c.handle = handle := by
  rcases List.mem_append.mp here with probe | treated
  · rw [probing] at probe
    split at probe
    · obtain rfl := List.mem_singleton.mp probe
      cases adjusts
    · cases probe
  · rw [treatment] at treated
    split at treated
    · exact Tuning.handle_of_adjusts treated adjusts
    · exact Tuning.handle_of_adjusts treated adjusts
    · cases treated
    · rcases List.mem_append.mp treated with setting | last
      · exact Tuning.handle_of_adjusts setting adjusts
      · exact Connection.handle_of_adjusts last adjusts

namespace System

variable {s : System} {a : Act}

/-- The connections whose handles an act may tune or close. -/
def handled (s : System) : Act → List Connection
  | .checkout _ => s.pool.idle.take 1
  | .close true => s.pool.idle
  | .retire c | .ask c _ => [c]
  | _ => []

theorem handle_of_adjusts (here : call ∈ s.upkeepOf a) (adjusts : call.adjusts handle = true) :
    ∃ c ∈ s.handled a, c.handle = handle := by
  unfold upkeepOf at here
  split at here
  · obtain ⟨c, front, told⟩ := List.mem_flatMap.mp here
    exact ⟨c, front, Provider.handle_of_adjusts told adjusts⟩
  · obtain ⟨c, idle, told⟩ := List.mem_flatMap.mp here
    refine ⟨c, idle, ?_⟩
    simp only [Connection.retirement, List.mem_cons, List.not_mem_nil, or_false] at told
    rcases told with rfl | rfl <;> simpa [Call.adjusts] using adjusts
  · exact ⟨_, List.mem_singleton_self _, Connection.handle_of_adjusts here adjusts⟩
  · obtain rfl := List.mem_singleton.mp here
    cases adjusts
  · unfold Request.upkeep at here
    split at here
    · exact ⟨_, List.mem_singleton_self _, Tuning.handle_of_adjusts here adjusts⟩
    · cases here
  · cases here

theorem adjustments_retireAll {cs : List Connection} (apart : ∀ c ∈ cs, c.handle ≠ handle) :
    (s.retireAll cs).backend.adjustments handle = s.backend.adjustments handle := by
  induction cs generalizing s with
  | nil => rfl
  | cons c rest ih =>
    rw [List.forall_mem_cons] at apart
    have first := s.backend.calls_retire (Call.adjusts handle) c
    have none : (c.farewell s.backend).filter (Call.adjusts handle) = [] := by
      rw [List.filter_eq_nil_iff]
      exact fun call here adjusts => apart.1 (Connection.handle_of_adjusts here adjusts)
    rw [none, List.append_nil] at first
    exact (ih apart.2).trans first

/-- A handle is left alone by all acts but those that handle its connection. -/
theorem adjustments_enact (apart : ∀ c ∈ s.handled a, c.handle ≠ handle) :
    (s.enact a).backend.adjustments handle = s.backend.adjustments handle := by
  have none : (s.upkeepOf a).filter (Call.adjusts handle) = [] := by
    rw [List.filter_eq_nil_iff]
    intro call here adjusts
    obtain ⟨c, handled, same⟩ := handle_of_adjusts here adjusts
    exact apart c handled same
  have errands : ∀ call : Call, call.isErrand = true → call.adjusts handle = false := by
    rintro (_ | _) <;> simp [Call.isErrand, Call.adjusts]
  have transactions : ∀ call : Call, call.isTransactional = true →
      call.adjusts handle = false := by
    rintro (_ | _) <;> simp [Call.isTransactional, Call.adjusts]
  have told : (s.enact a).backend.calls (Call.adjusts handle) =
      s.backend.calls (Call.adjusts handle) ++ (s.upkeepOf a).filter (Call.adjusts handle) := by
    apply calls_enact errands
    · rintro c request rfl
      by_cases closes : request = .nativeClose
      · subst closes
        have other : (Call.closed c.handle).adjusts handle = false := by
          simpa [Call.adjusts] using apart c (List.mem_singleton_self c)
        rw [Request.serve, Backend.close]
        split
        · exact (List.append_nil _).symm
        · simp [Backend.calls_record, other, Request.upkeep]
      · exact Request.calls_serve c _ errands transactions closes
    · rintro rfl
      have drained := adjustments_retireAll (s := s.close.2) apart
      have closed : s.close.2.backend = s.backend := by rw [close_eq]
      rw [closed] at drained
      exact drained.trans (by rw [show s.pool.idle.flatMap Connection.retirement =
        s.upkeepOf (.close true) from rfl, none, List.append_nil]; rfl)
  rw [none, List.append_nil] at told
  exact told

end System

namespace Session

variable {s : Session} {m : Move} {c : Connection}

/-- Who is retired was in the hands of a caller, or it was due. -/
theorem act_retire (retires : s.act m = .retire c) : (∃ name, s.connection? name = some c) ∨
    ∃ place, m = .work place ∧ s.agenda[place]? = some (.retire c) := by
  cases m with
  | command command =>
    left
    rw [act] at retires
    split at retires
    · cases retires
    · cases command with
      | closeNow name =>
        simp only [commandAct] at retires
        split at retires
        · next known =>
          cases retires
          exact ⟨name, known⟩
        · cases retires
      | _ =>
        simp only [commandAct, checkingOut, parting, givingBack, discarding, asking] at retires
        (repeat' split at retires) <;> cases retires
  | work place =>
    right
    rw [act] at retires
    split at retires
    · next due =>
      cases retires
      exact ⟨place, rfl, due⟩
    · rw [goingOn] at retires
      split at retires
      · split at retires <;> cases retires
      · cases retires
    · cases retires

/-- At rest, or in the hands of a caller. -/
def reachable (s : Session) : List Connection :=
  s.pool.idle ++ s.held Holding.guarded ++ s.held Holding.bared

theorem mem_reachable_of_connection? {name : String} (known : s.connection? name = some c) :
    c ∈ s.reachable := by
  rcases find?_of_connection? known with pooled | bare
  · have here : c ∈ s.held Holding.guarded := mem_held pooled (List.mem_singleton_self c)
    simp [reachable, here]
  · have here : c ∈ s.held Holding.bared := mem_held bare (List.mem_singleton_self c)
    simp [reachable, here]

theorem handled_act (here : c ∈ s.toSystem.handled (s.act m)) : c ∈ s.reachable ∨
    ∃ place, m = .work place ∧ s.agenda[place]? = some (.retire c) := by
  have idle (there : c ∈ s.pool.idle) : c ∈ s.reachable := by simp [reachable, there]
  have known := s.acts m
  generalize acted : s.act m = a at here known
  unfold System.handled at here
  split at here
  · exact Or.inl (idle (List.mem_of_mem_take here))
  · exact Or.inl (idle here)
  · obtain rfl := List.mem_singleton.mp here
    exact (act_retire acted).imp_left fun ⟨_, known⟩ => mem_reachable_of_connection? known
  · obtain rfl := List.mem_singleton.mp here
    cases known with
    | ask asked => exact Or.inl (mem_reachable_of_connection? asked)
  · cases here

/-- A handle that nobody can reach is left alone until it is due. -/
theorem adjustments_move {handle : Nat} (apart : ∀ c ∈ s.reachable, c.handle ≠ handle)
    (spared : ∀ place c, m = .work place → s.agenda[place]? = some (.retire c) →
      c.handle ≠ handle) :
    (s.move m).backend.adjustments handle = s.backend.adjustments handle := by
  rw [backend_move]
  apply System.adjustments_enact
  intro c handled
  rcases handled_act handled with here | ⟨place, work, due⟩
  · exact apart c here
  · exact spared place c work due

/-! ### Once more, and never again -/

variable {calls : List Call} {name : String} {wish : Wish}

/-- What the connections with one handle weigh, wherever they are. -/
theorem Sound.handle_split (sound : Sound (rest s)) (handle : Nat) :
    weigh (tagged Connection.handle handle) s.reachable +
      weigh (tagged Connection.handle handle) (s.held Holding.probed) +
        weigh (tagged Connection.handle handle) s.doomed +
          weigh (tagged Connection.handle handle) (s.history Movement.gone?) ≤ 1 := by
  have once := sound.handle_once handle
  simp only [live, circulating, reachable, weigh_append] at once ⊢
  omega

theorem apart_of_weigh (handle : Nat) (cs : List Connection)
    (none : weigh (tagged Connection.handle handle) cs = 0) : ∀ c ∈ cs, c.handle ≠ handle := by
  intro c here same
  have zero := weigh_eq_zero.mp none c here
  simp [tagged, same] at zero

theorem mem_doomed_of_due {place : Nat} (due : s.agenda[place]? = some (.retire c)) :
    c ∈ s.doomed :=
  List.mem_filterMap.mpr ⟨_, List.mem_of_getElem? due, rfl⟩

/-- Nobody sets anything on a handle that is neither within reach nor due. -/
theorem adjustments_aside {handle : Nat}
    (none : weigh (tagged Connection.handle handle) s.reachable +
      weigh (tagged Connection.handle handle) s.doomed = 0) (m : Move) :
    (s.move m).backend.adjustments handle = s.backend.adjustments handle := by
  refine adjustments_move (apart_of_weigh handle s.reachable (by omega)) fun place c _ due => ?_
  exact apart_of_weigh handle s.doomed (by omega) c (mem_doomed_of_due due)

/-- Nobody sets anything on the handle of a connection whose probe never ends. -/
theorem adjustments_probing (sound : Sound (rest s))
    (known : s.holdings.find? name = some (.waiter wish (.probing c))) (m : Move) :
    (s.move m).backend.adjustments c.handle = s.backend.adjustments c.handle := by
  have split := sound.handle_split c.handle
  have here : c ∈ s.held Holding.probed := mem_held known (List.mem_singleton_self c)
  have self := tagged_self Connection.handle c
  have less := le_weigh (tagged Connection.handle c.handle) here
  exact adjustments_aside (by omega) m

/-- Nobody sets anything on the handle of a connection that is gone. -/
theorem adjustments_gone (sound : Sound (rest s)) (gone : c ∈ s.history Movement.gone?) (m : Move) :
    (s.move m).backend.adjustments c.handle = s.backend.adjustments c.handle := by
  have split := sound.handle_split c.handle
  have self := tagged_self Connection.handle c
  have less := le_weigh (tagged Connection.handle c.handle) gone
  exact adjustments_aside (by omega) m

theorem adjustments_gone_after (orderly : Orderly s) (sound : Sound (rest s))
    (gone : c ∈ s.history Movement.gone?) (moves : List Move) :
    (s.after moves).backend.adjustments c.handle = s.backend.adjustments c.handle := by
  induction moves generalizing s with
  | nil => rfl
  | cons m rest ih =>
    have gone' := System.mem_history_of_prefix (journal_after orderly [m]) gone
    exact (ih (orderly_move orderly m) (sound.move orderly m) gone').trans
      (adjustments_gone sound gone m)

/-- Due to be closed, or closed, and nothing else was set on the handle. -/
inductive Retiring (c : Connection) (calls : List Call) (s : Session) : Prop
  | due (here : c ∈ s.doomed) (told : s.backend.adjustments c.handle = calls)
  | done (gone : ∃ other ∈ s.history Movement.retired?, other.handle = c.handle)
      (told : s.backend.adjustments c.handle = calls ++ partingCalls c.handle)

theorem isClosed_of_told (isOpen : .closed c.handle ∉ calls)
    (told : s.backend.adjustments c.handle = calls) :
    s.backend.isClosed c.handle = false := by
  rw [← Bool.not_eq_true, Backend.isClosed_iff_adjustments, told]
  exact isOpen

/-- The handle is closed when its connection is retired. -/
theorem Retiring.retired {place : Nat} {other : Connection} (isOpen : .closed c.handle ∉ calls)
    (told : s.backend.adjustments c.handle = calls)
    (due : s.agenda[place]? = some (.retire other)) (same : other.handle = c.handle) :
    Retiring c calls (s.move (.work place)) := by
  have open' : s.backend.isClosed other.handle = false := same ▸ isClosed_of_told isOpen told
  have closing := s.backend.calls_retire (Call.adjusts c.handle) other
  rw [Connection.farewell_of_open open', filter_retirement, if_pos same] at closing
  have moved : s.move (.work place) =
      { s with agenda := s.agenda.eraseIdx place }.withSystem (s.toSystem.retire other).2 := by
    simp only [move, doWork, due, perform]
  rw [moved]
  refine .done ⟨other, ?_, same⟩ ?_
  · simp [withSystem, System.history_retire, Movement.retired?]
  · exact closing.trans (congrArg (· ++ _) told)

/-- A connection that is due stays so until it is retired, and then it is gone. -/
theorem Retiring.move (orderly : Orderly s) (sound : Sound (rest s))
    (isOpen : .closed c.handle ∉ calls) (retiring : Retiring c calls s) (m : Move) :
    Retiring c calls (s.move m) := by
  cases retiring with
  | due here told =>
    have split := sound.handle_split c.handle
    have self := tagged_self Connection.handle c
    have less := le_weigh (tagged Connection.handle c.handle) here
    have apart := apart_of_weigh c.handle s.reachable (by omega)
    by_cases turn : ∃ place other, m = .work place ∧ s.agenda[place]? = some (.retire other) ∧
        other.handle = c.handle
    · obtain ⟨place, other, rfl, due, same⟩ := turn
      exact .retired isOpen told due same
    · have kept := (adjustments_move (m := m) apart fun place other work due same =>
        turn ⟨place, other, work, due, same⟩).trans told
      have condemned : Condemned c (rest (s.move m)) :=
        Condemned.after orderly (Or.inl here) [m]
      refine .due (condemned.resolve_right fun retired => ?_) kept
      -- If it were retired, the handle would be closed.
      have closed := (Backend.isClosed_iff _ _).mpr ((sound.move orderly m).retired c retired)
      exact absurd closed (by simp [rest, isClosed_of_told isOpen kept])
  | done gone told =>
    obtain ⟨other, there, same⟩ := gone
    have kept := adjustments_gone sound (mem_gone_of_retired there) m
    rw [same] at kept
    obtain ⟨more, grown⟩ := history_grows orderly m Movement.retired?
    exact .done ⟨other, grown ▸ List.mem_append_left _ there, same⟩ (kept.trans told)

theorem Retiring.after (orderly : Orderly s) (sound : Sound (rest s))
    (isOpen : .closed c.handle ∉ calls) (retiring : Retiring c calls s) (moves : List Move) :
    Retiring c calls (s.after moves) := by
  have kept := (admitted_everything s moves).preserves
    (I := fun s => Orderly s ∧ Sound (rest s) ∧ Retiring c calls s)
    (fun s m _ ⟨there, now, retiring⟩ => ⟨orderly_move there m, now.move there m,
      retiring.move there now isOpen m⟩) ⟨orderly, sound, retiring⟩
  exact kept.2.2

/-- Once all work is done, the handle is closed, and nothing else was set on it. -/
theorem Retiring.settled (orderly : Orderly s) (sound : Sound (rest s))
    (isOpen : .closed c.handle ∉ calls) (retiring : Retiring c calls s) (more : List Move) :
    (s.after more).settle.backend.adjustments c.handle = calls ++ partingCalls c.handle := by
  have done := agenda_settle (s.after more)
  rw [settle_eq_after, ← after_append] at done ⊢
  cases retiring.after orderly sound isOpen
      (more ++ List.replicate (s.after more).workload (.work 0)) with
  | due here told =>
    simp only [doomed, done] at here
    cases here
  | done gone told => exact told

end Session
end Datastore
