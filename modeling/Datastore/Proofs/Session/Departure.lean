import Datastore.Proofs.Session.Circulation
import Datastore.Proofs.Session.Transactions
import Mathlib.Data.List.Nodup

/-!
# Connections that are gone

What holds of every run from a fresh backend, and what it means for a connection that was discarded
or dropped: nobody has it again, its transaction is not ended, and a discarded one is retired in
the end, which closes its handle once. Main statements: `Effect.sound`, `Sound.departed`,
`Sound.condemned`.
-/

namespace Datastore

theorem System.mem_history_of_prefix {α : Type} {s s' : System} {matter : Movement → Option α}
    {thing : α} (grows : s.journal <+: s'.journal) (here : thing ∈ s.history matter) :
    thing ∈ s'.history matter := by
  obtain ⟨more, same⟩ := grows
  rw [history] at here ⊢
  rw [← same, List.filterMap_append, List.mem_append]
  exact Or.inl here

/-- Nothing is struck from the journal. -/
theorem System.Effect.journal {d d' : Midway System} (effect : Effect d d') :
    d.state.journal <+: d'.state.journal := by
  cases effect <;> first | exact List.prefix_refl _ | exact List.prefix_append _ _

namespace Session

theorem Effect.journal {origin : Session} {m : Move} {d d' : Midway Session}
    (effect : Effect origin m d d') : d.state.journal <+: d'.state.journal := by
  cases effect with
  | system effect => exact effect.journal
  | shuffled shuffle => exact shuffle.untouched.journal ▸ List.prefix_refl _
  | @shut s =>
    have same : s.closePool.2.journal = s.journal ++ _ :=
      congrArg System.journal ((toSystem_closePool s).trans (System.close_eq _))
    rw [same]
    exact List.prefix_append _ _
  | discarded c => exact List.prefix_refl _
  | buried due => exact List.prefix_append _ _
  | enqueued asked bare isOpen => exact List.prefix_append _ _
  | severed asked known => exact List.prefix_refl _

theorem mem_doomed_eraseIdx {agenda : List Task} {place : Nat} {c other : Connection}
    (due : agenda[place]? = some (.retire other)) (here : c ∈ agenda.filterMap Task.doomed?) :
    c = other ∨ c ∈ (agenda.eraseIdx place).filterMap Task.doomed? := by
  induction agenda generalizing place with
  | nil => simp at due
  | cons task rest ih =>
    cases place with
    | zero =>
      obtain rfl : task = .retire other := Option.some.inj due
      simpa [Task.doomed?] using here
    | succ place =>
      have next : rest[place]? = some (.retire other) := due
      rw [List.eraseIdx_cons_succ]
      cases task with
      | retire first =>
        simp only [List.filterMap_cons, Task.doomed?, List.mem_cons] at here ⊢
        rcases here with same | later
        · exact Or.inr (Or.inl same)
        · rcases ih next later with same | stays
          · exact Or.inl same
          · exact Or.inr (Or.inr stays)
      | resume name =>
        simp only [List.filterMap_cons, Task.doomed?] at here ⊢
        exact ih next here

/-- A discarded connection stays on the agenda until it is retired. -/
theorem Effect.doomed {origin : Session} {m : Move} {d d' : Midway Session} {c : Connection}
    (effect : Effect origin m d d') (orderly : Orderly d.state) (here : c ∈ d.state.doomed) :
    c ∈ d'.state.doomed ∨ c ∈ d'.state.history Movement.retired? := by
  cases effect with
  | system effect => exact Or.inl here
  | shuffled shuffle =>
    left
    rw [shuffle.untouched.doomed]
    exact here
  | shut =>
    obtain ⟨t, same, -⟩ := closePool_spec orderly
    left
    rw [same]
    exact here
  | discarded c' =>
    left
    simp only [Session.doomed, putOff, List.filterMap_append, List.mem_append]
    exact Or.inl here
  | @buried s n e o q l place c' due =>
    rcases mem_doomed_eraseIdx due here with rfl | stays
    · right
      simp [withSystem, System.history_retire, Movement.retired?]
    · exact Or.inl stays
  | enqueued asked bare isOpen => exact Or.inl here
  | severed asked known => exact Or.inl here

/-- What holds of every run from a fresh backend, also in the middle of a move. -/
structure Sound (d : Midway Session) : Prop where
  books : ∀ ν, Steady ν → tally ν d = output ν d
  registered : System.Registered (onSystem d)
  accounted : Accounted d
  distinct : d.state.backend.closedHandles.Nodup
  retired : ∀ c ∈ d.state.history Movement.retired?, c.handle ∈ d.state.backend.closedHandles

theorem Effect.sound {origin : Session} {m : Move} {d d' : Midway Session}
    (effect : Effect origin m d d') (orderly : Orderly d.state) (sound : Sound d) : Sound d' := by
  refine ⟨?_, effect.registered sound.registered,
    effect.accounted orderly sound.registered sound.accounted, ?_, ?_⟩
  · intro ν steady
    exact effect.steady orderly steady (sound.books ν steady)
  · rcases effect.closing with ⟨closed, -⟩ | ⟨c, -, closed, -⟩ | ⟨name, c, -, closed, -⟩
    · rw [closed]
      exact sound.distinct
    · rw [closed]
      exact Backend.closedWith_nodup sound.distinct c.handle
    · rw [closed]
      exact Backend.closedWith_nodup sound.distinct c.handle
  · intro other here
    rcases effect.closing with ⟨closed, retired⟩ | ⟨c, -, closed, retired⟩ |
      ⟨name, c, -, closed, retired⟩
    · rw [retired] at here
      rw [closed]
      exact sound.retired other here
    · rw [retired, List.mem_append, List.mem_singleton] at here
      rw [closed, Backend.mem_closedWith]
      rcases here with old | rfl
      · exact Or.inl (sound.retired other old)
      · exact Or.inr rfl
    · rw [retired] at here
      rw [closed, Backend.mem_closedWith]
      exact Or.inl (sound.retired other here)

theorem sound_start {backend : Backend} (fresh : backend.log = []) (capacity : Nat)
    (provider : Option Provider) :
    Sound (rest (start backend (Pool.ofCapacity capacity) provider)) where
  books := fun _ _ => rfl
  registered := registered_start fresh capacity provider
  accounted := accounted_start fresh capacity provider
  distinct := by simp [rest, start, System.start, Backend.closedHandles, fresh]
  retired := by simp [rest, start, System.start, System.history]

/-- Discarded, retired or dropped. -/
def Departed (c : Connection) (d : Midway Session) : Prop :=
  c ∈ d.state.doomed ∨ c ∈ d.state.history Movement.gone?

/-- Discarded or retired. -/
def Condemned (c : Connection) (d : Midway Session) : Prop :=
  c ∈ d.state.doomed ∨ c ∈ d.state.history Movement.retired?

theorem mem_gone_of_retired {s : System} {c : Connection}
    (here : c ∈ s.history Movement.retired?) : c ∈ s.history Movement.gone? := by
  obtain ⟨⟨time, movement⟩, entry, retired⟩ := List.mem_filterMap.mp here
  refine List.mem_filterMap.mpr ⟨(time, movement), entry, ?_⟩
  cases movement with
  | retired c' => exact retired
  | _ => cases retired

theorem Condemned.departed {c : Connection} {d : Midway Session} (condemned : Condemned c d) :
    Departed c d := condemned.imp_right mem_gone_of_retired

theorem Effect.condemned {origin : Session} {m : Move} {d d' : Midway Session} {c : Connection}
    (effect : Effect origin m d d') (orderly : Orderly d.state) (condemned : Condemned c d) :
    Condemned c d' := by
  rcases condemned with doomed | retired
  · exact effect.doomed orderly doomed
  · exact Or.inr (System.mem_history_of_prefix effect.journal retired)

theorem Effect.departed {origin : Session} {m : Move} {d d' : Midway Session} {c : Connection}
    (effect : Effect origin m d d') (orderly : Orderly d.state) (departed : Departed c d) :
    Departed c d' := by
  rcases departed with doomed | gone
  · exact (effect.condemned orderly (Or.inl doomed)).departed
  · exact Or.inr (System.mem_history_of_prefix effect.journal gone)

theorem Departed.weighs {c : Connection} {d : Midway Session} (departed : Departed c d)
    (ν : Connection → Nat) :
    ν c ≤ weigh ν d.state.doomed + weigh ν (d.state.history Movement.gone?) := by
  rcases departed with here | here
  · have less := le_weigh ν here
    omega
  · have less := le_weigh ν here
    omega

/-- No transaction begins twice. -/
theorem begunWeight_le (number : Nat) (b : Backend) : b.begunWeight (tagged id number) ≤ 1 := by
  rw [Backend.begunWeight, weigh_tagged, List.map_id]
  exact List.nodup_iff_count.mp List.nodup_range' number

theorem not_ends_of_endedWeight {number : Nat} {b : Backend}
    (none : b.endedWeight (tagged id number) = 0) {call : Call} (here : call ∈ b.log) :
    ¬ call.ends number := by
  intro ends
  rw [Backend.endedWeight, weigh_tagged, List.map_id, List.count_eq_zero] at none
  exact none (List.mem_filterMap.mpr ⟨call, here, ends⟩)

/-- If no two connections were made with one key, there is one at most with it, gone ones
included. -/
theorem Sound.once {s : Session} (sound : Sound (rest s)) {key : Connection → Nat} {value : Nat}
    (steady : Steady (tagged key value))
    (distinct : ((s.history Movement.made?).map key).Nodup) :
    weigh (tagged key value) s.live +
      weigh (tagged key value) (s.history Movement.gone?) ≤ 1 := by
  have books := sound.books _ steady
  have once := List.nodup_iff_count.mp distinct value
  have made : output (tagged key value) (rest s) =
    ((s.history Movement.made?).map key).count value := weigh_tagged ..
  rw [tally_rest] at books
  omega

theorem Sound.id_once {s : Session} (sound : Sound (rest s)) (id : Nat) :
    weigh (tagged Connection.id id) s.live +
      weigh (tagged Connection.id id) (s.history Movement.gone?) ≤ 1 :=
  sound.once (steady_id id) (sound.registered.ids ▸ List.nodup_range')

theorem Sound.handle_once {s : Session} (sound : Sound (rest s)) (handle : Nat) :
    weigh (tagged Connection.handle handle) s.live +
      weigh (tagged Connection.handle handle) (s.history Movement.gone?) ≤ 1 := by
  have distinct := sound.registered.handles.nodup_iff.mpr List.nodup_range'
  exact sound.once (steady_handle handle) (List.Nodup.of_append_left distinct)

theorem Sound.ids_nodup {s : Session} (sound : Sound (rest s)) :
    (s.live.map Connection.id).Nodup := by
  rw [List.nodup_iff_count]
  intro id
  have once := sound.id_once id
  rw [← weigh_tagged]
  omega

/-- Nobody has a connection that is gone. -/
theorem Sound.departed {s : Session} {c : Connection} (sound : Sound (rest s))
    (departed : Departed c (rest s)) : c.id ∉ s.circulating.map Connection.id := by
  have once := sound.id_once c.id
  have self := tagged_self Connection.id c
  have weight : tagged Connection.id c.id c ≤ weigh (tagged Connection.id c.id) s.doomed +
    weigh (tagged Connection.id c.id) (s.history Movement.gone?) := departed.weighs _
  rw [live, weigh_append] at once
  have none : weigh (tagged Connection.id c.id) s.circulating = 0 := by omega
  rw [weigh_tagged] at none
  exact List.count_eq_zero.mp none

/-- The transaction of a connection that is gone was not ended and will not be. -/
theorem Sound.not_ended {s : Session} {c : Connection} (sound : Sound (rest s))
    (departed : Departed c (rest s)) {number : Nat} (active : c.transaction = some number)
    {call : Call} (here : call ∈ s.backend.log) : ¬ call.ends number := by
  have accounted := sound.accounted (tagged id number)
  have bound := begunWeight_le number s.backend
  have self : pending (tagged id number) c = 1 := by
    rw [pending_of_some active]
    exact tagged_self id number
  have weight : pending (tagged id number) c ≤ weigh (pending (tagged id number)) s.doomed +
    weigh (pending (tagged id number)) (s.history Movement.gone?) := departed.weighs _
  rw [tally_rest, live, weigh_append] at accounted
  simp only [rest] at accounted
  exact not_ends_of_endedWeight (by omega) here

/-- Once all work is done, the handle of a discarded connection is closed, and was closed once. -/
theorem Sound.condemned {s : Session} {c : Connection} (sound : Sound (rest s))
    (condemned : Condemned c (rest s)) (done : s.agenda = []) :
    s.backend.closedHandles.count c.handle = 1 := by
  have retired : c ∈ s.history Movement.retired? := by
    rcases condemned with here | retired
    · change c ∈ s.agenda.filterMap Task.doomed? at here
      rw [done] at here
      cases here
    · exact retired
  exact List.count_eq_one_of_mem sound.distinct (sound.retired c retired)

theorem Sound.after {s : Session} (orderly : Orderly s) (sound : Sound (rest s))
    (moves : List Move) : Sound (rest (s.after moves)) :=
  (admitted_everything s moves).sustains
    (fun _ _ _ _ _ effect there now => effect.sound there now) orderly sound

theorem Sound.move {s : Session} (orderly : Orderly s) (sound : Sound (rest s)) (m : Move) :
    Sound (rest (s.move m)) := sound.after orderly [m]

theorem Departed.after {s : Session} {c : Connection} (orderly : Orderly s)
    (departed : Departed c (rest s)) (moves : List Move) : Departed c (rest (s.after moves)) :=
  (admitted_everything s moves).sustains
    (fun _ _ _ _ _ effect there now => effect.departed there now) orderly departed

theorem Condemned.after {s : Session} {c : Connection} (orderly : Orderly s)
    (condemned : Condemned c (rest s)) (moves : List Move) : Condemned c (rest (s.after moves)) :=
  (admitted_everything s moves).sustains
    (fun _ _ _ _ _ effect there now => effect.condemned there now) orderly condemned

/-- Whatever follows, the handle of a discarded connection is closed once. -/
theorem Condemned.closed_once {s : Session} {c : Connection} (orderly : Orderly s)
    (sound : Sound (rest s)) (condemned : Condemned c (rest s)) (more : List Move) :
    (s.after more).settle.backend.closedHandles.count c.handle = 1 := by
  have done := agenda_settle (s.after more)
  rw [settle_eq_after, ← after_append] at done ⊢
  exact (sound.after orderly _).condemned (condemned.after orderly _) done

/-! ### Discarded connections -/

theorem giveBack_of_shut {s : Session} (shut : s.pool.closed = true) (attended : Bool)
    (c : Connection) : ∃ c', c'.handle = c.handle ∧
      s.giveBack attended c = (s.discard attended c').freeSlot := by
  by_cases active : c.inTransaction
  · exact ⟨c, rfl, by simp only [giveBack, active, if_true]⟩
  · refine ⟨c.stamp (some s.clock), rfl, ?_⟩
    simp only [giveBack, active, shut, Bool.false_eq_true, if_false, if_true]

/-- Once the pool is closed, to part with a connection that was checked out is to discard it. -/
theorem partWith_of_shut {s : Session} {thing : Holding} {c : Connection}
    (shut : s.pool.closed = true) (attended : Bool) (here : c ∈ thing.guarded ++ thing.probed)
    (name : String) :
    ∃ c', c'.handle = c.handle ∧
      (s.partWith attended name thing).2 = ((s.letGo name).discard attended c').freeSlot := by
  rcases List.mem_append.mp here with guarded | probed
  · rcases Holding.mem_guarded_iff.mp guarded with rfl | ⟨wish, rfl⟩ <;>
      exact giveBack_of_shut (s := s.letGo name) shut attended c
  · obtain ⟨wish, rfl⟩ := Holding.mem_probed_iff.mp probed
    exact ⟨c, rfl, rfl⟩

theorem mem_doomed_discard (s : Session) (c : Connection) :
    c ∈ (s.discard true c).freeSlot.doomed := by
  have same := (untouched_freeSlot (s.discard true c) (n := 0) (e := 0) (o := []) (q := [])
    (l := [])).doomed
  simp only at same
  rw [same]
  simp [doomed, discard, putOff, Task.doomed?]

theorem condemned_discard (s : Session) (c : Connection) :
    Condemned c (rest (s.discard true c).freeSlot) := Or.inl (mem_doomed_discard s c)

/-- Where nobody attends to it, a discarded connection is gone at once. -/
theorem mem_gone_discard (s : Session) (c : Connection) :
    c ∈ (s.discard false c).freeSlot.history Movement.gone? := by
  have same := (untouched_freeSlot (s.discard false c) (n := 0) (e := 0) (o := []) (q := [])
    (l := [])).journal
  simp only at same
  rw [System.history, same]
  simp [discard, note, withSystem, System.note, Movement.gone?]

theorem departed_discard (s : Session) (attended : Bool) (c : Connection) :
    Departed c (rest (s.discard attended c).freeSlot) := by
  cases attended with
  | true => exact (condemned_discard s c).departed
  | false => exact Or.inr (mem_gone_discard s c)

end Session
end Datastore
