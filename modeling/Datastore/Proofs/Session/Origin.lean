import Datastore.Proofs.Session.Departure

/-!
# Where connections come from

Stamps and transactions apart, a connection is what it was made as. A connection with a new number
has a new handle. Only handles are closed that were wrapped by connections that are not gone. Main
statements: `Sound.origin`, `Sound.newcomer`, `closing_after`.
-/

namespace Datastore

/-- What never changes about a connection. -/
def Connection.identity (c : Connection) : Nat × Nat × Dialect := (c.id, c.handle, c.dialect)

/-- Counts the connections that are the same as this one. -/
def Connection.kin (c other : Connection) : Nat := if other.identity = c.identity then 1 else 0

namespace Session

variable {s : Session} {c : Connection} {m : Move}

theorem steady_kin (c : Connection) : Steady c.kin := ⟨fun _ _ => rfl, fun _ _ => rfl⟩

/-- Whoever is there was made. -/
theorem Sound.origin (sound : Sound (rest s)) (here : c ∈ s.live) :
    ∃ made ∈ s.history Movement.made?, made.identity = c.identity := by
  by_contra none
  have books := sound.books c.kin (steady_kin c)
  have nobody : output c.kin (rest s) = 0 := by
    apply weigh_eq_zero.mpr
    intro made there
    exact if_neg fun same => none ⟨made, there, same⟩
  have self : c.kin c = 1 := if_pos rfl
  have weight := le_weigh c.kin here
  rw [tally_rest] at books
  omega

/-- Every handle that was opened was wrapped or left to nobody. -/
theorem Sound.handles (sound : Sound (rest s)) :
    ((s.history Movement.made?).map Connection.handle ++ s.history Movement.orphaned?).Perm
      (List.range' 1 s.backend.opens) := sound.registered.handles

theorem Sound.handle_le (sound : Sound (rest s)) (here : c ∈ s.live) :
    c.handle ≤ s.backend.opens := by
  obtain ⟨made, there, same⟩ := sound.origin here
  have handle : made.handle = c.handle := congrArg (·.2.1) same
  have listed : c.handle ∈ List.range' 1 s.backend.opens := by
    apply sound.handles.mem_iff.mp
    exact List.mem_append_left _ (List.mem_map.mpr ⟨made, there, handle⟩)
  rw [List.mem_range'_1] at listed
  omega

theorem journal_after (orderly : Orderly s) (moves : List Move) :
    s.journal <+: (s.after moves).journal :=
  (admitted_everything s moves).sustains (I := fun d => s.journal <+: d.state.journal)
    (fun _ _ _ _ _ effect _ now => now.trans effect.journal) orderly (List.prefix_refl _)

/-- The journal goes on, and so does what it says of every matter. -/
theorem history_after {α : Type} (orderly : Orderly s) (moves : List Move)
    (matter : Movement → Option α) :
    ∃ more, (s.after moves).history matter = s.history matter ++ more := by
  obtain ⟨more, same⟩ := journal_after orderly moves
  exact ⟨_, by rw [System.history, ← same, List.filterMap_append]; rfl⟩

theorem history_grows {α : Type} (orderly : Orderly s) (m : Move) (matter : Movement → Option α) :
    ∃ more, (s.move m).history matter = s.history matter ++ more :=
  history_after orderly [m] matter

theorem opens_le_move (orderly : Orderly s) (sound : Sound (rest s)) (m : Move) :
    s.backend.opens ≤ (s.move m).backend.opens := by
  have sound' : Sound (rest (s.move m)) := sound.after orderly [m]
  have before := sound.handles.length_eq
  have after := sound'.handles.length_eq
  obtain ⟨made, grown⟩ := history_grows orderly m Movement.made?
  obtain ⟨orphaned, grown'⟩ := history_grows orderly m Movement.orphaned?
  simp only [List.length_append, List.length_map, List.length_range'] at before after
  rw [grown, grown', List.length_append, List.length_append] at after
  omega

/-- A new connection has a handle that was not open before. -/
theorem Sound.newcomer (sound : Sound (rest s)) (orderly : Orderly s)
    (here : c ∈ (s.move m).live) (new : s.made < c.id) : s.backend.opens < c.handle := by
  have sound' : Sound (rest (s.move m)) := sound.after orderly [m]
  obtain ⟨made, there, same⟩ := sound'.origin here
  have handle : made.handle = c.handle := congrArg (·.2.1) same
  have number : made.id = c.id := congrArg (·.1) same
  obtain ⟨fresh, grown⟩ := history_grows orderly m Movement.made?
  obtain ⟨orphans, grown'⟩ := history_grows orderly m Movement.orphaned?
  have before := sound.handles
  have after := sound'.handles
  have listed : made.handle ∈ List.range' 1 (s.move m).backend.opens := by
    apply after.mem_iff.mp
    exact List.mem_append_left _ (List.mem_map_of_mem there)
  rw [List.mem_range'_1] at listed
  -- Its number is not one of those given before.
  have late : made ∈ fresh := by
    rw [grown, List.mem_append] at there
    refine there.resolve_left fun early => ?_
    have old : made.id ∈ List.range' 1 s.made := by
      have ids : (s.history Movement.made?).map Connection.id = List.range' 1 s.made :=
        sound.registered.ids
      rw [← ids]
      exact List.mem_map_of_mem early
    rw [List.mem_range'_1] at old
    omega
  -- So its handle is not one of those opened before.
  by_contra small
  have known : made.handle ∈ (s.history Movement.made?).map Connection.handle ++
      s.history Movement.orphaned? := by
    rw [before.mem_iff, List.mem_range'_1]
    omega
  have distinct := after.nodup_iff.mpr List.nodup_range'
  rw [grown, grown', List.map_append] at distinct
  have own : made.handle ∈ fresh.map Connection.handle := List.mem_map_of_mem late
  have twice : 1 < (((s.history Movement.made?).map Connection.handle ++
      fresh.map Connection.handle) ++ (s.history Movement.orphaned? ++ orphans)).count
        made.handle := by
    rw [← List.count_pos_iff] at own known
    simp only [List.count_append] at own known ⊢
    omega
  have once := List.nodup_iff_count.mp distinct made.handle
  omega

/-! ### Closed handles -/

/-- One connection at most was made with the handle of one that is in hand or about to be retired,
gone ones included. -/
theorem Sound.held_le {d : Midway Session} (sound : Sound d) (handle : Nat) :
    weigh (tagged Connection.handle handle) d.loose +
      weigh (tagged Connection.handle handle) d.state.doomed +
        weigh (tagged Connection.handle handle) (d.state.history Movement.gone?) ≤
      ((d.state.history Movement.made?).map Connection.handle).count handle := by
  have books := sound.books _ (steady_handle handle)
  have made : output (tagged Connection.handle handle) d =
    ((d.state.history Movement.made?).map Connection.handle).count handle := weigh_tagged ..
  simp only [tally, onSystem, System.tally] at books
  omega

theorem Sound.wrapped_once {d : Midway Session} (sound : Sound d) (handle : Nat) :
    ((d.state.history Movement.made?).map Connection.handle).count handle ≤ 1 := by
  have distinct := sound.registered.handles.nodup_iff.mpr List.nodup_range'
  rw [List.append_assoc] at distinct
  exact List.nodup_iff_count.mp (distinct.of_append_right.of_append_left) handle

/-- Wrapped by a connection that is not gone. -/
def Attached (d : Midway Session) (handle : Nat) : Prop :=
  handle ∈ (d.state.history Movement.made?).map Connection.handle ∧
    handle ∉ (d.state.history Movement.gone?).map Connection.handle

theorem Sound.attached_of_held {d : Midway Session} (sound : Sound d)
    (held : c ∈ d.loose ∨ c ∈ d.state.doomed) : Attached d c.handle := by
  have bound := sound.held_le c.handle
  have once := sound.wrapped_once c.handle
  have self := tagged_self Connection.handle c
  have weight : 1 ≤ weigh (tagged Connection.handle c.handle) d.loose +
      weigh (tagged Connection.handle c.handle) d.state.doomed := by
    rcases held with here | here
    · have less := le_weigh (tagged Connection.handle c.handle) here
      omega
    · have less := le_weigh (tagged Connection.handle c.handle) here
      omega
  rw [weigh_tagged _ _ (d.state.history Movement.gone?)] at bound
  constructor
  · rw [← List.count_pos_iff]
    omega
  · rw [← List.count_eq_zero]
    omega

theorem Sound.wrapped (sound : Sound (rest s)) (here : c ∈ s.live) :
    c.handle ∈ (s.history Movement.made?).map Connection.handle := by
  obtain ⟨made, there, same⟩ := sound.origin here
  exact List.mem_map.mpr ⟨made, there, congrArg (·.2.1) same⟩

theorem Sound.attached (sound : Sound (rest s)) (here : c ∈ s.live) :
    Attached (rest s) c.handle := by
  refine ⟨sound.wrapped here, ?_⟩
  have once := sound.handle_once c.handle
  have self := tagged_self Connection.handle c
  have less := le_weigh (tagged Connection.handle c.handle) here
  rw [weigh_tagged _ _ (s.history Movement.gone?)] at once
  change c.handle ∉ (s.history Movement.gone?).map Connection.handle
  rw [← List.count_eq_zero]
  omega

/-- One handle is closed at most, and it is attached. -/
structure Closes (d d' : Midway Session) : Prop where
  journal : d.state.journal <+: d'.state.journal
  closed : d'.state.backend.closedHandles = d.state.backend.closedHandles ∨
    ∃ handle, Attached d handle ∧
      d'.state.backend.closedHandles = d.state.backend.closedWith handle

theorem Effect.closes {origin : Session} {m : Move} {d d' : Midway Session}
    (effect : Effect origin m d d') (spares : ∀ name, m ≠ .command (.nativeClose name))
    (sound : Sound d) : Closes d d' := by
  refine ⟨effect.journal, ?_⟩
  rcases effect.closing with ⟨same, -⟩ | ⟨c, held, one, -⟩ | ⟨name, c, asked, -⟩
  · exact Or.inl same
  · exact Or.inr ⟨c.handle, sound.attached_of_held held, one⟩
  · exact absurd asked (spares name)

theorem closes_nativeClose (sound : Sound (rest s)) (name : String) :
    Closes (rest s) (rest (s.move (.command (.nativeClose name)))) := by
  have obeyed : s.move (.command (.nativeClose name)) = (s.carryOut (.nativeClose name)).2 := rfl
  rw [obeyed, carryOut, withConnection]
  cases known : s.connection? name with
  | none => exact ⟨List.prefix_refl _, Or.inl rfl⟩
  | some c =>
    exact ⟨List.prefix_refl _, Or.inr ⟨c.handle, sound.attached (mem_live_of_connection? known),
      Backend.closedHandles_close _ _⟩⟩

/-- What closing attached handles keeps, every move keeps. -/
theorem closing_move {I : Midway Session → Prop} (keeps : ∀ d d', Closes d d' → I d → I d')
    (orderly : Orderly s) (sound : Sound (rest s)) (m : Move) (now : I (rest s)) :
    I (rest (s.move m)) := by
  by_cases behind : ∃ name, m = .command (.nativeClose name)
  · -- The connection is held before the move, which the effects of the move do not say.
    obtain ⟨name, rfl⟩ := behind
    exact keeps _ _ (closes_nativeClose sound name) now
  · have spares : ∀ name, m ≠ .command (.nativeClose name) := fun name asked =>
      behind ⟨name, asked⟩
    exact ((move_effects s m).sustains (I := fun d => Sound d ∧ I d)
      (fun _ _ effect there now => ⟨effect.sound there now.1,
        keeps _ _ (effect.closes spares now.1) now.2⟩) orderly ⟨sound, now⟩).2.2

theorem closing_after {I : Midway Session → Prop} (keeps : ∀ d d', Closes d d' → I d → I d')
    (orderly : Orderly s) (sound : Sound (rest s)) (moves : List Move) (now : I (rest s)) :
    I (rest (s.after moves)) := by
  have all := (admitted_everything s moves).preserves
    (I := fun s => Orderly s ∧ Sound (rest s) ∧ I (rest s))
    (fun s m _ now => ⟨orderly_move now.1 m, now.2.1.after now.1 [m],
      closing_move keeps now.1 now.2.1 m now.2.2⟩) ⟨orderly, sound, now⟩
  exact all.2.2

/-- No handle is closed that was not wrapped. -/
def Grounded (d : Midway Session) : Prop :=
  ∀ handle ∈ d.state.backend.closedHandles,
    handle ∈ (d.state.history Movement.made?).map Connection.handle

theorem Closes.grounded {d d' : Midway Session} (closes : Closes d d') (grounded : Grounded d) :
    Grounded d' := by
  have stays {handle : Nat}
      (here : handle ∈ (d.state.history Movement.made?).map Connection.handle) :
      handle ∈ (d'.state.history Movement.made?).map Connection.handle := by
    obtain ⟨made, there, same⟩ := List.mem_map.mp here
    exact List.mem_map.mpr ⟨made, System.mem_history_of_prefix closes.journal there, same⟩
  intro handle closed
  rcases closes.closed with same | ⟨other, attached, one⟩
  · rw [same] at closed
    exact stays (grounded handle closed)
  · rw [one, Backend.mem_closedWith] at closed
    rcases closed with before | rfl
    · exact stays (grounded handle before)
    · exact stays attached.1

theorem Grounded.after (orderly : Orderly s) (sound : Sound (rest s)) (grounded : Grounded (rest s))
    (moves : List Move) : Grounded (rest (s.after moves)) :=
  closing_after (fun _ _ closes now => closes.grounded now) orderly sound moves grounded

theorem grounded_start {backend : Backend} (fresh : backend.log = []) (pool : Pool)
    (provider : Option Provider) : Grounded (rest (start backend pool provider)) := by
  simp [Grounded, rest, start, System.start, Backend.closedHandles, fresh]

/-- The next handle to be opened is open. -/
theorem Grounded.next_open (grounded : Grounded (rest s)) (sound : Sound (rest s)) :
    s.backend.isClosed (s.backend.opens + 1) = false := by
  rw [← Bool.not_eq_true, Backend.isClosed_iff]
  intro closed
  have listed : s.backend.opens + 1 ∈ List.range' 1 s.backend.opens := by
    apply sound.handles.mem_iff.mp
    exact List.mem_append_left _ (grounded _ closed)
  rw [List.mem_range'_1] at listed
  omega

end Session
end Datastore
