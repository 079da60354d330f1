import Datastore.Proofs.Session.Journal
import Datastore.Proofs.Session.Origin

/-!
# Manufacture

A connection is made by the provider, or by a caller who wraps a handle without one. All that a
provider makes have one dialect, the one that its registry has for its driver, and a connection
keeps the dialect that it was made with. Main statements: `manufactured_after`, `Sound.dialect_eq`.
-/

namespace Datastore

/-- The dialect of all connections that a provider makes. -/
def Provider.dialect (p : Provider) : Dialect := p.dialects.resolve p.config.driverName

namespace System

variable {s s' s'' : System} {dialect : Dialect}

/-- All connections made between two states have this dialect. -/
def Makes (dialect : Dialect) (s s' : System) : Prop :=
  ∃ new, s'.history Movement.made? = s.history Movement.made? ++ new ∧
    ∀ c ∈ new, c.dialect = dialect

theorem Makes.nobody (same : s'.history Movement.made? = s.history Movement.made?) :
    Makes dialect s s' := ⟨[], by rw [same, List.append_nil], by simp⟩

theorem Makes.trans (first : Makes dialect s s') (second : Makes dialect s' s'') :
    Makes dialect s s'' := by
  obtain ⟨new, grown, own⟩ := first
  obtain ⟨more, grown', own'⟩ := second
  refine ⟨new ++ more, by rw [grown', grown, List.append_assoc], fun c here => ?_⟩
  rcases List.mem_append.mp here with early | late
  · exact own c early
  · exact own' c late

/-- What is noted makes nobody, unless it says so. -/
theorem Makes.noted {movement : Movement} (other : movement.made? = none) :
    Makes dialect s (s.note movement) :=
  .nobody (by rw [history_note, other, Option.toList_none, List.append_nil])

theorem makes_retireAll (cs : List Connection) : Makes dialect s (s.retireAll cs) := by
  induction cs generalizing s with
  | nil => exact .nobody rfl
  | cons c rest ih =>
    have first : Makes dialect s (s.retire c).2 :=
      .nobody (by rw [history_retire]; exact List.append_nil _)
    exact first.trans ih

theorem makes_forsakeAll (cs : List Connection) : Makes dialect s (s.forsakeAll cs) := by
  induction cs generalizing s with
  | nil => exact .nobody rfl
  | cons c rest ih => exact (Makes.noted rfl : Makes dialect s (s.note (.forsaken c))).trans ih

theorem Makes.of_writes {p : Provider} (writes : Writes p.Notes s s') :
    Makes p.dialect s s' := by
  obtain ⟨new, grown, own⟩ := writes.history Movement.made?
  refine ⟨new, grown, fun c here => ?_⟩
  obtain ⟨movement, noted, said⟩ := own c here
  cases noted with
  | made own =>
    cases said
    exact own
  | _ => cases said

end System

namespace Session

variable {s : Session} {m : Move} {p : Provider}

/-- The connections that a move makes. -/
def newlyMade (s : Session) (m : Move) : List Connection :=
  ((s.move m).history Movement.made?).drop (s.history Movement.made?).length

/-- Callers wrap no handles without the provider. -/
def sparesWrapping (_ : Session) : Move → Bool
  | .command (.openDirect _ _ _) => false
  | _ => true

/-- The connections that the provider makes in a move: all but those that callers wrap. -/
def manufactured (s : Session) (m : Move) : List Connection :=
  if sparesWrapping s m then s.newlyMade m else []

theorem history_made_move (orderly : Orderly s) (m : Move) :
    (s.move m).history Movement.made? = s.history Movement.made? ++ s.newlyMade m := by
  obtain ⟨new, grown⟩ := history_grows orderly m Movement.made?
  rw [newlyMade, grown, List.drop_left]

theorem makes_move (served : s.provider = some p) (spares : sparesWrapping s m = true) :
    System.Makes p.dialect s.toSystem (s.toSystem.enact (s.act m)) := by
  have known := s.acts m
  generalize s.act m = a at known
  cases known with
  | checkout served' =>
    obtain rfl := Option.some.inj (served.symm.trans served')
    exact .of_writes (p.writes_checkout s.toSystem)
  | manufacture served' =>
    obtain rfl := Option.some.inj (served.symm.trans served')
    exact .of_writes (p.writes_manufacture s.toSystem)
  | openDirect => cases spares
  | withdraw =>
    simp only [System.enact, System.withdraw]
    split
    · exact .nobody rfl
    · exact .noted rfl
  | returned | enqueued | retire | forsake | rejected | probe => exact .noted rfl
  | @close _ retire =>
    have shut : System.Makes p.dialect s.toSystem s.toSystem.close.2 :=
      .nobody (System.history_close _ fun _ => rfl)
    cases retire with
    | true => exact shut.trans (System.makes_retireAll _)
    | false => exact shut.trans (System.makes_forsakeAll _)
  | _ => exact .nobody rfl

theorem dialect_newlyMade (served : s.provider = some p) (spares : sparesWrapping s m = true) :
    ∀ c ∈ s.newlyMade m, c.dialect = p.dialect := by
  obtain ⟨new, grown, own⟩ := makes_move served spares
  rw [newlyMade, history_move, grown, List.drop_left]
  exact own

theorem manufactured_move (orderly : Orderly s) (served : s.provider = some p) {c : Connection}
    (here : c ∈ s.manufactured m) :
    c.dialect = p.dialect ∧ c ∈ (s.move m).history Movement.made? := by
  rw [manufactured] at here
  split at here
  · next spares =>
    rw [history_made_move orderly]
    exact ⟨dialect_newlyMade served spares c here, List.mem_append_right _ here⟩
  · cases here

/-- Whatever callers do, all that the provider makes in a run have its dialect. -/
theorem manufactured_after (orderly : Orderly s) (served : s.provider = some p)
    {moves : List Move} {c : Connection} (here : c ∈ along manufactured s moves) :
    c.dialect = p.dialect ∧ c ∈ (s.after moves).history Movement.made? := by
  induction moves generalizing s with
  | nil => cases here
  | cons m rest ih =>
    have orderly' : Orderly (s.move m) := orderly_move orderly m
    rcases List.mem_append.mp here with early | late
    · obtain ⟨dialect, made⟩ := manufactured_move orderly served early
      exact ⟨dialect, System.mem_history_of_prefix (journal_after orderly' rest) made⟩
    · exact ih orderly' ((provider_after orderly [m]).trans served) late

/-- If callers wrap no handles, the provider makes all connections. -/
theorem history_made_after (orderly : Orderly s) {moves : List Move}
    (admitted : Admitted sparesWrapping s moves) : (s.after moves).history Movement.made? =
      s.history Movement.made? ++ along manufactured s moves := by
  induction moves generalizing s with
  | nil => simp [along]
  | cons m rest ih =>
    rw [after_cons, ih (orderly_move orderly m) admitted.2, history_made_move orderly, along,
      manufactured, if_pos admitted.1, List.append_assoc]

/-- A connection keeps the dialect that it was made with. -/
theorem Sound.dialect_eq (sound : Sound (rest s)) {c first : Connection} (here : c ∈ s.live)
    (made : first ∈ s.history Movement.made?) (same : first.id = c.id) :
    c.dialect = first.dialect := by
  obtain ⟨origin, there, identity⟩ := sound.origin here
  have distinct : ((s.history Movement.made?).map Connection.id).Nodup :=
    sound.registered.ids ▸ List.nodup_range'
  have number : origin.id = c.id := congrArg (·.1) identity
  obtain rfl := List.inj_on_of_nodup_map distinct there made (number.trans same.symm)
  exact (congrArg (·.2.2) identity).symm

end Session
end Datastore
