import Datastore.Proofs.Session.Register

/-!
# Connections in circulation

Between two moves every connection that is not gone is idle, held or about to be retired. Counting
those with one handle or one number is a weight in the ledger. Main statement: `tally_rest`.
-/

namespace Datastore

namespace Holding

/-- The connection that a caller has with a slot, or has only to collect. -/
def guarded : Holding → List Connection
  | .pooled c | .waiter _ (.finished (.ok (.connection c))) => [c]
  | _ => []

/-- The connection whose probe never answers. -/
def probed : Holding → List Connection
  | .waiter _ (.probing c) => [c]
  | _ => []

/-- The connection that a caller has without a slot. -/
def bared : Holding → List Connection
  | .bare c => [c]
  | _ => []

theorem mem_guarded_iff {c : Connection} {t : Holding} : c ∈ t.guarded ↔
    t = .pooled c ∨ ∃ wish, t = .waiter wish (.finished (.ok (.connection c))) := by
  constructor
  · intro here
    unfold guarded at here
    split at here
    · exact Or.inl (congrArg Holding.pooled (List.mem_singleton.mp here).symm)
    · next wish c' =>
      obtain rfl := List.mem_singleton.mp here
      exact Or.inr ⟨wish, rfl⟩
    · cases here
  · rintro (rfl | ⟨wish, rfl⟩) <;> exact List.mem_singleton_self c

theorem mem_probed_iff {c : Connection} {t : Holding} :
    c ∈ t.probed ↔ ∃ wish, t = .waiter wish (.probing c) := by
  constructor
  · intro here
    unfold probed at here
    split at here
    · next wish c' =>
      obtain rfl := List.mem_singleton.mp here
      exact ⟨wish, rfl⟩
    · cases here
  · rintro ⟨wish, rfl⟩
    exact List.mem_singleton_self c

theorem cargo_eq (ν : Connection → Nat) (t : Holding) :
    t.cargo ν = weigh ν t.guarded + weigh ν t.probed + weigh ν t.bared := by
  cases t with
  | waiter wish progress =>
    cases progress with
    | finished outcome =>
      cases outcome with
      | ok gain => cases gain <;> rfl
      | error error => rfl
    | probing c => simp [cargo, quiet, loose, guarded, probed, bared]
    | _ => rfl
  | pooled c | bare c => simp [cargo, quiet, loose, guarded, probed, bared]
  | slot => rfl

end Holding

namespace Session

/-- The connections of all holdings. -/
def held (s : Session) (part : Holding → List Connection) : List Connection :=
  s.holdings.entries.flatMap fun entry => part entry.2

/-- Connections at rest or held. -/
def circulating (s : Session) : List Connection :=
  s.pool.idle ++ s.held Holding.guarded ++ s.held Holding.probed ++ s.held Holding.bared

/-- Connections at rest, held or about to be retired. -/
def live (s : Session) : List Connection := s.circulating ++ s.doomed

theorem weigh_held (s : Session) (ν : Connection → Nat) (part : Holding → List Connection) :
    weigh ν (s.held part) = s.holdings.total fun t => weigh ν (part t) :=
  weigh_flatMap ν _ _

theorem tally_rest (s : Session) (ν : Connection → Nat) :
    tally ν (rest s) = weigh ν s.live + weigh ν (s.history Movement.gone?) := by
  have split : s.holdings.total (Holding.cargo ν) =
      weigh ν (s.held Holding.guarded) + weigh ν (s.held Holding.probed) +
        weigh ν (s.held Holding.bared) := by
    simp only [weigh_held, ← Table.total_add]
    exact congrArg s.holdings.total (funext (Holding.cargo_eq ν))
  simp only [tally, onSystem, rest, System.tally, live, circulating, weigh_append, weigh_nil,
    split]
  omega

theorem steady_handle (handle : Nat) : Steady (tagged Connection.handle handle) :=
  ⟨fun _ _ => rfl, fun _ _ => rfl⟩

theorem steady_id (id : Nat) : Steady (tagged Connection.id id) :=
  ⟨fun _ _ => rfl, fun _ _ => rfl⟩

theorem mem_held {s : Session} {name : String} {t : Holding}
    (known : s.holdings.find? name = some t) {part : Holding → List Connection} {c : Connection}
    (here : c ∈ part t) : c ∈ s.held part := by
  obtain ⟨before, after, split, -⟩ := List.lookup_eq_some_iff.mp known
  exact List.mem_flatMap.mpr ⟨(name, t), by simp [split], here⟩

theorem mem_live_of_connection? {s : Session} {name : String} {c : Connection}
    (known : s.connection? name = some c) : c ∈ s.live := by
  rcases find?_of_connection? known with pooled | bare
  · have here : c ∈ s.held Holding.guarded := mem_held pooled (List.mem_singleton_self c)
    simp [live, circulating, here]
  · have here : c ∈ s.held Holding.bared := mem_held bare (List.mem_singleton_self c)
    simp [live, circulating, here]

end Session
end Datastore
