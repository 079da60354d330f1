import Datastore.Proofs.Session.Handout

/-!
# What checkouts write

A checkout writes into the journal whom it takes, examines, retires, makes and hands out, and which
handle it leaves to nobody. It drops nobody, and whom it makes has the dialect of the provider. Main
statement: `writes_checkout`.
-/

namespace Datastore

namespace System

variable {s s' s'' : System} {kind : Movement → Prop} {movement : Movement}

/-- Between these states only movements of this kind were written. -/
def Writes (kind : Movement → Prop) (s s' : System) : Prop :=
  ∃ more, s'.journal = s.journal ++ more ∧ ∀ entry ∈ more, kind entry.2

theorem Writes.nothing (same : s'.journal = s.journal) : Writes kind s s' :=
  ⟨[], by rw [same, List.append_nil], by simp⟩

theorem Writes.noted (right : kind movement) : Writes kind s (s.note movement) :=
  ⟨[(s.clock, movement)], rfl, by simpa using right⟩

theorem Writes.trans (first : Writes kind s s') (second : Writes kind s' s'') :
    Writes kind s s'' := by
  obtain ⟨more, same, own⟩ := first
  obtain ⟨more', same', own'⟩ := second
  refine ⟨more ++ more', by rw [same', same, List.append_assoc], fun entry here => ?_⟩
  rcases List.mem_append.mp here with early | late
  · exact own entry early
  · exact own' entry late

theorem Writes.grows (writes : Writes kind s s') : s.journal <+: s'.journal := by
  obtain ⟨more, same, -⟩ := writes
  exact ⟨more, same.symm⟩

/-- What is new about a matter is what such movements say of it. -/
theorem Writes.history {α : Type} (writes : Writes kind s s') (matter : Movement → Option α) :
    ∃ new, s'.history matter = s.history matter ++ new ∧
      ∀ thing ∈ new, ∃ movement, kind movement ∧ matter movement = some thing := by
  obtain ⟨more, same, own⟩ := writes
  refine ⟨more.filterMap fun entry => matter entry.2, ?_, ?_⟩
  · rw [System.history, same, List.filterMap_append]
    rfl
  · intro thing here
    obtain ⟨entry, there, said⟩ := List.mem_filterMap.mp here
    exact ⟨entry.2, own entry there, said⟩

theorem Writes.unchanged {α : Type} (writes : Writes kind s s') {matter : Movement → Option α}
    (silent : ∀ movement, kind movement → matter movement = none) :
    s'.history matter = s.history matter := by
  obtain ⟨new, same, own⟩ := writes.history matter
  have empty : new = [] := by
    refine List.eq_nil_iff_forall_not_mem.mpr fun thing here => ?_
    obtain ⟨movement, right, said⟩ := own thing here
    rw [silent movement right] at said
    cases said
  rw [same, empty, List.append_nil]

end System

namespace Provider

variable (p : Provider) (s : System)

/-- What a checkout can write. -/
inductive Notes (p : Provider) : Movement → Prop
  | made {c : Connection} (own : c.dialect = p.dialects.resolve p.config.driverName) :
    Notes p (.made c)
  | orphaned (handle : Nat) : Notes p (.orphaned handle)
  | taken (c : Connection) : Notes p (.taken c)
  | examined (c : Connection) (finding : Finding) : Notes p (.examined c finding)
  | issued (c : Connection) : Notes p (.issued c)
  | retired (c : Connection) : Notes p (.retired c)

theorem writes_manufacture : System.Writes p.Notes s (p.manufacture s).2 := by
  unfold manufacture
  split
  · exact .nothing rfl
  · split
    · exact .nothing rfl
    · split
      · exact .nothing rfl
      · split
        · exact .noted (.orphaned _)
        · exact .noted (.made rfl)

theorem writes_checkoutNew : System.Writes p.Notes s (p.checkoutNew s).2 := by
  have made := p.writes_manufacture s
  rw [checkoutNew]
  split
  · next ran =>
    rw [ran] at made
    exact made
  · next ran =>
    rw [ran] at made
    exact made.trans (.noted (.issued _))

theorem writes_examine (c : Connection) : System.Writes p.Notes s (examine s c).2 := by
  rw [examine]
  split
  · exact .noted (.examined _ _)
  · exact .noted (.examined _ _)

theorem writes_recycle (c : Connection) : System.Writes p.Notes s (p.recycle s c).2 := by
  have examined := p.writes_examine s c
  cases ends : verdict s.backend s.clock c with
  | recent =>
    rw [recycle_of_passes (Or.inl ends)]
    exact examined.trans (.noted (.issued c))
  | alive =>
    rw [recycle_of_passes (Or.inr ends)]
    exact examined.trans (.noted (.issued c))
  | stalled =>
    rw [recycle_of_stalled ends]
    exact examined
  | failed =>
    rw [recycle_of_failed ends]
    exact (examined.trans (.noted (.retired c))).trans (p.writes_checkoutNew _)

theorem writes_checkout : System.Writes p.Notes s (p.checkout s).2 := by
  cases line : s.pool.idle with
  | nil =>
    rw [checkout_nil line]
    exact p.writes_checkoutNew s
  | cons c rest =>
    rw [checkout_cons line]
    exact System.Writes.trans (.noted (.taken c)) (p.writes_recycle _ c)

end Provider
end Datastore
