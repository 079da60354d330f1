import Datastore.Proofs.Session.Effect

/-!
# Chains of effects on the system

The part of a move that concerns the system alone: calls to the backend, making a connection,
checking one out, retiring connections, beginning and ending transactions. Main statement:
`checkout_effects`.
-/

namespace Datastore

namespace Provider

/-- A checkout that came to an end: with a connection, or with its slot alone. -/
def Checkout.midway (s : System) (n e : Nat) (o : List Nat) (q l : List Connection) :
    Checkout → Midway System
  | .ready c | .stalled c => ⟨s, n, e + 1, o, c :: q, l⟩
  | .failed _ => ⟨s, n + 1, e, o, q, l⟩

/-- What a manufacture adds to the hand. -/
def newcomers : Except Error Connection → List Connection
  | .ok c => [c]
  | .error _ => []

end Provider

namespace System

open Relation.ReflTransGen

variable {s : System} {n e : Nat} {o : List Nat} {q l : List Connection}

theorem run_effects (handle : Nat) (statement : String) :
    Effects ⟨s, n, e, o, q, l⟩
      ⟨{ s with backend := (s.backend.run handle statement).2 }, n, e, o, q, l⟩ :=
  single (.called (.executed handle statement) rfl)

theorem execute_effects (handle : Nat) (statement : String) :
    Effects ⟨s, n, e, o, q, l⟩
      ⟨{ s with backend := (s.backend.execute handle statement).2 }, n, e, o, q, l⟩ := by
  rw [Backend.execute]
  split
  · exact refl
  · exact run_effects handle statement

theorem tune_effects (c : Connection) (tuning : Tuning) :
    Effects ⟨s, n, e, o, q, l⟩
      ⟨{ s with backend := c.tune tuning s.backend }, n, e, o, q, l⟩ := by
  obtain ⟨lifetime, maxIdle⟩ := tuning
  cases lifetime with
  | none =>
    cases maxIdle with
    | none => exact refl
    | some limit => exact single (.called (.idleLimitSet c.handle limit) rfl)
  | some lifetime =>
    have first : Effect ⟨s, n, e, o, q, l⟩ ⟨{ s with
        backend := s.backend.setLifetime c.handle lifetime }, n, e, o, q, l⟩ :=
      .called (.lifetimeSet c.handle lifetime) rfl
    cases maxIdle with
    | none => exact single first
    | some limit => exact (single first).tail (.called (.idleLimitSet c.handle limit) rfl)

theorem initialise_effects (p : Provider) (handle : Nat) (statements : List String) :
    Effects ⟨s, n, e, o, q, l⟩
      ⟨{ s with backend := (p.initialise handle statements s.backend).2 }, n, e, o, q, l⟩ := by
  induction statements generalizing s with
  | nil => exact refl
  | cons statement rest ih =>
    have first := execute_effects (s := s) (n := n) (e := e) (o := o) (q := q) (l := l)
      handle statement
    rw [Provider.initialise]
    split
    · next source b failed =>
      simpa only [failed] using first
    · next count b done =>
      rw [done] at first
      exact first.trans (ih (s := { s with backend := b }))

theorem manufacture_effects (p : Provider) :
    Effects ⟨s, n, e, o, q, l⟩
      ⟨(p.manufacture s).2, n, e, o, Provider.newcomers (p.manufacture s).1 ++ q, l⟩ := by
  rw [Provider.manufacture]
  split
  · exact refl
  · next dsn _ =>
    split
    · exact refl
    · rw [Backend.openHandle]
      by_cases fault : s.backend.has .opens
      · simp only [fault, if_true]
        exact single (.called (.refused dsn) rfl)
      · simp only [fault]
        have first : Effects ⟨s, n, e, o, q, l⟩ _ := single (.opened dsn)
        have second := first.trans (initialise_effects p
          (s.backend.record (.opened dsn)).opens p.config.initSql)
        simp only [Bool.false_eq_true, if_false]
        split
        · next error backend failed =>
          rw [failed] at second
          exact second.tail (.orphaned _)
        · next backend done =>
          rw [done] at second
          exact second.tail (.wrapped _ _)

theorem examine_effects (c : Connection) :
    Effects ⟨s, n, e, o, q, l⟩ ⟨(Provider.examine s c).2, n, e, o, q, l⟩ := by
  rw [Provider.examine]
  split
  · have first : Effects ⟨s, n, e, o, q, l⟩ _ := single (.called (.pinged c.handle) rfl)
    exact first.tail (.examined c _)
  · exact single (.examined c .recent)

theorem checkoutNew_effects (p : Provider) :
    Effects ⟨s, n, e + 1, o, q, l⟩ ((p.checkoutNew s).1.midway (p.checkoutNew s).2 n e o q l) := by
  have making := manufacture_effects (s := s) (n := n) (e := e + 1) (o := o) (q := q) (l := l) p
  rw [Provider.checkoutNew]
  split
  · next error y failed =>
    rw [failed] at making
    exact making.tail .disengaged
  · next c y done =>
    rw [done] at making
    exact making.tail (.issued (List.mem_cons_self ..))

theorem recycle_effects (p : Provider) (c : Connection) :
    Effects ⟨s, n, e + 1, o, c :: q, l⟩
      ((p.recycle s c).1.midway (p.recycle s c).2 n e o q l) := by
  have examined := examine_effects (s := s) (n := n) (e := e + 1) (o := o) (q := c :: q) (l := l) c
  have tuned := examined.trans (tune_effects c p.tuning)
  unfold Provider.recycle
  dsimp only
  split
  · exact examined
  · exact tuned.tail (.issued (List.mem_cons_self ..))
  · exact tuned.tail (.issued (List.mem_cons_self ..))
  · exact ((tuned.tail (.loosened c)).tail (.retired c)).trans (checkoutNew_effects p)

/-- A checkout starts with a slot. -/
theorem checkout_effects (p : Provider) :
    Effects ⟨s, n + 1, e, o, q, l⟩ ((p.checkout s).1.midway (p.checkout s).2 n e o q l) := by
  rw [Provider.checkout]
  split
  · next empty => exact (single (.engaged empty)).trans (checkoutNew_effects p)
  · next c rest front => exact (single (.taken front)).trans (recycle_effects p c)

theorem retireAll_effects (cs : List Connection) :
    Effects ⟨s, n, e, o, q, cs ++ l⟩ ⟨s.retireAll cs, n, e, o, q, l⟩ := by
  induction cs generalizing s with
  | nil => exact refl
  | cons c rest ih => exact (single (.retired c)).trans ih

theorem begin_effects (c : Connection) :
    Effects ⟨s, n, e, o, q, c :: l⟩
      ⟨{ s with backend := (c.beginTransaction s.backend).2.2 }, n, e, o, q,
        (c.beginTransaction s.backend).2.1 :: l⟩ := by
  rw [Connection.beginTransaction]
  split
  · exact refl
  · split
    · exact refl
    · next idle =>
      have free : c.transaction = none := by simpa [Connection.inTransaction] using idle
      rw [Backend.beginTransaction]
      by_cases closed : s.backend.isClosed c.handle
      · simp only [closed, if_true]
        exact refl
      · by_cases fault : s.backend.has .begins
        · simp only [closed, fault, Bool.false_eq_true, if_false, if_true]
          exact refl
        · simp only [closed, fault, Bool.false_eq_true, if_false]
          exact single (.begun free)

theorem finish_effects (c : Connection)
    (call : Backend → Nat → Except DriverError Unit × Backend)
    (ends : ∀ b number, ∃ entry : Call, entry.ends number ∧ (call b number).2 = b.record entry) :
    Effects ⟨s, n, e, o, q, c :: l⟩
      ⟨{ s with backend := (c.finish s.backend call).2.2 }, n, e, o, q,
        (c.finish s.backend call).2.1 :: l⟩ := by
  rw [Connection.finish]
  split
  · exact refl
  · split
    · exact refl
    · next number active =>
      obtain ⟨entry, last, same⟩ := ends s.backend number
      simp only [same]
      exact single (.ended active last)

theorem nativeTransaction_effects (handle : Nat)
    (call : Backend → Nat → Except DriverError Unit × Backend)
    (ends : ∀ b number, ∃ entry : Call, entry.ends number ∧ (call b number).2 = b.record entry) :
    Effects ⟨s, n, e, o, q, l⟩
      ⟨{ s with backend := (call (s.backend.record (.begun handle))
          (s.backend.record (.begun handle)).begins).2 }, n, e, o, q, l⟩ := by
  obtain ⟨entry, last, same⟩ :=
    ends (s.backend.record (.begun handle)) (s.backend.record (.begun handle)).begins
  rw [same]
  exact single (.passed handle last)

end System

namespace Backend

theorem commit_ends (b : Backend) (number : Nat) :
    ∃ entry : Call, entry.ends number ∧ (b.commit number).2 = b.record entry :=
  ⟨.committed number, rfl, rfl⟩

theorem rollback_ends (b : Backend) (number : Nat) :
    ∃ entry : Call, entry.ends number ∧ (b.rollback number).2 = b.record entry :=
  ⟨.rolledBack number, rfl, rfl⟩

end Backend
end Datastore
