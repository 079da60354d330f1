import Datastore.Connection
import Datastore.Proofs.Weigh

/-!
# Counters of the backend

What one more call, closing a handle and retiring a connection do to the counters. Closing twice is
refused, so no handle is closed more than once.
-/

namespace Datastore

/-- Calls that open, begin, end and close nothing. -/
def Call.isPlain : Call → Bool
  | .refused _ | .executed _ _ | .pinged _ | .lifetimeSet _ _ | .idleLimitSet _ _ => true
  | _ => false

/-- The transaction that a call ends natively. -/
def Call.ended? : Call → Option Nat
  | .committed number | .rolledBack number => some number
  | _ => none

/-- The native end of a transaction. -/
def Call.ends (call : Call) (number : Nat) : Prop := call.ended? = some number

namespace Backend

@[simp] theorem opens_record (b : Backend) (call : Call) :
    (b.record call).opens = b.opens + call.isOpened.toNat := by
  cases call <;> simp [opens, record, List.countP_append, Call.isOpened]

@[simp] theorem begins_record (b : Backend) (call : Call) :
    (b.record call).begins = b.begins + call.isBegun.toNat := by
  cases call <;> simp [begins, record, List.countP_append, Call.isBegun]

@[simp] theorem closedHandles_record (b : Backend) (call : Call) :
    (b.record call).closedHandles = b.closedHandles ++ call.closed?.toList := by
  simp only [closedHandles, record, List.filterMap_append, List.filterMap_cons, List.filterMap_nil]
  cases call.closed? <;> rfl

theorem isClosed_iff (b : Backend) (handle : Nat) :
    b.isClosed handle = true ↔ handle ∈ b.closedHandles := by
  simp [isClosed]

/-- A handle that is closed already is left alone. -/
theorem close_eq (b : Backend) (handle : Nat) :
    (b.close handle).2 = if b.isClosed handle then b else b.record (.closed handle) := by
  rw [close]
  split <;> rfl

theorem retire_eq (b : Backend) (c : Connection) :
    (c.retire b).2 =
      if b.isClosed c.handle then b.record (.lifetimeSet c.handle Connection.retireLifetime)
      else (b.record (.lifetimeSet c.handle Connection.retireLifetime)).record
        (.closed c.handle) := by
  have same : (b.record (.lifetimeSet c.handle Connection.retireLifetime)).isClosed c.handle =
      b.isClosed c.handle := by
    simp [isClosed, Call.closed?]
  rw [← same]
  exact close_eq _ _

theorem retire_ok {b : Backend} {c : Connection} (isOpen : b.isClosed c.handle = false) :
    (c.retire b).1 = .ok () := by
  have same : (b.record (.lifetimeSet c.handle Connection.retireLifetime)).isClosed c.handle =
      false := by
    simpa [isClosed, Call.closed?] using isOpen
  rw [Connection.retire, setLifetime, close]
  rw [if_neg (by simp [same])]

/-- The closed handles once this one is closed too. -/
def closedWith (b : Backend) (handle : Nat) : List Nat :=
  if b.isClosed handle then b.closedHandles else b.closedHandles ++ [handle]

theorem closedHandles_close (b : Backend) (handle : Nat) :
    (b.close handle).2.closedHandles = b.closedWith handle := by
  rw [close_eq, closedWith]
  split <;> simp [Call.closed?]

theorem closedHandles_retire (b : Backend) (c : Connection) :
    (c.retire b).2.closedHandles = b.closedWith c.handle := by
  rw [retire_eq, closedWith]
  split <;> simp [Call.closed?]

theorem mem_closedWith {b : Backend} {handle other : Nat} :
    other ∈ b.closedWith handle ↔ other ∈ b.closedHandles ∨ other = handle := by
  rw [closedWith]
  split
  · next closed =>
    have here := (isClosed_iff b handle).mp closed
    constructor
    · exact Or.inl
    · rintro (old | rfl)
      · exact old
      · exact here
  · simp

theorem closedWith_nodup {b : Backend} (distinct : b.closedHandles.Nodup) (handle : Nat) :
    (b.closedWith handle).Nodup := by
  rw [closedWith]
  split
  · exact distinct
  · next isOpen =>
    have absent : handle ∉ b.closedHandles := fun h => isOpen ((isClosed_iff b handle).mpr h)
    refine List.nodup_append.mpr ⟨distinct, by simp, ?_⟩
    rintro a here b last rfl
    exact absent (List.mem_singleton.mp last ▸ here)

@[simp] theorem opens_close (b : Backend) (handle : Nat) : (b.close handle).2.opens = b.opens := by
  rw [close_eq]
  split <;> simp [Call.isOpened]

@[simp] theorem opens_retire (b : Backend) (c : Connection) : (c.retire b).2.opens = b.opens := by
  rw [retire_eq]
  split <;> simp [Call.isOpened]

@[simp] theorem begins_close (b : Backend) (handle : Nat) :
    (b.close handle).2.begins = b.begins := by
  rw [close_eq]
  split <;> simp [Call.isBegun]

@[simp] theorem begins_retire (b : Backend) (c : Connection) :
    (c.retire b).2.begins = b.begins := by
  rw [retire_eq]
  split <;> simp [Call.isBegun]

end Backend

namespace Call

variable {call : Call} {number : Nat}

theorem isOpened_of_plain (plain : call.isPlain = true) : call.isOpened = false := by
  cases call <;> first | rfl | cases plain

theorem isBegun_of_plain (plain : call.isPlain = true) : call.isBegun = false := by
  cases call <;> first | rfl | cases plain

theorem closed?_of_plain (plain : call.isPlain = true) : call.closed? = none := by
  cases call <;> first | rfl | cases plain

theorem ended?_of_plain (plain : call.isPlain = true) : call.ended? = none := by
  cases call <;> first | rfl | cases plain

theorem isOpened_of_ends (ends : call.ends number) : call.isOpened = false := by
  cases call <;> first | rfl | cases ends

theorem isBegun_of_ends (ends : call.ends number) : call.isBegun = false := by
  cases call <;> first | rfl | cases ends

theorem closed?_of_ends (ends : call.ends number) : call.closed? = none := by
  cases call <;> first | rfl | cases ends

end Call

namespace Backend

/-- The sum of a weight over all transactions that began. -/
def begunWeight (g : Nat → Nat) (b : Backend) : Nat := weigh g (List.range' 1 b.begins)

/-- The sum of a weight over all native ends of transactions. -/
def endedWeight (g : Nat → Nat) (b : Backend) : Nat := weigh g (b.log.filterMap Call.ended?)

theorem begunWeight_begun (g : Nat → Nat) (b : Backend) (handle : Nat) :
    begunWeight g (b.record (.begun handle)) =
      begunWeight g b + g (b.record (.begun handle)).begins := by
  simp [begunWeight, Call.isBegun, List.range'_1_concat, Nat.add_comm 1]

theorem begunWeight_record (g : Nat → Nat) (b : Backend) {call : Call}
    (other : call.isBegun = false) : begunWeight g (b.record call) = begunWeight g b := by
  simp [begunWeight, other]

theorem endedWeight_record (g : Nat → Nat) (b : Backend) (call : Call) :
    endedWeight g (b.record call) = endedWeight g b + weigh g call.ended?.toList := by
  simp only [endedWeight, record, List.filterMap_append, List.filterMap_cons, List.filterMap_nil]
  cases call.ended? <;> simp

/-- As many transactions began as ended, whatever they weigh. -/
def Balanced (b b' : Backend) : Prop :=
  ∀ g, endedWeight g b' + begunWeight g b = endedWeight g b + begunWeight g b'

theorem Balanced.refl (b : Backend) : Balanced b b := fun _ => rfl

theorem Balanced.trans {b b' b'' : Backend} (first : Balanced b b') (second : Balanced b' b'') :
    Balanced b b'' := by
  intro g
  have one := first g
  have two := second g
  omega

theorem balanced_record (b : Backend) {call : Call} (notBegun : call.isBegun = false)
    (notEnded : call.ended? = none) : Balanced b (b.record call) := by
  intro g
  rw [begunWeight_record g b notBegun, endedWeight_record, notEnded]
  simp

theorem balanced_of_log {b b' : Backend} (same : b'.log = b.log) : Balanced b b' := by
  intro g
  simp only [endedWeight, begunWeight, begins, same]

/-- A transaction that begins and ends at once. -/
theorem balanced_passed (b : Backend) (handle : Nat) {call : Call}
    (ends : call.ends (b.record (.begun handle)).begins) :
    Balanced b ((b.record (.begun handle)).record call) := by
  intro g
  have last : call.ended? = some _ := ends
  have none : (Call.begun handle).ended? = none := rfl
  rw [begunWeight_record g _ (Call.isBegun_of_ends ends), begunWeight_begun, endedWeight_record,
    endedWeight_record, last, none]
  simp
  omega

theorem balanced_close (b : Backend) (handle : Nat) : Balanced b (b.close handle).2 := by
  rw [close_eq]
  split
  · exact Balanced.refl b
  · exact balanced_record b rfl rfl

theorem balanced_retire (b : Backend) (c : Connection) : Balanced b (c.retire b).2 := by
  have first : Balanced b (b.record (.lifetimeSet c.handle Connection.retireLifetime)) :=
    balanced_record b rfl rfl
  exact first.trans (balanced_close _ _)

end Backend
end Datastore
