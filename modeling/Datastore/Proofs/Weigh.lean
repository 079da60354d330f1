/-!
# Weights

The sum of a weight over a list. Counting is the weight of one for each thing with a given key.
Main statements: `weigh_tagged`, `perm_of_weigh`.
-/

namespace Datastore

variable {α β : Type}

def weigh (ν : α → Nat) : List α → Nat
  | [] => 0
  | x :: rest => ν x + weigh ν rest

@[simp] theorem weigh_nil (ν : α → Nat) : weigh ν [] = 0 := rfl

@[simp] theorem weigh_cons (ν : α → Nat) (x : α) (xs : List α) :
    weigh ν (x :: xs) = ν x + weigh ν xs := rfl

@[simp] theorem weigh_append (ν : α → Nat) (xs ys : List α) :
    weigh ν (xs ++ ys) = weigh ν xs + weigh ν ys := by
  induction xs with
  | nil => simp
  | cons x rest ih =>
    simp only [List.cons_append, weigh_cons, ih]
    omega

theorem weigh_add (ν μ : α → Nat) (xs : List α) :
    weigh (fun x => ν x + μ x) xs = weigh ν xs + weigh μ xs := by
  induction xs with
  | nil => rfl
  | cons x rest ih =>
    simp only [weigh_cons, ih]
    omega

theorem weigh_mono {ν μ : α → Nat} (less : ∀ x, ν x ≤ μ x) (xs : List α) :
    weigh ν xs ≤ weigh μ xs := by
  induction xs with
  | nil => exact Nat.le_refl _
  | cons x rest ih => exact Nat.add_le_add (less x) ih

theorem weigh_flatMap (ν : β → Nat) (part : α → List β) (xs : List α) :
    weigh ν (xs.flatMap part) = weigh (fun x => weigh ν (part x)) xs := by
  induction xs with
  | nil => rfl
  | cons x rest ih => simp only [List.flatMap_cons, weigh_append, weigh_cons, ih]

theorem weigh_eq_zero {ν : α → Nat} {xs : List α} : weigh ν xs = 0 ↔ ∀ x ∈ xs, ν x = 0 := by
  induction xs with
  | nil => simp
  | cons x rest ih => rw [weigh_cons, Nat.add_eq_zero_iff, ih, List.forall_mem_cons]

/-- One thing weighs no more than all together. -/
theorem le_weigh (ν : α → Nat) {x : α} {xs : List α} (here : x ∈ xs) : ν x ≤ weigh ν xs := by
  obtain ⟨before, after, rfl⟩ := List.append_of_mem here
  simp only [weigh_append, weigh_cons]
  omega

/-- What one thing weighs less, all together weigh less. -/
theorem weigh_mono_of_mem {ν μ : α → Nat} (less : ∀ x, ν x ≤ μ x) {x : α} {xs : List α}
    (here : x ∈ xs) : weigh ν xs + μ x ≤ weigh μ xs + ν x := by
  obtain ⟨before, after, rfl⟩ := List.append_of_mem here
  have first := weigh_mono less before
  have last := weigh_mono less after
  simp only [weigh_append, weigh_cons]
  omega

/-- One for the things with this key. -/
def tagged (key : α → Nat) (value : Nat) (x : α) : Nat := if key x = value then 1 else 0

theorem tagged_self (key : α → Nat) (x : α) : tagged key (key x) x = 1 := if_pos rfl

theorem weigh_tagged (key : α → Nat) (value : Nat) (xs : List α) :
    weigh (tagged key value) xs = (xs.map key).count value := by
  induction xs with
  | nil => rfl
  | cons x rest ih =>
    simp only [weigh_cons, List.map_cons, List.count_cons, tagged, ih, beq_iff_eq]
    omega

theorem weigh_count [DecidableEq α] (value : α) (xs : List α) :
    weigh (fun x => if x = value then 1 else 0) xs = xs.count value := by
  induction xs with
  | nil => rfl
  | cons x rest ih =>
    simp only [weigh_cons, List.count_cons, ih, beq_iff_eq]
    omega

/-- What weighs the same by every measure is the same up to order. -/
theorem perm_of_weigh [DecidableEq α] {xs ys : List α} (same : ∀ ν, weigh ν xs = weigh ν ys) :
    xs.Perm ys := by
  rw [List.perm_iff_count]
  intro value
  rw [← weigh_count, ← weigh_count, same]

end Datastore
