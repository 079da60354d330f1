/-!
# Decimal numerals

Integers as text: an optional sign and one or more of the ten ASCII digits, leading zeros
allowed. Reading is exact and unbounded; a caller with a bounded type asks for a range. The main
statement is that a natural number reads back from the digits written for it.
-/

namespace Datastore.Text.Numeral

/-- The value of one of the ten ASCII digits. -/
def digit? (c : Char) : Option Nat :=
  if '0'.toNat ≤ c.toNat ∧ c.toNat ≤ '9'.toNat then some (c.toNat - '0'.toNat) else none

/-- Reads further digits behind a number already read. -/
def extend : Nat → List Char → Option Nat
  | n, [] => some n
  | n, c :: rest => (digit? c).bind fun d => extend (10 * n + d) rest

/-- The value of a non-empty run of digits. -/
def natural? : List Char → Option Nat
  | [] => none
  | cs => extend 0 cs

/-- A natural number with an optional plus sign, up to `limit`. -/
def unsigned? (limit : Nat) (cs : List Char) : Option Nat :=
  let digits := match cs with
    | '+' :: rest => rest
    | _ => cs
  (natural? digits).filter (· ≤ limit)

/-- An integer with an optional sign, from `-2^(bits-1)` to `2^(bits-1) - 1`. -/
def signed? (bits : Nat) (cs : List Char) : Option Int :=
  let value := match cs with
    | '-' :: rest => (natural? rest).map fun n => -(n : Int)
    | '+' :: rest => (natural? rest).map Int.ofNat
    | _ => (natural? cs).map Int.ofNat
  let bound : Int := Nat.pow 2 (bits - 1)
  value.filter fun n => -bound ≤ n ∧ n < bound

/-- The digits of a natural number, without leading zeros. -/
def decimal (n : Nat) : List Char := Nat.toDigits 10 n

/-- The digits of an integer behind a minus sign if it is negative. -/
def decimalInt : Int → List Char
  | .ofNat n => decimal n
  | .negSucc n => '-' :: decimal (n + 1)

/-- At least `width` digits, filled up with zeros in front. -/
def padded (width n : Nat) : List Char :=
  List.replicate (width - (decimal n).length) '0' ++ decimal n

theorem digit?_digitChar {d : Nat} (h : d < 10) : digit? (Nat.digitChar d) = some d := by
  match d, h with
  | 0, _ | 1, _ | 2, _ | 3, _ | 4, _ | 5, _ | 6, _ | 7, _ | 8, _ | 9, _ => decide

theorem extend_append (n : Nat) (a b : List Char) :
    extend n (a ++ b) = (extend n a).bind fun m => extend m b := by
  induction a generalizing n with
  | nil => rfl
  | cons c a ih =>
    cases hd : digit? c with
    | none => simp [extend, hd]
    | some d => simp [extend, hd, ih]

theorem extend_decimal (n : Nat) : extend 0 (decimal n) = some n := by
  induction n using Nat.strongRecOn with
  | ind n ih =>
    by_cases h : n < 10
    · simp [decimal, Nat.toDigits_of_lt_base h, extend, digit?_digitChar h]
    · have hn : 10 ≤ n := by omega
      have split : decimal n = decimal (n / 10) ++ [Nat.digitChar (n % 10)] := by
        simpa [decimal] using Nat.toDigits_of_base_le (by decide) hn
      rw [split, extend_append, ih (n / 10) (by omega)]
      simp [extend, digit?_digitChar (Nat.mod_lt n (by decide))]
      omega

theorem decimal_ne_nil (n : Nat) : decimal n ≠ [] := by
  intro h
  have := extend_decimal n
  by_cases hn : n < 10
  · simp [decimal, Nat.toDigits_of_lt_base hn] at h
  · simp [decimal, Nat.toDigits_of_base_le (b := 10) (by decide) (by omega : 10 ≤ n)] at h

theorem natural?_decimal (n : Nat) : natural? (decimal n) = some n := by
  have h := extend_decimal n
  cases hd : decimal n with
  | nil => exact absurd hd (decimal_ne_nil n)
  | cons c rest => simpa [natural?, hd] using h

end Datastore.Text.Numeral
