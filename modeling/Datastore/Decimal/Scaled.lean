import Datastore.Decimal.Binary

/-!
# Decimal numerals as binary magnitudes

A numeral is read into a significand of 64 bits and a power of ten, and its value is the rounded
significand times or over the rounded power: two roundings, or three for very small numbers. That
is near the numeral but not always the magnitude nearest to it.
-/

namespace Datastore.Decimal

/-- The number `significand · 10^exponent`. -/
structure Scaled where
  significand : Nat
  exponent : Int
deriving DecidableEq

namespace Scaled

/-- One more than the largest significand. -/
def significandBound : Nat := Nat.pow 2 64

/-- Appends digits to a significand as long as it stays below the bound; gives also the digits
that are left. -/
def absorb : Nat → List Nat → Nat × List Nat
  | n, [] => (n, [])
  | n, d :: rest =>
    if 10 * n + d < significandBound then absorb (10 * n + d) rest else (n, d :: rest)

/-- The digits before and behind the point. Whole digits that do not fit count as zeros, fraction
digits that do not fit are dropped. -/
def ofDigits (whole fraction : List Nat) (exponent : Int) : Scaled :=
  let (high, zeros) := absorb 0 whole
  let (all, dropped) := absorb high fraction
  ⟨all, exponent + zeros.length - (fraction.length - dropped.length)⟩

/-- The largest power of ten used in one step. -/
def maxPower : Nat := 308

def tenTo (power : Nat) : Option Binary := Binary.nearest? (Nat.pow 10 power) 1

/-- Divides by the largest power `times` times, or until nothing is left. -/
def shrink (value : Binary) : Nat → Option Binary
  | 0 => some value
  | times + 1 =>
    if value.mantissa = 0 then some value
    else ((tenTo maxPower).bind value.div?).bind fun smaller => shrink smaller times

/-- Divides by `10^power` in steps of the largest power and a last step of the rest. -/
def divideByTenTo (value : Binary) (power : Nat) : Option Binary :=
  let times := (power - 1) / maxPower
  (shrink value times).bind fun smaller =>
    if smaller.mantissa = 0 then some smaller
    else (tenTo (power - times * maxPower)).bind smaller.div?

/-- The binary value; none if it is too large. -/
def value? (s : Scaled) : Option Binary :=
  (Binary.nearest? s.significand 1).bind fun value =>
    if s.exponent < 0 then divideByTenTo value (-s.exponent).toNat
    else if s.exponent.toNat ≤ maxPower then (tenTo s.exponent.toNat).bind value.mul?
    else if value.mantissa = 0 then some value
    else none

end Scaled
end Datastore.Decimal
