/-!
# Binary magnitudes of 53 bits

Non-negative numbers `mantissa · 2^exponent` with at most 53 bits and exponents from -1074 to 971,
and the one that is nearest to a quotient of natural numbers. Signs, infinities and undefined
results are not represented; a quotient that is too large has no nearest magnitude here.
-/

namespace Datastore.Decimal

/-- The quotient rounded to the nearest natural number, a tie to the even one. -/
def roundQuotient (num den : Nat) : Nat :=
  let whole := num / den
  let rest := num % den
  if 2 * rest < den then whole
  else if den < 2 * rest then whole + 1
  else whole + whole % 2

/-- The number `mantissa · 2^exponent`. -/
structure Binary where
  mantissa : Nat
  exponent : Int
deriving DecidableEq

namespace Binary

/-- The exponent of the smallest positive magnitude. -/
def minExponent : Int := -1074

/-- The exponent of the largest magnitudes. -/
def maxExponent : Int := 971

/-- One more than the largest mantissa. -/
def mantissaBound : Nat := Nat.pow 2 53

def zero : Binary := ⟨0, minExponent⟩

/-- With `denominator`, the magnitude as a quotient. -/
def numerator (b : Binary) : Nat := b.mantissa * Nat.pow 2 b.exponent.toNat

def denominator (b : Binary) : Nat := Nat.pow 2 (-b.exponent).toNat

/-- The exponent at which the quotient of two positive numbers has a 53-bit whole part, or the
least exponent if that is greater. -/
def scaleOf (num den : Nat) : Int :=
  let low : Int := (num.log2 : Int) - den.log2 - 53
  let tight :=
    if num * Nat.pow 2 (-low).toNat < mantissaBound * (den * Nat.pow 2 low.toNat) then low
    else low + 1
  max tight minExponent

/-- The magnitude nearest to `num / den`, a tie to the even mantissa; none if that exceeds every
magnitude. -/
def nearest? (num den : Nat) : Option Binary :=
  if num = 0 then some zero
  else
    let scale := scaleOf num den
    let rounded := roundQuotient (num * Nat.pow 2 (-scale).toNat) (den * Nat.pow 2 scale.toNat)
    let result : Binary :=
      if rounded = mantissaBound then ⟨mantissaBound / 2, scale + 1⟩ else ⟨rounded, scale⟩
    if result.exponent ≤ maxExponent then some result else none

def mul? (a b : Binary) : Option Binary :=
  nearest? (a.numerator * b.numerator) (a.denominator * b.denominator)

/-- The divisor is not zero. -/
def div? (a b : Binary) : Option Binary :=
  nearest? (a.numerator * b.denominator) (a.denominator * b.numerator)

end Binary
end Datastore.Decimal
