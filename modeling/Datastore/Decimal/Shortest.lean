import Datastore.Decimal.Binary
import Datastore.Text.Numeral

/-!
# The shortest decimal that reads back

A magnitude stands for the interval of numbers that round to it. Its shortest decimal is the
multiple of the largest power of ten in that interval; of two such multiples the nearer, and of
two equally near ones the even one. The text is positional for moderate sizes and has an exponent
otherwise.
-/

namespace Datastore.Decimal

open Text (Numeral.decimal Numeral.decimalInt)

/-- The number `coefficient · 10^power`. -/
structure Shortest where
  coefficient : Nat
  power : Int
deriving DecidableEq

namespace Shortest

/-- A magnitude and the interval that rounds to it, in quarters of the mantissa's unit. -/
structure Interval where
  lower : Nat
  value : Nat
  upper : Nat
  /-- The ends belong to the interval. -/
  closed : Bool

/-- Half a unit on both sides, a quarter below where the unit itself halves. -/
def interval (b : Binary) : Interval :=
  let halves := b.mantissa = Binary.mantissaBound / 2 ∧ Binary.minExponent < b.exponent
  { lower := 4 * b.mantissa - (if halves then 1 else 2)
    value := 4 * b.mantissa
    upper := 4 * b.mantissa + 2
    closed := b.mantissa % 2 = 0 }

/-- The better one of the two multiples of `10^power` next to the magnitude, if any is in the
interval. -/
def onGrid? (b : Binary) (power : Int) : Option Shortest :=
  let range := interval b
  let quarter := b.exponent - 2
  -- both sides of a comparison carry these factors
  let unit := Nat.pow 2 quarter.toNat * Nat.pow 10 (-power).toNat
  let step := Nat.pow 10 power.toNat * Nat.pow 2 (-quarter).toNat
  let inside (multiple : Nat) : Bool :=
    let number := multiple * step
    if range.closed then range.lower * unit ≤ number && number ≤ range.upper * unit
    else range.lower * unit < number && number < range.upper * unit
  let below := range.value * unit / step
  let above := below + 1
  let toBelow := range.value * unit - below * step
  let toAbove := above * step - range.value * unit
  match inside below, inside above with
  | true, true =>
    if toBelow < toAbove then some ⟨below, power⟩
    else if toAbove < toBelow then some ⟨above, power⟩
    else some ⟨below + below % 2, power⟩
  | true, false => some ⟨below, power⟩
  | false, true => some ⟨above, power⟩
  | false, false => none

/-- A power of ten above the magnitude, found from its size in bits. -/
def startPower (b : Binary) : Int :=
  let bits : Int := b.mantissa.log2 + 1 + b.exponent
  bits * 30103 / 100000 + 2

/-- Searches downwards. The first power is at most a few too high, and seventeen digits tell all
magnitudes apart, so the search ends with a hit. -/
def ofBinary (b : Binary) : Shortest :=
  if b.mantissa = 0 then ⟨0, 0⟩
  else
    let start := startPower b
    ((List.range 24).findSome? fun (i : Nat) => onGrid? b (start - i)).getD ⟨b.mantissa, 0⟩

/-- Positional from four zeros behind the point up to sixteen whole digits, with at least one digit
on both sides of the point; otherwise one digit, the others behind a point, and an exponent with
its sign. -/
def render (s : Shortest) : List Char :=
  let digits := Numeral.decimal s.coefficient
  let point : Int := digits.length + s.power
  if 0 ≤ s.power ∧ point ≤ 16 then digits ++ List.replicate s.power.toNat '0' ++ ['.', '0']
  else if 0 < point ∧ point ≤ 16 then digits.take point.toNat ++ '.' :: digits.drop point.toNat
  else if -5 < point ∧ point ≤ 0 then
    ['0', '.'] ++ List.replicate (-point).toNat '0' ++ digits
  else
    let exponent := point - 1
    let fraction := match digits.drop 1 with
      | [] => []
      | rest => '.' :: rest
    digits.take 1 ++ fraction ++ 'e' :: (if exponent < 0 then [] else ['+']) ++
      Numeral.decimalInt exponent

end Shortest
end Datastore.Decimal
