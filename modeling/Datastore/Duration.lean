import Datastore.Text.Numeral

/-!
# Durations

A duration is an exact count of nanoseconds. Nothing here rounds or wraps; the only bound is
that of `scale?`, which refuses a product whose whole seconds do not fit 64 bits. A point in
time is the duration since the clock started.
-/

namespace Datastore

/-- A length of time, in nanoseconds. -/
structure Duration where
  nanos : Nat
deriving DecidableEq

namespace Duration

/-- Nanoseconds in a second. -/
def perSecond : Nat := 1000000000

/-- A second part beyond one second carries over. -/
def ofParts (seconds nanos : Nat) : Duration := ⟨seconds * perSecond + nanos⟩

def ofMillis (n : Nat) : Duration := ⟨n * 1000000⟩

def zero : Duration := ⟨0⟩

/-- Whole seconds. -/
def seconds (d : Duration) : Nat := d.nanos / perSecond

/-- Nanoseconds beyond the whole seconds, fewer than a second. -/
def subsecond (d : Duration) : Nat := d.nanos % perSecond

def add (a b : Duration) : Duration := ⟨a.nanos + b.nanos⟩

/-- Time from `earlier` to `now`, zero if `earlier` is not in the past. -/
def since (now earlier : Duration) : Duration := ⟨now.nanos - earlier.nanos⟩

/-- Whole seconds a duration can hold. -/
def maxSeconds : Nat := Nat.pow 2 64 - 1

/-- `count` times the unit, unless its whole seconds exceed `maxSeconds`. -/
def scale? (unit : Duration) (count : Nat) : Option Duration :=
  let product : Duration := ⟨unit.nanos * count⟩
  if product.seconds ≤ maxSeconds then some product else none

theorem subsecond_lt (d : Duration) : d.subsecond < perSecond :=
  Nat.mod_lt _ (by decide)

/-- The `places` digits of a fraction with its trailing zeros, and then an idle point, left out. -/
def fractionText (places fraction : Nat) : List Char :=
  let digits := Text.Numeral.padded places fraction
  match (digits.reverse.dropWhile (· = '0')).reverse with
  | [] => []
  | kept => '.' :: kept

/-- Seconds from one second on, else the largest of ms, µs and ns that leaves a whole part. -/
def describe (d : Duration) : String :=
  let written (whole fraction places : Nat) (unit : String) :=
    String.ofList (Text.Numeral.decimal whole ++ fractionText places fraction) ++ unit
  if perSecond ≤ d.nanos then written d.seconds d.subsecond 9 "s"
  else if 1000000 ≤ d.nanos then written (d.nanos / 1000000) (d.nanos % 1000000) 6 "ms"
  else if 1000 ≤ d.nanos then written (d.nanos / 1000) (d.nanos % 1000) 3 "µs"
  else written d.nanos 0 0 "ns"

end Duration
end Datastore
