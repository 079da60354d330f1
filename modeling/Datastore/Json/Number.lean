import Datastore.Decimal.Scaled
import Datastore.Decimal.Shortest
import Datastore.Json.Token

/-!
# JSON numbers

A number that is written as an integer and fits 64 bits, unsigned or signed, keeps its exact value.
Every other one, negative zero included, becomes a binary magnitude with a sign.
-/

namespace Datastore.Json

inductive Number
  /-- Below `2^64`. -/
  | natural (n : Nat)
  /-- The integer `-n`, where `n` is from 1 to `2^63`. -/
  | negative (n : Nat)
  | binary (minus : Bool) (magnitude : Decimal.Binary)
deriving DecidableEq

/-- Written with neither point nor exponent. -/
def Numeral.isInteger (n : Numeral) : Bool := n.fraction.isEmpty && n.exponent.isNone

/-- The number that the whole digits spell. -/
def Numeral.wholeValue (n : Numeral) : Nat :=
  n.whole.foldl (fun value digit => 10 * value + digit) 0

namespace Number

/-- The exact integer, if the numeral is one and it fits. -/
def integer? (n : Numeral) : Option Number :=
  let value := n.wholeValue
  if !n.isInteger then none
  else if n.negative then
    if 1 ≤ value ∧ value ≤ Nat.pow 2 63 then some (.negative value) else none
  else
    if value < Nat.pow 2 64 then some (.natural value) else none

/-- The number written, none if it is beyond every magnitude. -/
def ofNumeral? (n : Numeral) : Option Number :=
  match integer? n with
  | some exact => some exact
  | none =>
    (Decimal.Scaled.ofDigits n.whole n.fraction (n.exponent.getD 0)).value?.map
      (.binary n.negative)

def render : Number → List Char
  | .natural n => Text.Numeral.decimal n
  | .negative n => '-' :: Text.Numeral.decimal n
  | .binary minus magnitude =>
    (if minus then ['-'] else []) ++ (Decimal.Shortest.ofBinary magnitude).render

end Number
end Datastore.Json
