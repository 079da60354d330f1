import Datastore.Config.Basic
import Datastore.Proofs.Json.Tokens
import Datastore.Proofs.Spellings

/-!
# Numbers in parameters

An integer that is written as a parameter has no white space around it, and it is read back exactly
if the reader's range holds it. Outside of that range it counts as missing. In a document its digits
are kept if it is of 64 bits. Main statements: `signed?_decimalInt`, `unsigned?_decimal`,
`Number.integer?_ofInt`, `Config.integer_of_text`, `Config.duration?_of_text`.
-/

namespace Datastore

namespace Text

theorem trim_eq_self {cs : List Char} (visible : ∀ c ∈ cs, isBlank c = false) : trim cs = cs := by
  rw [trim_eq_iff]
  refine ⟨⟨[], [], by simp, by simp⟩, ?_, ?_⟩
  · intro c first
    simp [visible c (List.mem_of_mem_head? first)]
  · intro c last
    simp [visible c (List.mem_of_mem_getLast? last)]

namespace Numeral

/-- What is written for a number spells it. -/
theorem spells_decimal (n : Nat) : Spells (decimal n) n :=
  natural?_eq_some_iff.mp (natural?_decimal n)

theorem isBlank_of_isDigit {c : Char} (digit : c.isDigit) : isBlank c = false := by
  obtain ⟨low, high⟩ := isDigit_iff.mp digit
  have first : '0'.toNat = 48 := rfl
  have last : '9'.toNat = 57 := rfl
  simp only [isBlank, Bool.or_eq_false_iff, Bool.and_eq_false_iff, decide_eq_false_iff_not,
    beq_eq_false_iff_ne]
  omega

/-- A numeral has no white space around it. -/
theorem trim_decimal (n : Nat) : trim (decimal n) = decimal n :=
  trim_eq_self fun c here => isBlank_of_isDigit ((spells_decimal n).digits c here)

theorem trim_decimalInt (n : Int) : trim (decimalInt n) = decimalInt n := by
  cases n with
  | ofNat n => exact trim_decimal n
  | negSucc n =>
    apply trim_eq_self
    intro c here
    rcases List.mem_cons.mp here with rfl | later
    · rfl
    · exact isBlank_of_isDigit ((spells_decimal (n + 1)).digits c later)

theorem decimal_ne_sign (n : Nat) (rest : List Char) :
    decimal n ≠ '-' :: rest ∧ decimal n ≠ '+' :: rest := by
  constructor
  · intro same
    exact not_spells_sign (.inr rfl) rest n (same ▸ spells_decimal n)
  · intro same
    exact not_spells_sign (.inl rfl) rest n (same ▸ spells_decimal n)

/-- A natural number is read back if it is not over the limit. -/
theorem unsigned?_decimal (limit n : Nat) :
    unsigned? limit (decimal n) = if n ≤ limit then some n else none := by
  have unsigned : unsigned? limit (decimal n) = (natural? (decimal n)).filter (· ≤ limit) := by
    unfold unsigned?
    split
    · next rest same => exact absurd same (decimal_ne_sign n rest).2
    · rfl
  rw [unsigned, natural?_decimal, Option.filter_some]
  simp

/-- A minus sign is no part of a natural number. -/
theorem unsigned?_decimalInt (limit : Nat) (n : Int) :
    unsigned? limit (decimalInt n) = if 0 ≤ n ∧ n ≤ limit then some n.toNat else none := by
  cases n with
  | ofNat n =>
    have read := unsigned?_decimal limit n
    simpa [decimalInt] using read
  | negSucc n =>
    have negative : ¬ (0 ≤ Int.negSucc n ∧ Int.negSucc n ≤ limit) := by omega
    rw [if_neg negative]
    rfl

/-- An integer is read back if it has so many bits. -/
theorem signed?_decimalInt (bits : Nat) (n : Int) : signed? bits (decimalInt n) =
    if -(Nat.pow 2 (bits - 1) : Int) ≤ n ∧ n < Nat.pow 2 (bits - 1) then some n else none := by
  have value : signed? bits (decimalInt n) = (some n).filter fun n =>
      -(Nat.pow 2 (bits - 1) : Int) ≤ n ∧ n < Nat.pow 2 (bits - 1) := by
    cases n with
    | ofNat n =>
      unfold signed?
      split
      · next rest same => exact absurd same (decimal_ne_sign n rest).1
      · next rest same => exact absurd same (decimal_ne_sign n rest).2
      · simp only [decimalInt, natural?_decimal]
        rfl
    | negSucc n =>
      have digits := natural?_decimal (n + 1)
      simp only [signed?, decimalInt, digits]
      rfl
  rw [value, Option.filter_some]
  simp

end Numeral
end Text

namespace Json

open Text.Numeral

/-- An integer as it is written. -/
def Numeral.ofInt : Int → Numeral
  | .ofNat n => .ofNat false n
  | .negSucc n => .ofNat true (n + 1)

/-- An integer as it is kept. -/
def Number.ofInt : Int → Number
  | .ofNat n => .natural n
  | .negSucc n => .negative (n + 1)

namespace Number

theorem render_ofInt (n : Int) : (ofInt n).render = decimalInt n := by
  cases n <;> rfl

/-- Integers of 64 bits are exact, signed or unsigned. -/
theorem integer?_ofInt {n : Int} (low : -9223372036854775808 ≤ n) (high : n < 18446744073709551616) :
    integer? (.ofInt n) = some (ofInt n) := by
  cases n with
  | ofNat n =>
    have value : (Numeral.ofInt (.ofNat n)).wholeValue = n := Numeral.wholeValue_ofNat false n
    have bound : n < Nat.pow 2 64 := Int.ofNat_lt.mp high
    simp only [integer?, value, bound, if_true]
    rfl
  | negSucc n =>
    have value : (Numeral.ofInt (.negSucc n)).wholeValue = n + 1 :=
      Numeral.wholeValue_ofNat true (n + 1)
    have bound : 1 ≤ n + 1 ∧ n + 1 ≤ Nat.pow 2 63 := by
      have limit : Nat.pow 2 63 = 9223372036854775808 := rfl
      omega
    simp only [integer?, value, bound]
    rfl

end Number
end Json

namespace Config

open Text.Numeral

variable {c : Config} {key : String} {n : Int}

theorem trimmed?_of_text (written : c.text? key = some (Scalar.integer n).toText) :
    c.trimmed? key = some (decimalInt n) := by
  rw [trimmed?, written, Option.map_some, Scalar.toText, String.toList_ofList, trim_decimalInt]

/-- A parameter that is an integer of 64 bits is read as it is. -/
theorem integer_of_text (written : c.text? key = some (Scalar.integer n).toText) (default : Int) :
    c.integer key default =
      if -9223372036854775808 ≤ n ∧ n < 9223372036854775808 then n else default := by
  rw [integer, trimmed?_of_text written, Option.bind_some, signed?_decimalInt]
  split
  · next inside => rw [if_pos (by simpa using inside), Option.getD_some]
  · next outside => rw [if_neg (by simpa using outside), Option.getD_none]

/-- A parameter that counts units is read as it is up to the largest count. -/
theorem duration?_of_text (written : c.text? key = some (Scalar.integer n).toText)
    (unit : Duration) (default : Nat) : c.duration? key unit default =
      unit.scale? (if 0 ≤ n ∧ n ≤ maxCount then n.toNat else default) := by
  rw [duration?, trimmed?_of_text written, Option.bind_some, unsigned?_decimalInt]
  split <;> rfl

@[simp] theorem text?_addParameter (c : Config) (key : String) (value : Scalar) :
    (c.addParameter key value).text? key = some value.toText :=
  Table.find?_insert_self c.parameters key value.toText

end Config
end Datastore
