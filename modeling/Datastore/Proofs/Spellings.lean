import Datastore.Text.Blank
import Datastore.Text.Numeral
import Mathlib.Data.Nat.Digits.Defs

/-!
# Spelt numbers

What a number is as text, said without reading it: digits in decimal notation, behind an optional
sign, with as many leading zeros as one likes; and what is left of a text that is trimmed. The
readers accept exactly that, up to the ends of their ranges. Main statements: `trim_eq_iff`,
`unsigned?_eq_some_iff`, `signed?_eq_some_iff`.
-/

namespace Datastore.Text

/-! ### White space -/

/-- What is between the white space at both ends of a text. -/
structure Trimmed (cs rest : List Char) : Prop where
  cut : ∃ front back, cs = front ++ rest ++ back ∧ ∀ c ∈ front ++ back, isBlank c
  first : ∀ c ∈ rest.head?, ¬ isBlank c
  last : ∀ c ∈ rest.getLast?, ¬ isBlank c

/-- The white space in front is all that is dropped. -/
theorem dropWhile_isBlank_append {front rest : List Char} (blank : ∀ c ∈ front, isBlank c)
    (first : ∀ c ∈ rest.head?, ¬ isBlank c) : (front ++ rest).dropWhile isBlank = rest := by
  rw [List.dropWhile_append_of_pos blank]
  cases rest with
  | nil => rfl
  | cons c rest => exact List.dropWhile_cons_of_neg (first c rfl)

theorem exists_dropWhile_isBlank (cs : List Char) : ∃ front, cs = front ++ cs.dropWhile isBlank ∧
    (∀ c ∈ front, isBlank c) ∧ ∀ c ∈ (cs.dropWhile isBlank).head?, ¬ isBlank c := by
  refine ⟨cs.takeWhile isBlank, List.takeWhile_append_dropWhile.symm, ?_, ?_⟩
  · intro c here
    exact List.all_eq_true.mp (List.all_takeWhile ..) c here
  · intro c here
    have stopped := List.head?_dropWhile_not isBlank cs
    rw [here] at stopped
    simpa using stopped

/-- A text can be trimmed in one way only. -/
theorem trim_eq_iff {cs rest : List Char} : trim cs = rest ↔ Trimmed cs rest := by
  constructor
  · rintro rfl
    -- The second cut is made in the reversed text, so what it drops is the white space at the end.
    obtain ⟨front, whole, blank, first⟩ := exists_dropWhile_isBlank cs
    obtain ⟨back, kept, blank', last⟩ := exists_dropWhile_isBlank (cs.dropWhile isBlank).reverse
    have cut : cs.dropWhile isBlank = trim cs ++ back.reverse := by
      rw [trim, ← List.reverse_append, ← kept, List.reverse_reverse]
    refine ⟨⟨front, back.reverse, ?_, ?_⟩, ?_, ?_⟩
    · rw [List.append_assoc, ← cut]
      exact whole
    · intro c here
      rcases List.mem_append.mp here with early | late
      · exact blank c early
      · exact blank' c (List.mem_reverse.mp late)
    · intro c here
      apply first c
      rw [cut, List.head?_append, here]
      rfl
    · intro c here
      apply last c
      rwa [trim, List.getLast?_reverse] at here
  · rintro ⟨⟨front, back, rfl, blank⟩, first, last⟩
    rw [List.forall_mem_append] at blank
    -- Without a visible character between them, the white space in front goes on to the end.
    by_cases empty : rest = []
    · subst empty
      rw [trim_eq_nil_iff]
      simpa [or_imp, forall_and] using blank
    · have head : ∀ c ∈ (rest ++ back).head?, ¬ isBlank c := by
        cases rest with
        | nil => exact absurd rfl empty
        | cons c rest => exact first
      have ending : ∀ c ∈ rest.reverse.head?, ¬ isBlank c := by rwa [List.head?_reverse]
      rw [trim, List.append_assoc, dropWhile_isBlank_append blank.1 head, List.reverse_append,
        dropWhile_isBlank_append (by simpa using blank.2) ending, List.reverse_reverse]

namespace Numeral

/-! ### Digits -/

/-- The value of a digit. -/
def place (c : Char) : Nat := c.toNat - '0'.toNat

/-- One or more ASCII digits, and the number that they are in decimal notation. -/
structure Spells (cs : List Char) (n : Nat) : Prop where
  filled : cs ≠ []
  digits : ∀ c ∈ cs, c.isDigit
  value : n = Nat.ofDigits 10 (cs.reverse.map place)

theorem isDigit_iff {c : Char} : c.isDigit ↔ '0'.toNat ≤ c.toNat ∧ c.toNat ≤ '9'.toNat := by
  simp only [Char.isDigit, Bool.and_eq_true, decide_eq_true_eq, ge_iff_le, UInt32.le_iff_toNat_le]
  rfl

theorem digit?_eq_some_iff {c : Char} {d : Nat} :
    digit? c = some d ↔ c.isDigit ∧ d = place c := by
  rw [isDigit_iff, digit?]
  split
  · next inside =>
    constructor
    · rintro ⟨⟩
      exact ⟨inside, rfl⟩
    · rintro ⟨-, rfl⟩
      rfl
  · next outside =>
    constructor
    · nofun
    · rintro ⟨inside, -⟩
      exact absurd inside outside

/-- Further digits move the number already read to the left. -/
theorem extend_eq_some_iff {m n : Nat} {cs : List Char} : extend m cs = some n ↔
    (∀ c ∈ cs, c.isDigit) ∧ n = m * 10 ^ cs.length + Nat.ofDigits 10 (cs.reverse.map place) := by
  induction cs generalizing m with
  | nil =>
    constructor
    · rintro ⟨⟩
      simp
    · rintro ⟨-, rfl⟩
      simp [extend]
  | cons c rest ih =>
    have shifted : (10 * m + place c) * 10 ^ rest.length +
        Nat.ofDigits 10 (rest.reverse.map place) = m * 10 ^ (c :: rest).length +
          Nat.ofDigits 10 ((c :: rest).reverse.map place) := by
      rw [List.reverse_cons, List.map_append, Nat.ofDigits_append, List.map_singleton,
        Nat.ofDigits_singleton, List.length_map, List.length_reverse, List.length_cons, pow_succ]
      ring
    simp only [extend, Option.bind_eq_some_iff, digit?_eq_some_iff, ih, List.forall_mem_cons]
    constructor
    · rintro ⟨_, ⟨digit, rfl⟩, others, rfl⟩
      exact ⟨⟨digit, others⟩, shifted⟩
    · rintro ⟨⟨digit, others⟩, rfl⟩
      exact ⟨_, ⟨digit, rfl⟩, others, shifted.symm⟩

theorem natural?_eq_some_iff {cs : List Char} {n : Nat} : natural? cs = some n ↔ Spells cs n := by
  cases cs with
  | nil =>
    constructor
    · nofun
    · intro spelt
      exact absurd rfl spelt.filled
  | cons c rest =>
    have read : natural? (c :: rest) = extend 0 (c :: rest) := rfl
    rw [read, extend_eq_some_iff, Nat.zero_mul, Nat.zero_add]
    constructor
    · rintro ⟨digits, value⟩
      exact ⟨by simp, digits, value⟩
    · rintro ⟨-, digits, value⟩
      exact ⟨digits, value⟩

/-! ### Signs -/

/-- A count: digits behind an optional plus sign. -/
inductive SpellsCount : List Char → Nat → Prop
  | plain {cs : List Char} {n : Nat} : Spells cs n → SpellsCount cs n
  | plus {cs : List Char} {n : Nat} : Spells cs n → SpellsCount ('+' :: cs) n

/-- An integer: digits behind an optional sign. -/
inductive SpellsInteger : List Char → Int → Prop
  | plain {cs : List Char} {n : Nat} : Spells cs n → SpellsInteger cs n
  | plus {cs : List Char} {n : Nat} : Spells cs n → SpellsInteger ('+' :: cs) n
  | minus {cs : List Char} {n : Nat} : Spells cs n → SpellsInteger ('-' :: cs) (-n)

/-- No digit is a sign. -/
theorem not_spells_sign {sign : Char} (known : sign = '+' ∨ sign = '-') (cs : List Char) (n : Nat) :
    ¬ Spells (sign :: cs) n := by
  intro spelt
  have digit := spelt.digits sign List.mem_cons_self
  rcases known with rfl | rfl <;> exact absurd digit (by decide)

theorem unsigned?_eq_some_iff {limit n : Nat} {cs : List Char} :
    unsigned? limit cs = some n ↔ SpellsCount cs n ∧ n ≤ limit := by
  unfold unsigned?
  simp only [Option.filter_eq_some_iff, natural?_eq_some_iff, decide_eq_true_eq]
  apply and_congr_left
  intro _
  split
  · constructor
    · exact .plus
    · rintro (spelt | spelt)
      · exact absurd spelt (not_spells_sign (.inl rfl) _ _)
      · exact spelt
  · next unsigned =>
    constructor
    · exact .plain
    · rintro (spelt | spelt)
      · exact spelt
      · exact absurd rfl (unsigned _)

theorem signed?_eq_some_iff {bits : Nat} {n : Int} {cs : List Char} :
    signed? bits cs = some n ↔
      SpellsInteger cs n ∧ -(Nat.pow 2 (bits - 1) : Int) ≤ n ∧ n < Nat.pow 2 (bits - 1) := by
  unfold signed?
  simp only [Option.filter_eq_some_iff, decide_eq_true_eq]
  apply and_congr_left
  intro _
  split
  · simp only [Option.map_eq_some_iff, Option.bind_eq_bind, Option.bind_eq_some_iff,
      natural?_eq_some_iff, Option.pure_def]
    constructor
    · rintro ⟨m, ⟨_, spelt, ⟨⟩⟩, rfl⟩
      exact .minus spelt
    · rintro (spelt | spelt | spelt)
      · exact absurd spelt (not_spells_sign (.inr rfl) _ _)
      · exact ⟨_, ⟨_, spelt, rfl⟩, rfl⟩
  · simp only [Option.map_eq_some_iff, natural?_eq_some_iff]
    constructor
    · rintro ⟨m, spelt, rfl⟩
      exact .plus spelt
    · rintro (spelt | spelt | spelt)
      · exact absurd spelt (not_spells_sign (.inl rfl) _ _)
      · exact ⟨_, spelt, rfl⟩
  · next noMinus noPlus =>
    simp only [Option.map_eq_some_iff, natural?_eq_some_iff]
    constructor
    · rintro ⟨m, spelt, rfl⟩
      exact .plain spelt
    · rintro (spelt | spelt | spelt)
      · exact ⟨_, spelt, rfl⟩
      · exact absurd rfl (noPlus _)
      · exact absurd rfl (noMinus _)

end Numeral
end Datastore.Text
