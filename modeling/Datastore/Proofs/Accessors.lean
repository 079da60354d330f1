import Datastore.Proofs.Settings
import Datastore.Proofs.Slots
import Datastore.Proofs.Spellings

/-!
# Numbers that are read

A parameter's text, trimmed, is an integer or a count if it spells one that the reader's range
holds, and otherwise the default stands in for it. A count of units is multiplied exactly, seconds
and nanoseconds apart, and only a product of too many seconds has no result. No lifetime is one, so
every configuration has its settings, and a driver's name is all that a provider needs besides.
Main statement: `numbers_exact`.
-/

namespace Datastore

open Text (Trimmed)
open Text.Numeral (SpellsCount SpellsInteger)

/-! ### Products -/

namespace Duration

/-- Numbers of 64 bits. -/
def word? (n : Nat) : Option Nat := if n ≤ maxSeconds then some n else none

/-- Whole seconds and the nanoseconds beyond them. -/
def parts (d : Duration) : Nat × Nat := (d.seconds, d.subsecond)

/-- The product by parts: what the nanoseconds carry is added to the seconds, and neither the
product of the seconds nor the sum may exceed 64 bits. -/
def product? (unit : Duration) (count : Nat) : Option (Nat × Nat) :=
  (word? (unit.seconds * count)).bind fun whole =>
    (word? (whole + unit.subsecond * count / perSecond)).map fun seconds =>
      (seconds, unit.subsecond * count % perSecond)

/-- What is carried is the difference between the seconds of the product and those of the parts. -/
theorem carried (unit : Duration) (count : Nat) :
    unit.seconds * count + unit.subsecond * count / perSecond = unit.nanos * count / perSecond ∧
      unit.subsecond * count % perSecond = unit.nanos * count % perSecond := by
  have whole : unit.nanos * count =
      perSecond * (unit.seconds * count) + unit.subsecond * count := by
    have parts : perSecond * unit.seconds + unit.subsecond = unit.nanos := Nat.div_add_mod ..
    rw [← Nat.mul_assoc, ← Nat.add_mul, parts]
  constructor
  · rw [whole, Nat.mul_add_div (by decide)]
  · rw [whole, Nat.mul_add_mod]

theorem product?_eq (unit : Duration) (count : Nat) : unit.product? count =
    if unit.nanos * count / perSecond ≤ maxSeconds then
      some (unit.nanos * count / perSecond, unit.nanos * count % perSecond) else none := by
  obtain ⟨seconds, nanos⟩ := carried unit count
  unfold product? word?
  by_cases first : unit.seconds * count ≤ maxSeconds
  · rw [if_pos first, Option.bind_some, seconds, nanos]
    split <;> rfl
  · -- The seconds alone are too many already.
    have more : unit.seconds * count ≤ unit.nanos * count / perSecond :=
      seconds ▸ Nat.le_add_right ..
    rw [if_neg first, if_neg fun short => first (more.trans short)]
    rfl

/-- The product by parts is the exact product. -/
theorem parts_scale? (unit : Duration) (count : Nat) :
    (unit.scale? count).map parts = unit.product? count := by
  rw [product?_eq]
  by_cases short : unit.nanos * count / perSecond ≤ maxSeconds
  · have exact : unit.scale? count = some ⟨unit.nanos * count⟩ := if_pos short
    rw [exact, if_pos short]
    rfl
  · have none : unit.scale? count = none := if_neg short
    rw [none, if_neg short]
    rfl

theorem product?_eq_some_iff {unit : Duration} {count seconds nanos : Nat} :
    unit.product? count = some (seconds, nanos) ↔
      seconds * 1000000000 + nanos = unit.nanos * count ∧ nanos < 1000000000 ∧
        seconds < 2 ^ 64 := by
  have most : maxSeconds = 18446744073709551615 := rfl
  rw [product?_eq]
  simp only [perSecond, most]
  constructor
  · intro found
    split at found
    · cases found
      omega
    · cases found
  · rintro ⟨total, small, short⟩
    have whole : unit.nanos * count / 1000000000 = seconds := by omega
    have beyond : unit.nanos * count % 1000000000 = nanos := by omega
    rw [whole, beyond, if_pos (by omega)]

theorem product?_eq_none_iff {unit : Duration} {count : Nat} :
    unit.product? count = none ↔ 2 ^ 64 ≤ unit.nanos * count / 1000000000 := by
  have most : maxSeconds = 18446744073709551615 := rfl
  rw [product?_eq]
  simp only [perSecond, most]
  split
  · next short =>
    constructor
    · nofun
    · omega
  · next long =>
    constructor
    · omega
    · intro _
      rfl

/-- The nanoseconds alone never exceed 64 bits. -/
theorem subsecond_mul_lt (unit : Duration) {count : Nat} (small : count < 2 ^ 32) :
    unit.subsecond * count < 2 ^ 64 :=
  calc unit.subsecond * count ≤ 1000000000 * 2 ^ 32 :=
        Nat.mul_le_mul unit.subsecond_lt.le small.le
    _ < 2 ^ 64 := by decide

/-- The product is the exact one, in seconds and nanoseconds, or its seconds exceed 64 bits. -/
structure Exact (unit : Duration) (count : Nat) : Prop where
  value : ∀ seconds nanos, unit.product? count = some (seconds, nanos) ↔
    seconds * 1000000000 + nanos = unit.nanos * count ∧ nanos < 1000000000 ∧ seconds < 2 ^ 64
  fails : unit.product? count = none ↔ 2 ^ 64 ≤ unit.nanos * count / 1000000000
  carry : count < 2 ^ 32 → unit.subsecond * count < 2 ^ 64

end Duration

/-! ### Readers -/

namespace Config

variable {c : Config} {key text : String} {t : List Char}

theorem trimmed?_of_trimmed (given : c.text? key = some text) (trimmed : Trimmed text.toList t) :
    c.trimmed? key = some t := by
  rw [trimmed?, given, Option.map_some, Text.trim_eq_iff.mpr trimmed]

/-- A parameter whose text is an integer or a count has its value, any other one the default. -/
structure ReadAs (c : Config) (key : String) (t : List Char) : Prop where
  integer : ∀ n default, SpellsInteger t n → -2 ^ 63 ≤ n → n < 2 ^ 63 → c.integer key default = n
  no_integer : ∀ default, (∀ n, SpellsInteger t n → ¬ (-2 ^ 63 ≤ n ∧ n < 2 ^ 63)) →
    c.integer key default = default
  count : ∀ n unit default, SpellsCount t n → n < 2 ^ 32 →
    (c.duration? key unit default).map Duration.parts = unit.product? n
  no_count : ∀ unit default, (∀ n, SpellsCount t n → ¬ n < 2 ^ 32) →
    (c.duration? key unit default).map Duration.parts = unit.product? default

theorem readAs_of_trimmed (given : c.text? key = some text) (trimmed : Trimmed text.toList t) :
    ReadAs c key t := by
  have found := trimmed?_of_trimmed given trimmed
  have most : maxCount = 4294967295 := rfl
  constructor
  · intro n default spelt low high
    have read : Text.Numeral.signed? 64 t = some n :=
      Text.Numeral.signed?_eq_some_iff.mpr ⟨spelt, low, high⟩
    rw [Config.integer, found, Option.bind_some, read, Option.getD_some]
  · intro default outside
    have unread : Text.Numeral.signed? 64 t = none := by
      rw [Option.eq_none_iff_forall_ne_some]
      intro n read
      obtain ⟨spelt, low, high⟩ := Text.Numeral.signed?_eq_some_iff.mp read
      exact outside n spelt ⟨low, high⟩
    rw [Config.integer, found, Option.bind_some, unread, Option.getD_none]
  · intro n unit default spelt small
    have read : Text.Numeral.unsigned? maxCount t = some n :=
      Text.Numeral.unsigned?_eq_some_iff.mpr ⟨spelt, by omega⟩
    rw [Config.duration?, found, Option.bind_some, read, Option.getD_some, Duration.parts_scale?]
  · intro unit default outside
    have unread : Text.Numeral.unsigned? maxCount t = none := by
      rw [Option.eq_none_iff_forall_ne_some]
      intro n read
      obtain ⟨spelt, small⟩ := Text.Numeral.unsigned?_eq_some_iff.mp read
      exact outside n spelt (by omega)
    rw [Config.duration?, found, Option.bind_some, unread, Option.getD_none, Duration.parts_scale?]

/-- A pool of this size can be made. -/
theorem effectivePoolSize_le (c : Config) : c.effectivePoolSize ≤ Pool.maxCapacity := by
  have size := c.maxPoolSize.toNat_lt
  have most : Pool.maxCapacity = 2305843009213693951 := rfl
  simp only [effectivePoolSize, most]
  omega

end Config

/-! ### Settings -/

namespace Tuning

open Config (maxCount)

variable {c : Config}

/-- The count of milliseconds that a lifetime is read from. -/
def milliseconds (c : Config) : Nat :=
  ((c.trimmed? lifetimeKey).bind (Text.Numeral.unsigned? maxCount)).getD defaultLifetime

theorem milliseconds_le (c : Config) : milliseconds c ≤ maxCount := by
  unfold milliseconds
  cases read : (c.trimmed? lifetimeKey).bind (Text.Numeral.unsigned? maxCount) with
  | none => decide
  | some n =>
    obtain ⟨t, -, counted⟩ := Option.bind_eq_some_iff.mp read
    exact (Text.Numeral.unsigned?_eq_some_iff.mp counted).2

theorem scale?_millis {n : Nat} (small : n ≤ maxCount) :
    (Duration.ofMillis 1).scale? n = some (Duration.ofMillis n) := by
  have product : (⟨(Duration.ofMillis 1).nanos * n⟩ : Duration) = Duration.ofMillis n := by
    simp only [Duration.ofMillis, Duration.mk.injEq]
    omega
  have short : (Duration.ofMillis n).seconds ≤ Duration.maxSeconds := by
    have bound : maxCount = 4294967295 := rfl
    have most : Duration.maxSeconds = 18446744073709551615 := rfl
    simp only [Duration.seconds, Duration.ofMillis, Duration.perSecond]
    omega
  simp only [Duration.scale?, product, if_pos short]

/-- A lifetime is never too long. -/
theorem duration?_lifetime (c : Config) :
    c.duration? lifetimeKey (Duration.ofMillis 1) defaultLifetime =
      some (Duration.ofMillis (milliseconds c)) :=
  scale?_millis (milliseconds_le c)

theorem lifetime_eq (c : Config) : (ofConfig c).lifetime =
    if c.has lifetimeKey ∧ milliseconds c ≠ 0 then some (Duration.ofMillis (milliseconds c))
    else .none := by
  have zero : Duration.ofMillis (milliseconds c) ≠ Duration.zero ↔ milliseconds c ≠ 0 := by
    simp only [Duration.ofMillis, Duration.zero, ne_eq, Duration.mk.injEq]
    omega
  simp only [ofConfig, duration?_lifetime, Option.filter_some, decide_eq_true_eq, zero]
  by_cases known : c.has lifetimeKey
  · simp [known]
  · simp [known]

/-- Only a count of zero is read as zero: the default is another number. -/
theorem milliseconds_eq_zero_iff {text : String} {t : List Char}
    (given : c.text? lifetimeKey = some text) (trimmed : Trimmed text.toList t) :
    milliseconds c = 0 ↔ SpellsCount t 0 := by
  rw [milliseconds, Config.trimmed?_of_trimmed given trimmed, Option.bind_some]
  constructor
  · intro none
    cases read : Text.Numeral.unsigned? maxCount t with
    | none =>
      rw [read] at none
      exact absurd none (by decide)
    | some n =>
      rw [read, Option.getD_some] at none
      subst none
      exact (Text.Numeral.unsigned?_eq_some_iff.mp read).1
  · intro spelt
    have read : Text.Numeral.unsigned? maxCount t = some 0 :=
      Text.Numeral.unsigned?_eq_some_iff.mpr ⟨spelt, Nat.zero_le _⟩
    rw [read, Option.getD_some]

theorem has_iff {key : String} : c.has key = true ↔ c.text? key ≠ .none := by
  rw [Config.has, Table.contains, Option.isSome_iff_ne_none]
  rfl

theorem lifetime_eq_none_iff : (ofConfig c).lifetime = .none ↔
    c.text? lifetimeKey = .none ∨ ∃ text t, c.text? lifetimeKey = some text ∧
      Trimmed text.toList t ∧ SpellsCount t 0 := by
  rw [lifetime_eq]
  cases given : c.text? lifetimeKey with
  | none =>
    have missing : c.has lifetimeKey = false := by
      rw [← Bool.not_eq_true, has_iff, given]
      simp
    simp [missing]
  | some text =>
    have known : c.has lifetimeKey = true := has_iff.mpr (by simp [given])
    have trimmed : Trimmed text.toList (Text.trim text.toList) := Text.trim_eq_iff.mp rfl
    simp only [known, true_and, reduceCtorEq, false_or]
    constructor
    · intro absent
      have zero : milliseconds c = 0 := by simpa using absent
      exact ⟨text, _, rfl, trimmed, (milliseconds_eq_zero_iff given trimmed).mp zero⟩
    · rintro ⟨_, t, ⟨⟩, trimmed, spelt⟩
      rw [if_neg (by simpa using (milliseconds_eq_zero_iff given trimmed).mpr spelt)]

/-- What holds of the settings of every configuration, and of every provider with them. -/
structure Settled (c : Config) : Prop where
  /-- The multiplication has a result. -/
  lifetime_read : (c.duration? lifetimeKey (Duration.ofMillis 1) defaultLifetime).isSome
  lifetime_absent : (ofConfig c).lifetime = .none ↔ c.text? lifetimeKey = .none ∨
    ∃ text t, c.text? lifetimeKey = some text ∧ Trimmed text.toList t ∧ SpellsCount t 0
  lifetime_range : ∀ d, (ofConfig c).lifetime = some d →
    (Duration.ofMillis 1).nanos ≤ d.nanos ∧ d.nanos ≤ (Duration.ofMillis 4294967295).nanos
  idle_negative : ∀ text t n, c.text? maxIdleKey = some text → Trimmed text.toList t →
    SpellsInteger t n → -2 ^ 63 ≤ n → n < 0 → (ofConfig c).maxIdle = some 0
  /-- The pool is no larger than a pool can be. -/
  built : ∀ drivers dialects p, Provider.build c drivers dialects = .ok p →
    p.tuning = ofConfig c ∧ p.pool.capacity ≤ Pool.maxCapacity

theorem settled (c : Config) : Settled c := by
  constructor
  · rw [duration?_lifetime]
    rfl
  · exact lifetime_eq_none_iff
  · intro d read
    rw [lifetime_eq] at read
    split at read
    · next some =>
      cases read
      have small := milliseconds_le c
      have most : maxCount = 4294967295 := rfl
      simp only [Duration.ofMillis]
      omega
    · cases read
  · intro text t n given trimmed spelt low negative
    have reads := Config.readAs_of_trimmed given trimmed
    have read := reads.integer n defaultMaxIdle spelt low (by omega)
    have known : c.has maxIdleKey = true := has_iff.mpr (by simp [given])
    simp only [ofConfig, known, if_true, read, Option.some.injEq]
    omega
  · intro drivers dialects p built
    refine ⟨Session.ofBuild_tuning built, ?_⟩
    have size : max (max 1 c.maxPoolSize.toNat) 1 = c.effectivePoolSize := by
      simp only [Config.effectivePoolSize]
      omega
    rw [Session.ofBuild_pool built, Pool.ofCapacity, size]
    exact c.effectivePoolSize_le

end Tuning

namespace Provider

/-- A driver's name is all that a provider needs. -/
theorem exists_build {c : Config} (valid : c.validate = .ok ()) (drivers : DriverRegistry Unit)
    (dialects : DialectRegistry) : ∃ p, build c drivers dialects = .ok p := by
  rw [build, valid]
  exact ⟨_, rfl⟩

end Provider

/-! ### Main statement -/

namespace Config

/-- What is read as a number is what its text spells, or the default; a product of it is exact or
has no result; and settings and providers never come to need one that has none. -/
theorem numbers_exact :
    (∀ (c : Config) (key text : String) (t : List Char), c.text? key = some text →
      Trimmed text.toList t → ReadAs c key t) ∧
    (∀ (unit : Duration) (count : Nat), Duration.Exact unit count) ∧
    ∀ c : Config, Tuning.Settled c := by
  refine ⟨?_, ?_, ?_⟩
  · intro c key text t given trimmed
    exact readAs_of_trimmed given trimmed
  · intro unit count
    constructor
    · intro seconds nanos
      exact Duration.product?_eq_some_iff
    · exact Duration.product?_eq_none_iff
    · exact unit.subsecond_mul_lt
  · exact Tuning.settled

/-- Counts with signs, leading zeros and white space of several kinds around them. -/
def spaced : Config :=
  ((ofEndpoint "pg" "db").addParameter "n" (.text "\u2003+007\t")).addParameter
    Tuning.lifetimeKey (.text "\u0085000")

theorem numbers_exact_spaced :
    let t := ['+', '0', '0', '7']
    spaced.text? "n" = some "\u2003+007\t" ∧ Trimmed "\u2003+007\t".toList t ∧
      spaced.integer "n" 1 = 7 ∧
      (spaced.duration? "n" (.ofParts 1 500000000) 1).map Duration.parts = some (10, 500000000) ∧
      spaced.duration? "n" (.ofParts 9223372036854775808 0) 1 = none ∧
      (Tuning.ofConfig spaced).lifetime = none := by
  intro t
  have given : spaced.text? "n" = some "\u2003+007\t" := by decide
  have trimmed : Trimmed "\u2003+007\t".toList t := Text.trim_eq_iff.mp (by decide)
  have count : SpellsCount t 7 ∧ 7 ≤ 7 := Text.Numeral.unsigned?_eq_some_iff.mp (by decide)
  have signed : Text.Numeral.signed? 64 t = some 7 := by decide
  have integer := Text.Numeral.signed?_eq_some_iff.mp signed
  have zero : SpellsCount ['0', '0', '0'] 0 ∧ 0 ≤ 0 :=
    Text.Numeral.unsigned?_eq_some_iff.mp (by decide)
  obtain ⟨reads, exact, settled⟩ := numbers_exact
  have read := reads spaced "n" _ t given trimmed
  refine ⟨given, trimmed, read.integer 7 1 integer.1 (by decide) (by decide), ?_, ?_, ?_⟩
  · rw [read.count 7 _ 1 count.1 (by decide), (exact _ _).value]
    decide
  · have none := read.count 7 (.ofParts 9223372036854775808 0) 1 count.1 (by decide)
    rw [(exact _ _).fails.mpr (by decide)] at none
    exact Option.map_eq_none_iff.mp none
  · exact (settled spaced).lifetime_absent.mpr
      (.inr ⟨"\u0085000", _, by decide, Text.trim_eq_iff.mp (by decide), zero.1⟩)

end Config
end Datastore
