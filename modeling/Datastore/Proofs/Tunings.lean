import Datastore.Proofs.Accessors
import Datastore.Proofs.Numerals

/-!
# Numbers for settings

A number that is configured as the idle limit is set as it is on every handle whose connection is
recycled, up to the largest integer of 64 bits. One that is configured as the lifetime is so only
if it is a count of 32 bits; a larger one is replaced by the default, as text that is no number is.
Main statement: `numbers_pushed`.
-/

namespace Datastore

namespace Backend

/-- The lifetimes set on a handle, but for the last one of a handle that is closed. -/
def tunedLifetimesOf (b : Backend) (handle : Nat) : List Duration :=
  if b.isClosed handle then (b.lifetimesOf handle).dropLast else b.lifetimesOf handle

theorem Trimmed.tunedLifetimes {tuning : Tuning} {times handle : Nat} {b : Backend}
    (trimmed : Trimmed tuning times b handle) : b.tunedLifetimesOf handle =
      (List.replicate times tuning.lifetime.toList).flatten := by
  have told := trimmed.lifetimes
  unfold tunedLifetimesOf
  split
  · next closed => rw [told, if_pos closed, List.dropLast_concat]
  · next isOpen => rw [told, if_neg isOpen, List.append_nil]

end Backend

namespace Tuning

open Config (Scalar)

variable {c : Config} {n m : Nat}

/-- One of the two settings, and where it shows. -/
structure Setting (α : Type) where
  /-- The parameter that configures it. -/
  key : String
  read : Tuning → Option α
  /-- What checkouts set on a handle, in order. -/
  pushed : Backend → Nat → List α
  traced : ∀ {tuning : Tuning} {times handle : Nat} {b : Backend},
    b.Trimmed tuning times handle →
      pushed b handle = (List.replicate times (read tuning).toList).flatten

def lifetimeSetting : Setting Duration where
  key := lifetimeKey
  read := lifetime
  pushed := Backend.tunedLifetimesOf
  traced := Backend.Trimmed.tunedLifetimes

def idleSetting : Setting Nat where
  key := maxIdleKey
  read := maxIdle
  pushed := Backend.idleLimitsOf
  traced := Backend.Trimmed.idleLimits

/-- The lifetime that a number stands for. -/
def lifetimeFor (n : Nat) : Duration :=
  Duration.ofMillis (if n ≤ Config.maxCount then n else defaultLifetime)

theorem has_of_text {key : String} (written : c.text? key = some (Scalar.integer n).toText) :
    c.has key = true := by
  rw [Config.has, Table.contains]
  exact Option.isSome_iff_exists.mpr ⟨_, written⟩

/-- A count of milliseconds is neither too long nor, from one on, no lifetime. -/
theorem lifetime_of_count (positive : 1 ≤ n) (small : n ≤ Config.maxCount) :
    ((Duration.ofMillis 1).scale? n).filter (· ≠ Duration.zero) = some (Duration.ofMillis n) := by
  have some : Duration.ofMillis n ≠ Duration.zero := by
    simp only [Duration.ofMillis, Duration.zero, ne_eq, Duration.mk.injEq]
    omega
  rw [scale?_millis small]
  exact Option.filter_some_pos (by simpa using some)

theorem lifetime_ofConfig (written : c.text? lifetimeKey = some (Scalar.integer n).toText)
    (positive : 1 ≤ n) : (ofConfig c).lifetime = some (lifetimeFor n) := by
  have count : (if 0 ≤ (n : Int) ∧ (n : Int) ≤ Config.maxCount then (n : Int).toNat
      else defaultLifetime) = if n ≤ Config.maxCount then n else defaultLifetime := by simp
  simp only [ofConfig, has_of_text written, if_true, Config.duration?_of_text written, count,
    lifetimeFor]
  split
  · next small => exact lifetime_of_count positive small
  · exact lifetime_of_count (by decide) (by decide)

theorem maxIdle_ofConfig (written : c.text? maxIdleKey = some (Scalar.integer n).toText)
    (bounded : n < 9223372036854775808) : (ofConfig c).maxIdle = some n := by
  have inside : -9223372036854775808 ≤ (n : Int) ∧ (n : Int) < 9223372036854775808 := by omega
  simp only [ofConfig, has_of_text written, if_true, Config.integer_of_text written, if_pos inside,
    Int.toNat_natCast]

/-- A larger number is a shorter lifetime exactly if it is the first to exceed the count. -/
theorem lifetimeFor_lt_iff (le : n ≤ m) : (lifetimeFor m).nanos < (lifetimeFor n).nanos ↔
    defaultLifetime < n ∧ n ≤ Config.maxCount ∧ Config.maxCount < m := by
  simp only [lifetimeFor, Duration.ofMillis]
  split <;> split <;> omega

end Tuning

namespace Session

open Config (Scalar)
open Tuning (Setting)

variable {s : Session} {p : Provider} {α : Type} {σ : Setting α} {value : α} {n : Nat}

/-- What was set on a handle, after a run from anywhere. -/
theorem trimmed_after {handle times : Nat} (orderly : Orderly s) (kept : Kept (rest s))
    (served : s.provider = some p) {moves : List Move} (admitted : Admitted sparesSettings s moves)
    (trimmed : Backend.Trimmed p.tuning times s.backend handle) :
    Backend.Trimmed p.tuning (times + (along tunings s moves).count handle)
      (s.after moves).backend handle := by
  induction moves generalizing s times with
  | nil => exact trimmed
  | cons m rest ih =>
    have now := kept.trimmed served admitted.1 trimmed
    have sound := kept_move orderly kept (sparesHandles_of_settings admitted.1)
    have later := ih (orderly_move orderly m) sound ((provider_after orderly [m]).trans served)
      admitted.2 now
    rw [after_cons, along, List.count_append, ← Nat.add_assoc]
    exact later

/-- A number that is configured for a setting is read as the value and set as the value, once for
each time that a connection is recycled. -/
structure Yields (σ : Setting α) (n : Nat) (value : α) : Prop where
  built : ∀ c : Config,
    σ.read (Tuning.ofConfig (c.addParameter σ.key (.integer n))) = some value
  read : ∀ c : Config, c.text? σ.key = some (Scalar.integer n).toText →
    σ.read (Tuning.ofConfig c) = some value
  pushed : ∀ (c : Config) drivers dialects p, c.text? σ.key = some (Scalar.integer n).toText →
    Provider.build c drivers dialects = .ok p → ∀ backend : Backend, backend.log = [] →
    ∀ moves, Admitted sparesSettings (start backend p.pool (some p)) moves → ∀ handle,
      σ.pushed ((start backend p.pool (some p)).after moves).backend handle =
        List.replicate ((along tunings (start backend p.pool (some p)) moves).count handle) value

/-- What is set is what is read. -/
theorem Yields.of_read (read : ∀ c : Config, c.text? σ.key = some (Scalar.integer n).toText →
    σ.read (Tuning.ofConfig c) = some value) : Yields σ n value := by
  constructor
  · intro c
    exact read _ (c.text?_addParameter σ.key _)
  · exact read
  · intro c drivers dialects p written built backend fresh moves admitted handle
    have orderly : Orderly (start backend p.pool (some p)) := orderly_start backend _ (some p)
    have kept : Kept (rest (start backend p.pool (some p))) := kept_start fresh _ (some p)
    have untouched : Backend.Trimmed p.tuning 0 backend handle := by
      change backend.log.filter _ = _ ++ if backend.isClosed handle then _ else _
      simp [Backend.isClosed, Backend.closedHandles, fresh]
    have trimmed := trimmed_after orderly kept rfl admitted untouched
    rw [σ.traced trimmed, ofBuild_tuning built, read c written, Nat.zero_add, Option.toList_some,
      List.flatten_replicate_singleton]

theorem build_of_named {c : Config} {drivers : DriverRegistry Unit} {dialects : DialectRegistry}
    (named : c.validate = .ok ()) (sized : c.maxPoolSize ≠ 0) :
    Provider.build c drivers dialects = .ok ⟨c, drivers, dialects, Tuning.ofConfig c⟩ := by
  simp only [Provider.build, named, if_neg sized]

/-- The idle limit is as configured, whatever the number, and the lifetime up to the largest
count; only there it may fall with a rising number. -/
theorem numbers_pushed {n : Nat} (positive : 1 ≤ n) (bounded : n < 9223372036854775808) :
    Yields Tuning.idleSetting n n ∧ Yields Tuning.lifetimeSetting n (Tuning.lifetimeFor n) ∧
      (n ≤ Config.maxCount → Tuning.lifetimeFor n = Duration.ofMillis n) ∧
      (Config.maxCount < n → Tuning.lifetimeFor n = Duration.ofMillis Tuning.defaultLifetime) ∧
      ∀ m, n ≤ m → ((Tuning.lifetimeFor m).nanos < (Tuning.lifetimeFor n).nanos ↔
        Tuning.defaultLifetime < n ∧ n ≤ Config.maxCount ∧ Config.maxCount < m) := by
  refine ⟨.of_read ?_, .of_read ?_, ?_, ?_, ?_⟩
  · intro c written
    exact Tuning.maxIdle_ofConfig written bounded
  · intro c written
    exact Tuning.lifetime_ofConfig written positive
  · intro small
    rw [Tuning.lifetimeFor, if_pos small]
  · intro large
    rw [Tuning.lifetimeFor, if_neg (by omega)]
  · intro m le
    exact Tuning.lifetimeFor_lt_iff le

/-- Its lifetime is the largest count of milliseconds. -/
def lasting : Config :=
  ((Config.ofEndpoint "mock" "db").withMaxPoolSize 1).addParameter Tuning.lifetimeKey
    (.integer (4294967295 : Nat))

def lastingProvider : Provider := ⟨lasting, .single "mock" (), .empty, Tuning.ofConfig lasting⟩

/-- One connection is recycled twice and then closed. -/
def recycling : List Move :=
  [.command (.get "a"), .command (.release "a"), .command (.get "b"), .command (.release "b"),
    .command (.get "c"), .command (.closeNow "c")]

theorem numbers_pushed_recycled :
    1 ≤ 4294967295 ∧ 4294967295 < 9223372036854775808 ∧
      Provider.build lasting (.single "mock" ()) .empty = .ok lastingProvider ∧
      Admitted sparesSettings (start .fresh lastingProvider.pool (some lastingProvider))
        recycling ∧
      ((start .fresh lastingProvider.pool (some lastingProvider)).after
        recycling).backend.tunedLifetimesOf 1 =
          List.replicate 2 (Duration.ofMillis 4294967295) := by
  have positive : 1 ≤ 4294967295 := by decide
  have bounded : 4294967295 < 9223372036854775808 := by decide
  have written : lasting.text? Tuning.lifetimeKey =
      some (Scalar.integer (4294967295 : Nat)).toText := Config.text?_addParameter _ _ _
  have built : Provider.build lasting (.single "mock" ()) .empty = .ok lastingProvider :=
    build_of_named (by decide) (by decide)
  have admitted : Admitted sparesSettings
      (start .fresh lastingProvider.pool (some lastingProvider)) recycling :=
    ⟨rfl, rfl, rfl, rfl, rfl, rfl, trivial⟩
  have twice : (along tunings (start .fresh lastingProvider.pool (some lastingProvider))
      recycling).count 1 = 2 := by decide +kernel
  obtain ⟨-, yields, exact, -, -⟩ := numbers_pushed positive bounded
  have pushed := yields.pushed lasting _ _ lastingProvider written built .fresh rfl recycling
    admitted 1
  rw [twice, exact (by decide)] at pushed
  exact ⟨positive, bounded, built, admitted, pushed⟩

/-- One millisecond more than the largest count is taken for text that is no number. -/
theorem lifetime_beyond_count :
    let tuned (value : Scalar) :=
      Tuning.ofConfig ((Config.ofEndpoint "pg" "db").addParameter Tuning.lifetimeKey value)
    (tuned (.integer 4294967295)).lifetime = some (Duration.ofMillis 4294967295) ∧
      (tuned (.integer 4294967296)).lifetime = some (Duration.ofMillis 1000) ∧
      tuned (.integer 4294967296) = tuned (.text "soon") := by
  decide +kernel

end Session
end Datastore
