import Datastore.Proofs.Session.Balance
import Datastore.Proofs.Session.Turns

/-!
# Slots

No slot is lost or made: whatever happens, the free ones and the ones in use make up the capacity,
and nobody waits while one is free. The idle queue has no bound of its own, but unless callers put
connections into it, idle connections and engaged slots together are bounded by the capacity. A
slot that was given to a waiter is not engaged before the waiter goes on, which is why the bound
does not speak of slots in use. Main statements: `slots_accounted`, `pooled_bounded`.
-/

namespace Datastore

/-- Connections with a slot that a caller has or has only to collect. -/
def Holding.guards : Holding → Nat
  | .pooled _ | .waiter _ (.finished (.ok (.connection _))) => 1
  | _ => 0

theorem System.Effect.slots {d d' : Midway System} (effect : Effect d d') :
    d'.slots + d'.engaged = d.slots + d.engaged := by
  cases effect <;> simp only [] <;> omega

/-- A slot is engaged at the cost of an idle connection, or when there is none. -/
theorem System.Effect.idle_le {d d' : Midway System} (effect : Effect d d') :
    d'.state.pool.idle.length + d'.engaged ≤ d.state.pool.idle.length + d.engaged ∨
      d'.state.pool.idle = [] := by
  cases effect with
  | taken front =>
    left
    simp [front, note]
    omega
  | engaged empty => exact Or.inr empty
  | withdrawn front =>
    left
    simp [front, note]
  | returned isOpen free =>
    left
    simp [enqueue, note, Pool.enqueue]
    omega
  | disengaged =>
    left
    simp
  | _ => exact Or.inl (Nat.le_refl _)

namespace Session

/-- Slots in use: without a connection, with one, or with one being sought. -/
def liveSlots (s : Session) : Nat := s.holdings.total fun t => t.slots + t.engaged

/-- Slots with a connection. -/
def engaged (s : Session) : Nat := s.holdings.total Holding.engaged

/-- Connections with a slot at the hands of callers. -/
def guards (s : Session) : Nat := s.holdings.total Holding.guards

theorem guards_le_engaged (s : Session) : s.guards ≤ s.engaged := by
  apply Table.total_mono
  intro t
  unfold Holding.guards Holding.engaged
  split <;> simp

theorem Effect.slots {origin : Session} {m : Move} {d d' : Midway Session}
    (effect : Effect origin m d d') (orderly : Orderly d.state) :
    slotsOf d' = slotsOf d ∧ d'.state.pool.capacity = d.state.pool.capacity := by
  cases effect with
  | system effect =>
    obtain ⟨free, -, -, capacity, -⟩ := effect.line
    have kept := effect.slots
    simp only at free kept
    refine ⟨?_, capacity⟩
    simp only [slotsOf, withSystem, free]
    omega
  | shuffled shuffle => exact ⟨shuffle.slots orderly, shuffle.untouched.capacity⟩
  | shut =>
    obtain ⟨t, same, -, -, total⟩ := closePool_spec orderly
    have kept := total (fun t => t.slots + t.engaged) fun _ => rfl
    rw [same, System.close_eq]
    refine ⟨?_, rfl⟩
    simp only [slotsOf, withSystem, kept]
  | _ => exact ⟨rfl, rfl⟩

/-- In the middle of a move, slots on their way count too. -/
structure Bounded (capacity : Nat) (d : Midway Session) : Prop where
  slots : slotsOf d = capacity
  size : d.state.pool.capacity = capacity
  pooled : d.state.pool.idle.length + d.state.holdings.total Holding.engaged + d.engaged ≤ capacity

theorem agrees_engaged : Agrees Holding.engaged fun e _ _ => e := fun _ _ _ _ => rfl

theorem Effect.bounded {origin : Session} {m : Move} {d d' : Midway Session} {capacity : Nat}
    (effect : Effect origin m d d') (spares : ∀ name, m ≠ .command (.enqueue name))
    (orderly : Orderly d.state) (bounded : Bounded capacity d) : Bounded capacity d' := by
  obtain ⟨slots, size⟩ := effect.slots orderly
  refine ⟨slots.trans bounded.slots, size.trans bounded.size, ?_⟩
  have bound := bounded.pooled
  have all := slots.trans bounded.slots
  cases effect with
  | system effect =>
    rcases effect.idle_le with less | empty
    · simp only [withSystem] at less bound ⊢
      omega
    · -- Nothing is idle, and every engaged slot is one of the capacity.
      simp only [slotsOf, withSystem, Table.total_add] at all empty ⊢
      simp only [empty, List.length_nil]
      omega
  | shuffled shuffle =>
    have balance := shuffle.balance agrees_engaged orderly
    rw [shuffle.untouched.idle]
    omega
  | shut =>
    obtain ⟨t, same, -, -, total⟩ := closePool_spec orderly
    have kept := total Holding.engaged fun _ => rfl
    rw [same, System.close_eq]
    simp only [withSystem, kept, List.length_nil] at bound ⊢
    omega
  | enqueued asked bare isOpen => exact absurd asked (spares _)
  | _ => exact bound

theorem bounded_start (backend : Backend) (capacity : Nat) (provider : Option Provider) :
    Bounded (max capacity 1) (rest (start backend (Pool.ofCapacity capacity) provider)) where
  slots := rfl
  size := rfl
  pooled := Nat.zero_le _

theorem slots_after (backend : Backend) (capacity : Nat) (provider : Option Provider)
    (moves : List Move) :
    Orderly ((start backend (Pool.ofCapacity capacity) provider).after moves) ∧
      slotsOf (rest ((start backend (Pool.ofCapacity capacity) provider).after moves)) =
        max capacity 1 ∧
      ((start backend (Pool.ofCapacity capacity) provider).after moves).pool.capacity =
        max capacity 1 := by
  have orderly := orderly_start backend capacity provider
  have everything : Admitted (fun _ _ => true) (start backend (Pool.ofCapacity capacity) provider)
      moves := admitted_everything _ _
  have kept := everything.sustains
    (I := fun d => slotsOf d = max capacity 1 ∧ d.state.pool.capacity = max capacity 1)
    (fun _ _ _ _ _ effect there now => by
      obtain ⟨slots, size⟩ := effect.slots there
      exact ⟨slots.trans now.1, size.trans now.2⟩) orderly ⟨rfl, rfl⟩
  exact ⟨orderly_after orderly moves, kept⟩

/-- The slots are accounted for in every state of every run: the free ones and the live ones make
up the capacity, the status tells the live ones, whoever is in line finds none free, and whoever
began to wait later is not served before. -/
theorem slots_accounted (backend : Backend) (capacity : Nat) (provider : Option Provider)
    (moves : List Move) :
    let s := (start backend (Pool.ofCapacity capacity) provider).after moves
    s.pool.capacity = max capacity 1 ∧
      s.pool.free + s.liveSlots = s.pool.capacity ∧
      (s.pool.closed = false → s.pool.status.inUse = s.liveSlots) ∧
      (∀ name, s.Queued name → s.pool.closed = false ∧ s.pool.status.inUse = s.pool.capacity) ∧
      ∀ first second more, Throughout (·.Queued first) s more → ¬ s.Queued second →
        ¬ s.Granted second → ¬ (s.after more).Granted second := by
  intro s
  obtain ⟨orderly, slots, size⟩ := slots_after backend capacity provider moves
  change Orderly s at orderly
  change slotsOf (rest s) = _ at slots
  change s.pool.capacity = _ at size
  have sum : s.pool.free + s.liveSlots = s.pool.capacity := by
    simp only [slotsOf, rest] at slots
    rw [liveSlots]
    omega
  have status : s.pool.closed = false → s.pool.status.inUse = s.liveSlots := by
    intro isOpen
    simp only [Pool.status, isOpen]
    simp
    omega
  refine ⟨size, sum, status, ?_, ?_⟩
  · intro name queued
    have here := (orderly.mem_waiting name).mpr queued
    have none := orderly.busy (List.ne_nil_of_mem here)
    have isOpen : s.pool.closed = false := by
      by_contra shut
      have empty := orderly.dispersed (by simpa using shut)
      rw [empty] at here
      cases here
    have told := status isOpen
    exact ⟨isOpen, by omega⟩
  · intro first second more line apart idle
    exact not_overtaken orderly line ⟨idle, fun queued => absurd queued apart⟩

/-- Callers put nothing into the idle queue. -/
def sparesQueue (_ : Session) : Move → Bool
  | .command (.enqueue _) => false
  | _ => true

theorem ofBuild_pool {config : Config} {drivers : DriverRegistry Unit}
    {dialects : DialectRegistry} {p : Provider}
    (built : Provider.build config drivers dialects = .ok p) :
    p.pool = Pool.ofCapacity (max 1 config.maxPoolSize.toNat) := by
  rw [Provider.build] at built
  split at built
  · cases built
  · obtain rfl := Except.ok.inj built
    by_cases unset : config.maxPoolSize = 0
    · simp [Provider.pool, Config.effectivePoolSize, unset, Config.withMaxPoolSize]
    · simp [Provider.pool, Config.effectivePoolSize, unset, Nat.max_comm]

/-- Without connections that callers put into the queue, the idle connections and the engaged
slots of a provider together do not exceed its pool size. -/
theorem pooled_bounded {config : Config} {drivers : DriverRegistry Unit}
    {dialects : DialectRegistry} {p : Provider}
    (built : Provider.build config drivers dialects = .ok p) (backend : Backend)
    {moves : List Move} (admitted : Admitted sparesQueue (start backend p.pool (some p)) moves) :
    let s := (start backend p.pool (some p)).after moves
    s.pool.idle.length + s.engaged ≤ max 1 config.maxPoolSize.toNat ∧
      s.guards ≤ max 1 config.maxPoolSize.toNat ∧
      s.pool.idle.length ≤ max 1 config.maxPoolSize.toNat := by
  intro s
  have pool := ofBuild_pool built
  have size : max (max 1 config.maxPoolSize.toNat) 1 = max 1 config.maxPoolSize.toNat := by omega
  have orderly : Orderly (start backend p.pool (some p)) := pool ▸ orderly_start ..
  have began : Bounded (max 1 config.maxPoolSize.toNat) (rest (start backend p.pool (some p))) := by
    have bounded := bounded_start backend (max 1 config.maxPoolSize.toNat) (some p)
    rwa [size, ← pool] at bounded
  have bounded := admitted.sustains
    (fun _ m allowed _ _ effect there now =>
      effect.bounded (by rintro name rfl; cases allowed) there now) orderly began
  have bound : s.pool.idle.length + s.engaged + 0 ≤ _ := bounded.pooled
  have fewer := s.guards_le_engaged
  refine ⟨?_, ?_, ?_⟩ <;> omega

theorem pooled_bounded_two :
    let config := (Config.ofEndpoint "mock" "db").withMaxPoolSize 2
    let drivers := DriverRegistry.single "mock" ()
    let p : Provider := ⟨config, drivers, .builtin, .none⟩
    let moves : List Move := [.command (.get "a"), .command (.get "b"), .command (.waitGet "c"),
      .command (.release "a")]
    let s := (start .fresh p.pool (some p)).after moves
    Provider.build config drivers .builtin = .ok p ∧
      Admitted sparesQueue (start .fresh p.pool (some p)) moves ∧
      s.pool.idle.length + s.engaged ≤ 2 ∧ s.guards ≤ 2 ∧ s.pool.idle.length ≤ 2 := by
  have built : Provider.build ((Config.ofEndpoint "mock" "db").withMaxPoolSize 2)
      (.single "mock" ()) .builtin = .ok ⟨(Config.ofEndpoint "mock" "db").withMaxPoolSize 2,
        .single "mock" (), .builtin, .none⟩ := rfl
  exact ⟨built, ⟨rfl, rfl, rfl, rfl, trivial⟩,
    pooled_bounded built .fresh ⟨rfl, rfl, rfl, rfl, trivial⟩⟩

/-- Idle connections and slots in use together do exceed the pool size. -/
example :
    let config := (Config.ofEndpoint "mock" "db").withMaxPoolSize 2
    let p : Provider := ⟨config, .single "mock" (), .builtin, .none⟩
    let s := (start .fresh p.pool (some p)).after [.command (.get "a"), .command (.get "b"),
      .command (.waitGet "c"), .command (.release "a")]
    s.pool.status = ⟨1, 2, 2⟩ ∧ s.engaged = 1 := by
  decide +kernel

end Session
end Datastore
