import Datastore.Proofs.Session.Relay

/-!
# Handing connections on

While somebody waits for a connection of a provider, none is idle, so the connection that comes
back next is the one that the first in line obtains: the same one, set up again and not probed. If
it leaves the pool instead, the first in line obtains a new one. Nobody else is concerned. Main
statement: `handoff_exact`.
-/

namespace Datastore

open Provider (Stale)

theorem Duration.since_self (time : Duration) : (time.since time).nanos = 0 := by
  simp [since]

/-- Whoever was given back just now is not stale. -/
theorem Connection.not_stale_stamp (c : Connection) (now : Duration) :
    ¬ Stale now (c.stamp (some now)) := by
  rintro ⟨since, used, long⟩
  obtain rfl : now = since := Option.some.inj used
  rw [Duration.since_self] at long
  omega

namespace Provider

variable {p : Provider} {s : System} {c : Connection} {calls : List Call}

theorem Produces.opened_of_ok (produces : p.Produces s (.ok c) calls) :
    calls.countP Call.isOpened = 1 := by
  cases produces with
  | made =>
    refine (List.countP_cons_of_pos rfl).trans ?_
    exact congrArg (· + 1) (countP_executed fun _ => rfl)

theorem Produces.id_of_ok (produces : p.Produces s (.ok c) calls) : c.id = s.made + 1 := by
  cases produces
  rfl

end Provider

namespace Session

variable {s t u : Session} {p : Provider} {first : String} {others : List String}
variable {c : Connection} {idle : List Connection} {before calls : List Call}

/-- The first in line obtained this connection, and the others wait as before. Meanwhile the backend
was told these calls. -/
structure Obtains (s t : Session) (first : String) (others : List String) (c : Connection)
    (calls : List Call) : Prop where
  got : t.holdings.find? first = some (.waiter .connection (.finished (.ok (.connection c))))
  collects : (t.obey (.poll first)).1 = .connection c.id
  backend : t.backend = s.backend.told calls
  pool : t.pool = { s.pool with waiting := others }
  waits : ∀ name ∈ others, t.Queued name
  done : t.agenda = []

/-- Whoever has the slot obtains what its checkout ends with. -/
theorem Relays.obtains (relays : Relays s u first others idle before)
    (crowded : Crowded p s first others) (rested : idle.tail = [])
    (serves : p.Serves u.toSystem (.ready c) calls) :
    Obtains s u.settle first others c (before ++ calls) := by
  obtain ⟨orderly, sound, grounded, served, isOpen⟩ := relays.facts crowded
  have sane := sound.sane grounded
  have due : u.agenda[0]? = some (.resume first) := by rw [relays.due]; rfl
  obtain ⟨told, got, pool⟩ := doWork_of_serves orderly sane served isOpen due relays.granted serves
  have done : (u.doWork 0).agenda = [] := by
    rw [doWork_eq_deliver served (orderly.unbarred isOpen) due relays.granted,
      (serves.checkout sane).1]
    simp only [deliver, hold, withSystem, relays.due, List.eraseIdx_cons_zero]
  have settled : u.settle = u.doWork 0 := (settle_cons relays.due).trans (settle_of_done done)
  rw [settled]
  have orderly' : Orderly (u.doWork 0) := orderly_move orderly (.work 0)
  have pool' : (u.doWork 0).pool = { s.pool with waiting := others } := by
    rw [pool, relays.pool]
    simp only [rested, ← crowded.empty]
  refine ⟨got, ?_, ?_, pool', fun name here => ?_, done⟩
  · rw [obey_poll got]
    rfl
  · rw [told, relays.backend, Backend.told_told]
  · exact (orderly'.mem_waiting name).mp (by rw [pool']; exact here)

/-- What becomes of the first in line in this state, which a run has reached. -/
structure HandsOn (p : Provider) (began : Session) (moves : List Move) (s : Session)
    (first : String) (others : List String) : Prop where
  order : (first :: others).Pairwise (BegunAfter began moves)
  isOpen : s.pool.closed = false
  empty : s.pool.idle = []
  returned : ∀ command c, s.guardDropped? (.command command) = some c → c.transaction = none →
    let t := (s.step command).2
    Obtains s t first others (c.stamp (some s.clock)) (p.tuning.calls c.handle) ∧
      t.backend.opens = s.backend.opens ∧ t.backend.pings = s.backend.pings
  vacated : ∀ command c before, Vacates s c command before →
    ∀ new, (p.manufacture s.toSystem).1 = .ok new →
      let t := (s.step command).2
      ∃ calls, p.Produces s.toSystem (.ok new) calls ∧
        Obtains s t first others new (before ++ calls) ∧
        t.backend.opens = s.backend.opens + 1 ∧ t.backend.pings = s.backend.pings ∧
        ∀ earlier ∈ s.history Movement.made?, earlier.id < new.id

theorem Crowded.returned (crowded : Crowded p s first others) {command : Command}
    (dropped : s.guardDropped? (.command command) = some c) (free : c.transaction = none) :
    Obtains s (s.step command).2 first others (c.stamp (some s.clock))
      (p.tuning.calls c.handle) := by
  have relays := crowded.relays_returned dropped free
  have front : (s.move (.command command)).pool.idle = [c.stamp (some s.clock)] := by
    rw [relays.pool]
  have recent : ¬ Stale (s.move (.command command)).clock (c.stamp (some s.clock)) := by
    rw [relays.clock]
    exact c.not_stale_stamp s.clock
  rw [step_eq_obey crowded.done]
  exact relays.obtains crowded rfl (.recent _ [] front recent)

theorem Crowded.vacated (crowded : Crowded p s first others) {command : Command}
    (vacates : Vacates s c command before) {new : Connection}
    (makes : (p.manufacture s.toSystem).1 = .ok new) :
    ∃ calls, p.Produces s.toSystem (.ok new) calls ∧
      Obtains s (s.step command).2 first others new (before ++ calls) := by
  obtain ⟨u, relays, settled⟩ := vacates.relays crowded
  obtain ⟨calls, produces, produces'⟩ := relays.produces crowded vacates.quiet.1 makes
  have empty : u.pool.idle = [] := by rw [relays.pool, crowded.empty]
  refine ⟨calls, produces, ?_⟩
  rw [settled]
  exact relays.obtains crowded (by rw [crowded.empty]; rfl) (.new empty produces')

/-- In every run of a provider in which callers take no slots without connections and put nothing
into the idle queue: once all work is done, whoever waits for a connection finds the queue empty,
and the first in line obtains the connection that comes back, or a new one for one that leaves. -/
theorem handoff_exact {backend : Backend} (fresh : backend.log = []) (capacity : Nat)
    (p : Provider) {moves : List Move}
    (admitted : Admitted sparesSlots (start backend (Pool.ofCapacity capacity) (some p)) moves) :
    let began := start backend (Pool.ofCapacity capacity) (some p)
    let s := began.after moves
    s.agenda = [] → ∀ first others, s.pool.waiting = first :: others →
      HandsOn p began moves s first others := by
  intro began s done first others line
  have ordered : Orderly began := orderly_start backend capacity (some p)
  have order := line_begun ordered (fun _ => rfl) moves
  rw [show (began.after moves).pool.waiting = _ from line] at order
  have crowded : Crowded p s first others := crowded_after fresh admitted done line
  refine ⟨order, crowded.isOpen, crowded.empty, ?_, ?_⟩
  · intro command c dropped free t
    have obtains := crowded.returned dropped free
    have opens : (p.tuning.calls c.handle).countP Call.isOpened = 0 :=
      Call.countP_isOpened_of_upkeep fun _ => Tuning.isUpkeep_of_calls
    refine ⟨obtains, ?_, ?_⟩
    · rw [obtains.backend, Backend.opens_told, opens, Nat.add_zero]
    · rw [obtains.backend, Backend.pings_told, (p.tuning.quiet c.handle).1, Nat.add_zero]
  · intro command c before vacates new makes t
    obtain ⟨calls, produces, obtains⟩ := crowded.vacated vacates makes
    obtain ⟨opens, pings⟩ := vacates.quiet
    refine ⟨calls, produces, obtains, ?_, ?_, fun earlier here => ?_⟩
    · rw [obtains.backend, Backend.opens_told, List.countP_append, opens, produces.opened_of_ok,
        Nat.zero_add]
    · rw [obtains.backend, Backend.pings_told, List.countP_append, pings, produces.modest.1]
      rfl
    · rw [produces.id_of_ok]
      exact Nat.lt_succ_of_le (crowded.sound.id_le here)

theorem handoff_exact_guard :
    let p : Provider := ⟨.ofEndpoint "mock" "db", .single "mock" (), .empty, ⟨none, some 1⟩⟩
    let moves : List Move := [.command (.get "a"), .command (.waitGet "b"),
      .command (.waitGet "c"), .command (.advance (Duration.ofParts 61 0))]
    let began := start .fresh (.ofCapacity 1) (some p)
    let s := began.after moves
    let c : Connection := ⟨1, 1, p.dialect, none, .zero, none⟩
    Backend.fresh.log = [] ∧ Admitted sparesSlots began moves ∧ s.agenda = [] ∧
      s.pool.waiting = ["b", "c"] ∧ HandsOn p began moves s "b" ["c"] ∧
      Obtains s (s.step (.drop "a")).2 "b" ["c"] (c.stamp (some (Duration.ofParts 61 0)))
        [.idleLimitSet 1 1] ∧
      (s.step (.closeNow "a")).2.backend.opens = 2 := by
  intro p moves began s c
  have admitted : Admitted sparesSlots began moves := ⟨rfl, rfl, rfl, rfl, trivial⟩
  have done : s.agenda = [] := by decide +kernel
  have line : s.pool.waiting = ["b", "c"] := by decide +kernel
  have law : HandsOn p began moves s "b" ["c"] :=
    handoff_exact (rfl : Backend.fresh.log = []) 1 p admitted done _ _ line
  have dropped : s.guardDropped? (.command (.drop "a")) = some c := by decide +kernel
  have now : s.clock = Duration.ofParts 61 0 := by decide +kernel
  obtain ⟨obtains, -, -⟩ := law.returned (.drop "a") c dropped rfl
  rw [now] at obtains
  obtain ⟨new, makes⟩ : ∃ new, (p.manufacture s.toSystem).1 = .ok new := by
    have some : (p.manufacture s.toSystem).1.toOption.isSome = true := by decide +kernel
    cases ends : (p.manufacture s.toSystem).1 with
    | ok new => exact ⟨new, rfl⟩
    | error cause =>
      rw [ends] at some
      cases some
  have vacates : Vacates s c (.closeNow "a") _ := .closed (pooled_of_dropped dropped)
  obtain ⟨calls, -, -, opens, -⟩ := law.vacated _ _ _ vacates new makes
  have number : s.backend.opens = 1 := by decide +kernel
  rw [number] at opens
  exact ⟨rfl, admitted, done, line, law, obtains, opens⟩

end Session
end Datastore
