import Datastore.Proofs.Failures
import Datastore.Proofs.Session.Relay

/-!
# Cascades of failures

A waiter that is given a slot and cannot make a connection frees the slot again, and the next in
line has it. If no connection can be made, a single free slot thus goes down the whole line: every
waiter makes one attempt and learns why it failed, and the last leaves the slot free. Main
statement: `cascade_ends`.
-/

namespace Datastore

namespace Provider

variable {p : Provider} {s : System} {cause : Error} {calls : List Call}

/-- With an empty queue, a checkout fails if no connection can be made. -/
theorem checkout_of_failing (empty : s.pool.idle = []) (next : s.backend.isClosed
    (s.backend.opens + 1) = false) (produces : p.Produces s (.error cause) calls) :
    p.checkout s = (.failed cause, s.afterMaking calls (.error cause)) := by
  rw [checkout_nil empty, checkoutNew, produces.manufacture next]

end Provider

/-- A failure uses up no number and no time. -/
theorem System.afterMaking_error (s : System) (calls : List Call) (cause : Error) :
    (s.afterMaking calls (.error cause)).pool = s.pool ∧
      (s.afterMaking calls (.error cause)).clock = s.clock ∧
      (s.afterMaking calls (.error cause)).made = s.made := by
  rw [afterMaking]
  split <;> exact ⟨rfl, rfl, rfl⟩

namespace Session

variable {s t u v : Session} {p : Provider} {cause : Error} {name first second : String}
variable {names others : List String} {c : Connection} {before : List Call}

/-- The waiter that has the slot makes one attempt, which fails; it learns why, and its slot is
free. -/
structure GoesWithout (p : Provider) (cause : Error) (u v : Session) (name : String) : Prop where
  granted : u.holdings.find? name = some (.waiter .connection .granted)
  worked : v = u.move (.work 0)
  attempt : ∃ calls, p.Produces u.toSystem (.error cause) calls ∧ v.backend = u.backend.told calls
  told : v.holdings.find? name =
    some (.waiter .connection (.finished (.error (.connection cause))))
  freed : v.pool = u.pool.freed

/-- One after the other, these waiters go without, and then nothing is due. -/
inductive Cascade (p : Provider) (cause : Error) : Session → List String → Session → Prop
  | ended {u : Session} (done : u.agenda = []) : Cascade p cause u [] u
  | passed {u v t : Session} {name : String} {rest : List String} (due : u.agenda = [.resume name])
      (without : GoesWithout p cause u v name) (later : Cascade p cause v rest t) :
    Cascade p cause u (name :: rest) t

theorem Cascade.after (cascade : Cascade p cause u names t) :
    t = u.after (List.replicate names.length (.work 0)) := by
  induction cascade with
  | ended => rfl
  | passed due without later ih => rw [ih, without.worked, List.length_cons, List.replicate_succ,
      after_cons]

/-- What a waiter learned it still knows in the end. -/
theorem Cascade.told (cascade : Cascade p cause u names t) (orderly : Orderly u) :
    ∀ name ∈ names, t.holdings.find? name =
      some (.waiter .connection (.finished (.error (.connection cause)))) := by
  induction cascade with
  | ended => simp
  | passed due without later ih =>
    have orderly' : Orderly _ := orderly_move orderly (.work 0)
    rw [← without.worked] at orderly'
    rw [List.forall_mem_cons]
    refine ⟨?_, ih orderly'⟩
    rw [later.after]
    exact find?_after orderly' without.told (admitted_work (fun _ _ => rfl) _ _)

/-- The first has the slot, the others are in line, and no connection can be made. -/
structure InVain (p : Provider) (cause : Error) (u : Session) (first : String)
    (others : List String) : Prop where
  orderly : Orderly u
  sound : Sound (rest u)
  grounded : Grounded (rest u)
  served : u.provider = some p
  isOpen : u.pool.closed = false
  empty : u.pool.idle = []
  line : u.pool.waiting = others
  await : ∀ name ∈ others, u.Awaits name
  granted : u.holdings.find? first = some (.waiter .connection .granted)
  due : u.agenda = [.resume first]
  fails : ∃ calls, p.Produces u.toSystem (.error cause) calls

/-- The first goes without. -/
theorem InVain.goesWithout (vain : InVain p cause u first others) :
    GoesWithout p cause u (u.move (.work 0)) first := by
  obtain ⟨calls, produces⟩ := vain.fails
  have sane := vain.sound.sane vain.grounded
  have due : u.agenda[0]? = some (.resume first) := by rw [vain.due]; rfl
  obtain ⟨told, learns, pool⟩ := doWork_of_serves vain.orderly sane vain.served vain.isOpen due
    vain.granted (.new vain.empty produces)
  refine ⟨vain.granted, rfl, ⟨calls, produces, told⟩, learns, pool.trans ?_⟩
  rw [vain.empty, List.tail_nil, ← vain.empty]

/-- The first is told, and gives its slot back. -/
theorem InVain.frees (vain : InVain p cause u first others) :
    ∃ (calls : List Call) (t : Session),
      u.move (.work 0) = t.freeSlot ∧ t.pool = u.pool ∧ t.agenda = [] ∧
      t.backend = u.backend.told calls ∧ t.clock = u.clock ∧ t.made = u.made ∧
      ∀ name ∈ others, t.Awaits name := by
  obtain ⟨calls, produces⟩ := vain.fails
  have sane := vain.sound.sane vain.grounded
  have due : u.agenda[0]? = some (.resume first) := by rw [vain.due]; rfl
  have went := doWork_eq_deliver vain.served (vain.orderly.unbarred vain.isOpen) due vain.granted
  rw [Provider.checkout_of_failing vain.empty sane.next produces] at went
  obtain ⟨pool, clock, made⟩ := u.toSystem.afterMaking_error calls cause
  refine ⟨calls, _, went, pool, ?_, System.afterMaking_backend .., clock, made, ?_⟩
  · simp only [hold, withSystem, vain.due, List.eraseIdx_cons_zero]
  · intro name here
    have apart : name ≠ first := by
      rintro rfl
      exact absurd ((vain.await name here).symm.trans vain.granted) (by simp)
    exact (find?_hold_of_ne apart).trans (vain.await name here)

/-- Who is next in line is no better off. -/
theorem InVain.next (vain : InVain p cause u first (second :: others)) :
    InVain p cause (u.move (.work 0)) second others := by
  obtain ⟨calls, t, moved, pool, done, told, clock, made, await⟩ := vain.frees
  have reached : t.freeSlot = u.after [.work 0] := moved.symm
  have relays := relays_freeSlot ⟨_, reached⟩ vain.orderly.distinct vain.line
    (fun name here => await name (vain.line ▸ here)) pool done told clock made
  rw [← moved] at relays
  obtain ⟨calls, produces⟩ := vain.fails
  exact {
    orderly := orderly_move vain.orderly _
    sound := vain.sound.move vain.orderly _
    grounded := vain.grounded.after vain.orderly vain.sound [.work 0]
    served := (provider_after vain.orderly [.work 0]).trans vain.served
    isOpen := by rw [relays.pool]; exact vain.isOpen
    empty := by rw [relays.pool]; exact vain.empty
    line := by rw [relays.pool]
    await := relays.await
    granted := relays.granted
    due := relays.due
    fails := produces.again (by rw [relays.backend]; rfl) (by rw [relays.backend]; rfl) }

/-- The slot goes down the line and is free in the end. -/
theorem InVain.cascade (vain : InVain p cause u first others) :
    Cascade p cause u (first :: others) u.settle ∧
      u.settle.pool = { u.pool with waiting := [], free := u.pool.free + 1 } := by
  rw [settle_cons vain.due]
  induction others generalizing u first with
  | nil =>
    obtain ⟨calls, t, moved, pool, done, -⟩ := vain.frees
    have nobody : t.pool.waiting = [] := by rw [pool, vain.line]
    have done' : (u.move (.work 0)).agenda = [] := by rw [moved, freeSlot_of_nobody nobody, done]
    rw [settle_of_done done']
    refine ⟨.passed vain.due vain.goesWithout (.ended done'), ?_⟩
    simp only [vain.goesWithout.freed, Pool.freed, vain.line]
  | cons second others ih =>
    obtain ⟨later, pool⟩ := ih vain.next
    rw [← settle_cons vain.next.due] at later pool
    refine ⟨.passed vain.due vain.goesWithout later, pool.trans ?_⟩
    rw [vain.goesWithout.freed, Pool.freed, vain.line]

/-- What comes of a connection that leaves the pool where none can be made. -/
structure RunsOut (p : Provider) (cause : Error) (began : Session) (moves : List Move)
    (s t : Session) (first : String) (others : List String) (before : List Call) : Prop where
  order : (first :: others).Pairwise (BegunAfter began moves)
  cascade : ∃ u, Relays s u first others [] before ∧ Cascade p cause u (first :: others) t
  told : ∀ name ∈ first :: others, t.holdings.find? name =
    some (.waiter .connection (.finished (.error (.connection cause)))) ∧
      (t.obey (.poll name)).1 = .poolError (.connection cause)
  done : t.agenda = []
  nobody : ∀ name, ¬ t.Queued name ∧ ¬ t.Granted name
  pool : t.pool = { s.pool with waiting := [], free := 1 }
  status : t.pool.status = ⟨0, s.pool.capacity - 1, s.pool.capacity⟩

theorem Relays.inVain (relays : Relays s u first others [] before)
    (crowded : Crowded p s first others) (quiet : before.countP Call.isOpened = 0)
    (fails : (p.manufacture s.toSystem).1 = .error cause) : InVain p cause u first others := by
  obtain ⟨orderly, sound, grounded, served, isOpen⟩ := relays.facts crowded
  obtain ⟨calls, -, produces⟩ := relays.produces crowded quiet fails
  exact {
    orderly, sound, grounded, served, isOpen
    empty := by rw [relays.pool]
    line := by rw [relays.pool]
    await := relays.await
    granted := relays.granted
    due := relays.due
    fails := ⟨calls, produces⟩ }

theorem poll_failed {error : PoolError}
    (known : s.holdings.find? name = some (.waiter .connection (.finished (.error error)))) :
    (s.obey (.poll name)).1 = .poolError error := by
  rw [obey_poll known]
  rfl

theorem Crowded.runsOut {began : Session} {moves : List Move} {command : Command}
    (crowded : Crowded p s first others) (attended : Attended s)
    (order : (first :: others).Pairwise (BegunAfter began moves))
    (vacates : Vacates s c command before)
    (fails : (p.manufacture s.toSystem).1 = .error cause) :
    RunsOut p cause began moves s (s.step command).2 first others before := by
  obtain ⟨u, relays, settled⟩ := vacates.relays crowded
  rw [crowded.empty] at relays
  have vain := relays.inVain crowded vacates.quiet.1 fails
  obtain ⟨cascade, pool⟩ := vain.cascade
  have done : u.settle.agenda = [] := agenda_settle u
  have ended : u.settle.pool = { s.pool with waiting := [], free := 1 } := by
    simp only [pool, relays.pool, crowded.busy, crowded.empty]
  have told := cascade.told vain.orderly
  have orderly' : Orderly u.settle := by
    rw [settle_eq_after]
    exact orderly_after vain.orderly _
  have attended' : Attended u.settle := by
    obtain ⟨early, same⟩ := relays.reached
    rw [settle_eq_after, same]
    exact (attended.after crowded.orderly early).after (same ▸ vain.orderly) _
  rw [settled]
  refine ⟨order, ⟨u, relays, cascade⟩,
    fun name here => ⟨told name here, poll_failed (told name here)⟩, done,
    fun name => ⟨fun queued => ?_, attended'.not_granted done name⟩, ended, ?_⟩
  · have here := (orderly'.mem_waiting name).mpr queued
    rw [ended] at here
    cases here
  · rw [ended]
    simp [Pool.status, crowded.empty, crowded.isOpen]

/-- In every run of a provider in which callers take no slots without connections and put nothing
into the idle queue: if a connection leaves the pool in a state in which others wait and no
connection can be made, all of them learn why, one after the other, and the slot is free. -/
theorem cascade_ends {backend : Backend} (fresh : backend.log = []) (capacity : Nat)
    (p : Provider) {moves : List Move}
    (admitted : Admitted sparesSlots (start backend (Pool.ofCapacity capacity) (some p)) moves) :
    let began := start backend (Pool.ofCapacity capacity) (some p)
    let s := began.after moves
    s.agenda = [] → ∀ first others, s.pool.waiting = first :: others →
      ∀ command c before, Vacates s c command before →
        ∀ cause, (p.manufacture s.toSystem).1 = .error cause →
          RunsOut p cause began moves s (s.step command).2 first others before := by
  intro began s done first others line command c before vacates cause fails
  have ordered : Orderly began := orderly_start backend capacity (some p)
  have order := line_begun ordered (fun _ => rfl) moves
  rw [show (began.after moves).pool.waiting = _ from line] at order
  exact (crowded_after fresh admitted done line).runsOut
    ((attended_start backend (.ofCapacity capacity) (some p)).after ordered moves) order vacates
    fails

theorem cascade_ends_refused :
    let p : Provider := ⟨.ofEndpoint "mock" "db", .single "mock" (), .empty, .none⟩
    let moves : List Move := [.command (.get "a"), .command (.waitGet "b"),
      .command (.waitGet "c"), .command (.setFault .opens true)]
    let began := start .fresh (.ofCapacity 1) (some p)
    let s := began.after moves
    let cause := Error.openFailed "mock" "db" (.ofLink "connection refused")
    Backend.fresh.log = [] ∧ Admitted sparesSlots began moves ∧ s.agenda = [] ∧
      s.pool.waiting = ["b", "c"] ∧ (p.manufacture s.toSystem).1 = .error cause ∧
      ∃ c, Vacates s c (.detach "a" "d") [] ∧
        RunsOut p cause began moves s (s.step (.detach "a" "d")).2 "b" ["c"] [] := by
  intro p moves began s cause
  have admitted : Admitted sparesSlots began moves := ⟨rfl, rfl, rfl, rfl, trivial⟩
  have done : s.agenda = [] := by decide +kernel
  have line : s.pool.waiting = ["b", "c"] := by decide +kernel
  have free : s.holdings.find? "d" = none := by decide +kernel
  have fails : (p.manufacture s.toSystem).1 = .error cause := by decide +kernel
  have dropped : s.guardDropped? (.command (.drop "a")) =
      some ⟨1, 1, p.dialect, none, .zero, none⟩ := by decide +kernel
  have vacates : Vacates s _ (.detach "a" "d") [] := .detached (pooled_of_dropped dropped) free
  exact ⟨rfl, admitted, done, line, fails, _, vacates,
    cascade_ends (rfl : Backend.fresh.log = []) 1 p admitted done "b" ["c"] line _ _ _ vacates cause
      fails⟩

end Session
end Datastore
