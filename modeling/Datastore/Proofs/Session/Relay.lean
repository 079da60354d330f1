import Datastore.Proofs.Checkouts
import Datastore.Proofs.Isolation
import Datastore.Proofs.Session.Saturation

/-!
# Passing a slot on

A guard that is dropped gives its slot to the first in line, and so does one whose connection
leaves the pool. What was dropped is back in the queue, or closed, before whoever has the slot goes
on. Main statements: `crowded_after`, `Crowded.relays_returned`, `Vacates.relays`.
-/

namespace Datastore

namespace Provider

/-- Calls that open nothing make no difference to what is made next. -/
theorem Produces.told {p : Provider} {s : System} {outcome : Except Error Connection}
    {calls before : List Call} (produces : p.Produces s outcome calls)
    (none : before.countP Call.isOpened = 0) :
    p.Produces { s with backend := s.backend.told before } outcome calls := by
  have number : (s.backend.told before).opens = s.backend.opens := by
    rw [Backend.opens_told, none, Nat.add_zero]
  cases produces with
  | misnamed fault unnamed => exact .misnamed fault unnamed
  | unknown dsn named absent => exact .unknown dsn named absent
  | refused dsn named known faulty => exact .refused dsn named known faulty
  | aborted dsn done statement rest named known sane listed passed failing =>
    have aborted := Produces.aborted (s := { s with backend := s.backend.told before })
      dsn done statement rest named known sane listed passed failing
    simpa only [number] using aborted
  | made dsn named known sane passed =>
    have made := Produces.made (s := { s with backend := s.backend.told before })
      dsn named known sane passed
    simpa only [number] using made

end Provider

namespace Session

variable {s t u : Session} {first name : String} {others : List String} {c : Connection}
variable {idle : List Connection} {before : List Call} {command : Command}

/-! ### The slot goes to the first in line -/

/-- In line for a connection. -/
def Awaits (s : Session) (name : String) : Prop :=
  s.holdings.find? name = some (.waiter .connection .queued)

/-- From one state to the other the first in line was given a slot, and nothing else is due. Of the
pool, only the queue may have changed. -/
structure Relays (s u : Session) (first : String) (others : List String) (idle : List Connection)
    (before : List Call) : Prop where
  reached : ∃ moves, u = s.after moves
  granted : u.holdings.find? first = some (.waiter .connection .granted)
  await : ∀ name ∈ others, u.Awaits name
  due : u.agenda = [.resume first]
  pool : u.pool = { s.pool with waiting := others, idle }
  backend : u.backend = s.backend.told before
  clock : u.clock = s.clock
  made : u.made = s.made

theorem freeSlot_eq (line : t.pool.waiting = first :: others) (awaits : t.Awaits first) :
    t.freeSlot = ({ t with pool := { t.pool with waiting := others } }.hold first
      (.waiter .connection .granted)).putOff (.resume first) := by
  have known : t.holdings.find? first = some (.waiter .connection .queued) := awaits
  simp only [freeSlot, line, advanceWaiter, known]

theorem relays_freeSlot (reached : ∃ moves, t.freeSlot = s.after moves)
    (distinct : s.pool.waiting.Nodup) (line : s.pool.waiting = first :: others)
    (await : ∀ name ∈ s.pool.waiting, t.Awaits name) (pool : t.pool = { s.pool with idle })
    (done : t.agenda = []) (backend : t.backend = s.backend.told before)
    (clock : t.clock = s.clock) (made : t.made = s.made) :
    Relays s t.freeSlot first others idle before := by
  rw [line, List.nodup_cons] at distinct
  rw [line, List.forall_mem_cons] at await
  have line' : t.pool.waiting = first :: others := by rw [pool, line]
  refine ⟨reached, ?_, ?_, ?_, ?_, ?_, ?_, ?_⟩ <;> rw [freeSlot_eq line' await.1]
  · exact Table.find?_insert_self _ _ _
  · intro name here
    have apart : name ≠ first := fun same => distinct.1 (same ▸ here)
    exact (find?_hold_of_ne apart).trans (await.2 name here)
  · simp only [putOff, hold, done, List.nil_append]
  · simp only [putOff, hold, pool]
  · exact backend
  · exact clock
  · exact made

/-- The slots of a provider are out, with their connections, and others wait for one. -/
structure Crowded (p : Provider) (s : Session) (first : String) (others : List String) : Prop where
  orderly : Orderly s
  sound : Sound (rest s)
  grounded : Grounded (rest s)
  served : s.provider = some p
  isOpen : s.pool.closed = false
  busy : s.pool.free = 0
  empty : s.pool.idle = []
  line : s.pool.waiting = first :: others
  await : ∀ name ∈ s.pool.waiting, s.Awaits name
  done : s.agenda = []

/-- Without bare slots, a provider for whose connections somebody waits has none idle. -/
theorem crowded_after {backend : Backend} (fresh : backend.log = []) {capacity : Nat}
    {p : Provider} {moves : List Move}
    (admitted : Admitted sparesSlots (start backend (Pool.ofCapacity capacity) (some p)) moves)
    (done : ((start backend (Pool.ofCapacity capacity) (some p)).after moves).agenda = [])
    (line : ((start backend (Pool.ofCapacity capacity) (some p)).after moves).pool.waiting =
      first :: others) :
    Crowded p ((start backend (Pool.ofCapacity capacity) (some p)).after moves) first others := by
  have ordered := orderly_start backend capacity (some p)
  have sounded := sound_start fresh capacity (some p)
  have orderly := orderly_after ordered moves
  have slotless := (slotless_start backend (.ofCapacity capacity) (some p)).after ordered admitted
  have long : ((start backend (Pool.ofCapacity capacity) (some p)).after moves).pool.waiting ≠
      [] := by rw [line]; simp
  have queued := (orderly.mem_waiting first).mp (by rw [line]; simp)
  exact {
    orderly
    sound := sounded.after ordered moves
    grounded := (grounded_start fresh _ (some p)).after ordered sounded moves
    served := provider_after ordered moves
    isOpen := (orderly.waits queued).1
    busy := orderly.busy long
    empty := idle_of_line (bounded_after admitted) orderly
      ((attended_start backend _ (some p)).after ordered moves) slotless done long
    line
    await := fun name here => slotless.queued ((orderly.mem_waiting name).mp here)
    done }

variable {p : Provider}

/-- What holds in every state of the run still holds when the slot has been passed on. -/
theorem Relays.facts (relays : Relays s u first others idle before)
    (crowded : Crowded p s first others) :
    Orderly u ∧ Sound (rest u) ∧ Grounded (rest u) ∧ u.provider = some p ∧
      u.pool.closed = false := by
  obtain ⟨moves, rfl⟩ := relays.reached
  refine ⟨orderly_after crowded.orderly moves, crowded.sound.after crowded.orderly moves,
    crowded.grounded.after crowded.orderly crowded.sound moves,
    (provider_after crowded.orderly moves).trans crowded.served, ?_⟩
  rw [relays.pool]
  exact crowded.isOpen

/-- What could be made before, and no more, can be made by whoever has the slot. -/
theorem Relays.produces {outcome : Except Error Connection}
    (relays : Relays s u first others idle before) (crowded : Crowded p s first others)
    (quiet : before.countP Call.isOpened = 0) (makes : (p.manufacture s.toSystem).1 = outcome) :
    ∃ calls, p.Produces s.toSystem outcome calls ∧ p.Produces u.toSystem outcome calls := by
  have next := (crowded.sound.sane crowded.grounded).next
  obtain ⟨outcome', calls, produces⟩ := p.exists_produces s.toSystem
  obtain rfl : outcome' = outcome :=
    (congrArg Prod.fst (produces.manufacture next)).symm.trans makes
  exact ⟨calls, produces,
    (produces.told quiet).transfer relays.backend relays.made relays.clock⟩

/-- Whoever is in line is not concerned if somebody else gives something up. -/
theorem Crowded.await_letGo {thing : Holding} (crowded : Crowded p s first others)
    (known : s.holdings.find? name = some thing) (apart : thing.isQueued = false) :
    ∀ other ∈ s.pool.waiting, (s.letGo name).Awaits other := by
  intro other here
  have ne : other ≠ name := by
    rintro rfl
    exact not_queued_of_some known apart ⟨_, crowded.await other here⟩
  exact (find?_letGo_of_ne ne).trans (crowded.await other here)

/-- With the slot goes a retirement that is due before. -/
theorem Crowded.relays_discard {thing : Holding} (crowded : Crowded p s first others)
    (known : s.holdings.find? name = some thing) (apart : thing.isQueued = false)
    (moved : s.move (.command command) = ((s.letGo name).discard true c).freeSlot) :
    let u := (s.move (.command command)).move (.work 0)
    Relays s u first others s.pool.idle (c.farewell s.backend) ∧
      (s.move (.command command)).settle = u.settle := by
  intro u
  have line' : (s.letGo name).pool.waiting = first :: others := crowded.line
  have await := crowded.await_letGo known apart
  have first' : (s.letGo name).Awaits first := await first (by simp [crowded.line])
  -- The retirement does not touch what the slot touches.
  have result : u = ((s.letGo name).withSystem (s.toSystem.retire c).2).freeSlot := by
    change (s.move (.command command)).move (.work 0) = _
    rw [moved, freeSlot_eq (t := (s.letGo name).discard true c) line' first',
      freeSlot_eq (t := (s.letGo name).withSystem (s.toSystem.retire c).2) line' first']
    simp [move, doWork, putOff, hold, discard, crowded.done, letGo, perform, withSystem,
      System.retire, System.note]
  have due : (s.move (.command command)).agenda = .retire c :: [.resume first] := by
    rw [moved, freeSlot_eq (t := (s.letGo name).discard true c) line' first']
    simp only [putOff, hold, discard, letGo, crowded.done, if_true, List.nil_append,
      List.cons_append]
  refine ⟨?_, settle_cons due⟩
  have reached : u = s.after [.command command, .work 0] := rfl
  rw [result] at reached ⊢
  exact relays_freeSlot ⟨_, reached⟩ crowded.orderly.distinct crowded.line await rfl crowded.done
    (Backend.retire_eq_told ..) rfl rfl

/-! ### Guards that are given back -/

/-- Later work is attended to where the command is given. -/
def Command.attended : Command → Bool
  | .dropUnattended _ | .abandon _ => false
  | _ => true

/-- A guard is dropped by giving its connection back. -/
theorem move_dropped (dropped : s.guardDropped? (.command command) = some c) :
    ∃ name thing, s.holdings.find? name = some thing ∧ thing.isQueued = false ∧
      s.move (.command command) = (s.letGo name).giveBack command.attended c := by
  rcases guardDropped?_eq_some dropped with ⟨name, same | same, known⟩ |
    ⟨name, wish, same, known⟩ | ⟨name, same, known, ends⟩ | ⟨name, same, known | ⟨wish, known⟩⟩ <;>
    cases same <;>
    refine ⟨name, _, known, rfl, ?_⟩ <;>
    simp [move, obey, Command.newName?, carryOut, withHolding, partWith, giveUp,
      Command.attended, *]

theorem pooled_of_dropped (dropped : s.guardDropped? (.command (.drop name)) = some c) :
    s.holdings.find? name = some (.pooled c) := by
  simp only [guardDropped?] at dropped
  split at dropped
  · next known =>
    cases dropped
    exact known
  · cases dropped

/-- A guard outside of a transaction is back in the queue when its slot is passed on. -/
theorem Crowded.relays_returned (crowded : Crowded p s first others)
    (dropped : s.guardDropped? (.command command) = some c) (free : c.transaction = none) :
    Relays s (s.move (.command command)) first others [c.stamp (some s.clock)] [] := by
  have quiet : c.inTransaction = false := by simp [Connection.inTransaction, free]
  obtain ⟨name, thing, known, apart, moved⟩ := move_dropped dropped
  have isOpen' : (s.letGo name).pool.closed = false := crowded.isOpen
  have given : (s.letGo name).giveBack command.attended c =
      ((s.letGo name).withSystem (s.toSystem.enqueue (c.stamp (some s.clock)))).freeSlot := by
    simp only [giveBack, quiet, isOpen', Bool.false_eq_true, if_false]
    rfl
  have reached : s.move (.command command) = s.after [.command command] := rfl
  rw [moved, given] at reached ⊢
  refine relays_freeSlot ⟨_, reached⟩ crowded.orderly.distinct crowded.line
    (crowded.await_letGo known apart) ?_ crowded.done (Backend.told_nil _).symm rfl rfl
  simp only [withSystem, System.enqueue, System.note, Pool.enqueue, crowded.empty,
    List.nil_append]

/-! ### Connections that leave the pool -/

/-- The command takes a guard's connection out of the pool and frees its slot. Before the slot is
used again the backend is told these calls. -/
inductive Vacates (s : Session) (c : Connection) : Command → List Call → Prop
  /-- It is dropped in a transaction. -/
  | dropped {asked : Command} (dropped : s.guardDropped? (.command asked) = some c)
      (active : c.inTransaction = true) (attended : asked.attended = true) :
    Vacates s c asked (c.farewell s.backend)
  /-- It is dropped in a transaction where no later work is attended to. -/
  | unattended {asked : Command} (dropped : s.guardDropped? (.command asked) = some c)
      (active : c.inTransaction = true) (unattended : asked.attended = false) :
    Vacates s c asked []
  | closed {name : String} (known : s.holdings.find? name = some (.pooled c)) :
    Vacates s c (.closeNow name) (c.farewell s.backend)
  | detached {name bareName : String} (known : s.holdings.find? name = some (.pooled c))
      (free : s.holdings.find? bareName = none) : Vacates s c (.detach name bareName) []

/-- Nothing is opened for a connection that leaves, and nothing is probed. -/
theorem Vacates.quiet (vacates : Vacates s c command before) :
    before.countP Call.isOpened = 0 ∧ before.countP Call.isPinged = 0 := by
  have farewell : (c.farewell s.backend).countP Call.isOpened = 0 ∧
      (c.farewell s.backend).countP Call.isPinged = 0 := by
    rw [Connection.farewell]
    split <;> exact ⟨rfl, rfl⟩
  cases vacates with
  | dropped | closed => exact farewell
  | unattended | detached => exact ⟨rfl, rfl⟩

/-- A connection that leaves the pool leaves its slot to the first in line. -/
theorem Vacates.relays (vacates : Vacates s c command before)
    (crowded : Crowded p s first others) :
    ∃ u, Relays s u first others s.pool.idle before ∧ (s.step command).2 = u.settle := by
  rw [step_eq_obey crowded.done]
  change ∃ u : Session, _ ∧ (s.move (.command command)).settle = u.settle
  have reached : s.move (.command command) = s.after [.command command] := rfl
  have distinct := crowded.orderly.distinct
  cases vacates with
  | dropped dropped active attended =>
    obtain ⟨name, thing, known, apart, moved⟩ := move_dropped dropped
    rw [giveBack, if_pos active, attended] at moved
    obtain ⟨relays, settled⟩ := crowded.relays_discard known apart moved
    exact ⟨_, relays, settled⟩
  | unattended dropped active unattended =>
    obtain ⟨name, thing, known, apart, moved⟩ := move_dropped dropped
    rw [giveBack, if_pos active, unattended] at moved
    refine ⟨_, ?_, rfl⟩
    rw [moved] at reached ⊢
    exact relays_freeSlot (t := (s.letGo name).discard false c) ⟨_, reached⟩ distinct crowded.line
      (crowded.await_letGo known apart) rfl crowded.done (Backend.told_nil _).symm rfl rfl
  | @closed name known =>
    have moved : s.move (.command (.closeNow name)) =
        ((s.letGo name).withSystem (s.toSystem.retire c).2).freeSlot := by
      rw [← closeNow_pooled]
      simp [move, obey, Command.newName?, carryOut, withHolding, known]
    refine ⟨_, ?_, rfl⟩
    rw [moved] at reached ⊢
    exact relays_freeSlot ⟨_, reached⟩ distinct crowded.line (crowded.await_letGo known rfl) rfl
      crowded.done (Backend.retire_eq_told ..) rfl rfl
  | @detached name bareName known free =>
    have moved : s.move (.command (.detach name bareName)) =
        ((s.letGo name).hold bareName (.bare c)).freeSlot := by
      simp [move, obey, Command.newName?, carryOut, withHolding, known, Table.contains, free]
    have await : ∀ other ∈ s.pool.waiting,
        ((s.letGo name).hold bareName (.bare c)).Awaits other := by
      intro other here
      have apart : other ≠ bareName := by
        rintro rfl
        exact absurd ((crowded.await other here).symm.trans free) (by simp)
      exact (find?_hold_of_ne apart).trans (crowded.await_letGo known rfl other here)
    refine ⟨_, ?_, rfl⟩
    rw [moved] at reached ⊢
    exact relays_freeSlot ⟨_, reached⟩ distinct crowded.line await rfl crowded.done
      (Backend.told_nil _).symm rfl rfl

end Session
end Datastore
