import Datastore.Proofs.Checkouts

/-!
# Trying and waiting

A caller can try to get a connection, which never waits, or ask for one and wait. Where a slot is
free both come to the same, whatever comes of the checkout: the same outcome, and the same session
afterwards. Where none is free, trying leaves no trace, and where the pool is closed neither does.
Main statement: `tries_alike`.
-/

namespace Datastore.Session

variable {s : Session} {p : Provider} {name : String} {thing : Holding}

/-- A checkout that is begun and collected, or given up if it does not come to an end. -/
def awaitGet (s : Session) (name : String) : Answer × Session :=
  let begun := (s.step (.waitGet name)).2
  let polled := begun.step (.poll name)
  match polled.1 with
  | .waiting => (.blocked, (polled.2.step (.cancel name)).2)
  | _ => polled

/-- What a caller is told of a checkout at once. -/
def answerTo : Provider.Checkout → Answer
  | .ready c => .connection c.id
  | .failed error => .poolError (.connection error)
  | .stalled _ => .blocked

theorem letGo_of_none (free : s.holdings.find? name = none) : s.letGo name = s := by
  simp only [letGo, Table.erase_of_none free]

theorem hold_hold (s : Session) (name : String) (first second : Holding) :
    (s.hold name first).hold name second = s.hold name second := by
  simp only [hold, Table.insert_insert]

/-- What was held under the name before does not matter. -/
theorem deliver_hold (s : Session) (name : String) (outcome : Provider.Checkout) :
    (s.hold name thing).deliver name outcome = s.deliver name outcome := by
  cases outcome <;> simp only [deliver, hold_hold]

theorem freeSlot_hold (nobody : s.pool.waiting = []) (thing : Holding) :
    (s.hold name thing).freeSlot = s.freeSlot.hold name thing := by
  rw [freeSlot_of_nobody nobody, freeSlot_of_nobody (s := s.hold name thing) nobody]
  rfl

/-- Collecting from a waiter under a name that was free before. -/
theorem step_poll_hold {wish : Wish} (done : s.agenda = []) (free : s.holdings.find? name = none)
    (progress : Progress) : (s.hold name (.waiter wish progress)).step (.poll name) =
      match progress with
      | .finished (.ok (.connection c)) => (.connection c.id, s.hold name (.pooled c))
      | .finished (.ok .slot) => (.slot, s.hold name .slot)
      | .finished (.error error) => (.poolError error, s)
      | .queued | .granted | .probing _ => (.waiting, s.hold name (.waiter wish progress)) := by
  have rested (thing : Holding) : (s.hold name thing).settle = s.hold name thing :=
    settle_of_done done
  rw [step_eq_obey (s := s.hold name _) done, obey_poll (Table.find?_insert_self _ _ _)]
  unfold collect
  split <;> simp only [hold_hold, letGo_hold, letGo_of_none free, rested, settle_of_done done]

/-- Giving up behind a probe under a name that was free before. -/
theorem step_cancel_hold {wish : Wish} {c : Connection} (done : s.agenda = [])
    (free : s.holdings.find? name = none) :
    ((s.hold name (.waiter wish (.probing c))).step (.cancel name)).2 =
      ((s.discard true c).freeSlot).settle := by
  rw [step_eq_obey (s := s.hold name _) done, obey_cancel (Table.find?_insert_self _ _ _)]
  simp only [giveUp, letGo_hold, letGo_of_none free]

/-! ### A slot is free -/

/-- A caller may ask for a connection, and there is a slot for it. -/
structure Vacant (p : Provider) (s : Session) (name : String) : Prop where
  orderly : Orderly s
  served : s.provider = some p
  isOpen : s.pool.closed = false
  vacant : s.pool.free ≠ 0
  free : s.holdings.find? name = none
  done : s.agenda = []

/-- The session after a checkout with a slot, before anybody learns what came of it. -/
def checkedOut (s : Session) (p : Provider) : Session :=
  s.withSystem (p.checkout s.takeSlot.toSystem).2

theorem Vacant.nobody_after (vacant : Vacant p s name) : (s.checkedOut p).pool.waiting = [] := by
  rw [checkedOut, withSystem, Provider.checkout_pool]
  exact vacant.orderly.nobody_waits vacant.vacant

theorem Vacant.tryGet (vacant : Vacant p s name) : s.step (.tryGet name) =
    match (p.checkout s.toSystem).1 with
    | .ready c => (.connection c.id, (s.checkedOut p).hold name (.pooled c))
    | .failed error => (.poolError (.connection error), (s.checkedOut p).freeSlot)
    | .stalled c => (.blocked, (((s.checkedOut p).discard true c).freeSlot).settle) := by
  have done : (s.checkedOut p).agenda = [] := vacant.done
  rw [step_eq_obey vacant.done, obey_tryGet vacant.served vacant.free,
    checkOut_eq (vacant.orderly.unbarred vacant.isOpen) vacant.vacant, checkout_takeSlot]
  cases (p.checkout s.toSystem).1 with
  | ready c => exact congrArg (Prod.mk _) (settle_of_done done)
  | failed error =>
    refine congrArg (Prod.mk _) (settle_of_done ?_)
    change (s.checkedOut p).freeSlot.agenda = []
    rw [freeSlot_of_nobody vacant.nobody_after]
    exact done
  | stalled c => rfl

/-- Whoever waits learns at once what came of its checkout. -/
theorem Vacant.waitGet (vacant : Vacant p s name) : (s.step (.waitGet name)).2 =
    (s.checkedOut p).deliver name (p.checkout s.toSystem).1 := by
  have done : (s.checkedOut p).agenda = [] := vacant.done
  let begun := (s.takeSlot.hold name (.waiter .connection .granted)).putOff (.resume name)
  have due : begun.agenda = [.resume name] := by
    simp only [begun, putOff, hold, takeSlot, vacant.done, List.nil_append]
  have went : begun.move (.work 0) =
      (s.checkedOut p).deliver name (p.checkout s.toSystem).1 := by
    have due' : begun.agenda[0]? = some (.resume name) := by rw [due]; rfl
    have first := doWork_eq_deliver (s := begun) vacant.served
      (vacant.orderly.unbarred vacant.isOpen) due' (Table.find?_insert_self _ _ _)
    have same : { begun with agenda := begun.agenda.eraseIdx 0 }.withSystem
        (p.checkout begun.toSystem).2 =
          (s.checkedOut p).hold name (.waiter .connection .granted) := by
      rw [due, List.eraseIdx_cons_zero, ← vacant.done]
      rfl
    rw [same, deliver_hold] at first
    exact first.trans (congrArg _ (checkout_takeSlot p s))
  have rested : ((s.checkedOut p).deliver name (p.checkout s.toSystem).1).agenda = [] := by
    cases (p.checkout s.toSystem).1 with
    | ready c | stalled c => exact done
    | failed error =>
      rw [deliver, freeSlot_of_nobody (s := (s.checkedOut p).hold name _) vacant.nobody_after]
      exact done
  rw [step_eq_obey vacant.done,
    obey_waitGet vacant.orderly vacant.served vacant.isOpen vacant.vacant vacant.free]
  exact (settle_cons due).trans ((congrArg settle went).trans (settle_of_done rested))

theorem Vacant.awaitGet (vacant : Vacant p s name) :
    s.awaitGet name = s.step (.tryGet name) := by
  have done : (s.checkedOut p).agenda = [] := vacant.done
  have free : (s.checkedOut p).holdings.find? name = none := vacant.free
  rw [Session.awaitGet, vacant.tryGet, vacant.waitGet]
  cases (p.checkout s.toSystem).1 with
  | ready c => simp only [deliver, step_poll_hold done free]
  | failed error =>
    have freed := freeSlot_of_nobody vacant.nobody_after
    have done' : (s.checkedOut p).freeSlot.agenda = [] := by rw [freed, done]
    have free' : (s.checkedOut p).freeSlot.holdings.find? name = none := by rw [freed, free]
    simp only [deliver, freeSlot_hold vacant.nobody_after, step_poll_hold done' free']
  | stalled c => simp only [deliver, step_poll_hold done free, step_cancel_hold done free]

/-! ### No slot is free -/

theorem checkOut_of_barred (barred : s.pool.barred = true) (noSlot : Answer) :
    s.checkOut p name noSlot = (.poolError .closed, s) := by
  rw [checkOut, if_pos barred]

theorem checkOut_of_busy (unbarred : s.pool.barred = false) (busy : s.pool.free = 0)
    (noSlot : Answer) : s.checkOut p name noSlot = (noSlot, s) := by
  simp [checkOut, unbarred, busy]

/-- Who asks to wait takes a free slot or gets in line, or learns that the pool is closed. -/
theorem step_waitGet (served : s.provider = some p) (free : s.holdings.find? name = none)
    (done : s.agenda = []) :
    s.step (.waitGet name) = (.waiting, (s.lineUp .connection name).settle) := by
  rw [step_eq_obey done]
  simp [obey, Command.newName?, Table.contains, free, carryOut, withProvider, served]

theorem awaitGet_of_closed (shut : s.pool.closed = true) (served : s.provider = some p)
    (free : s.holdings.find? name = none) (done : s.agenda = []) :
    s.awaitGet name = (.poolError .closed, s) := by
  have told : s.lineUp .connection name =
      s.hold name (.waiter .connection (.finished (.error .closed))) := by
    simp only [lineUp, shut, Bool.true_or, if_true]
  have rested : (s.lineUp .connection name).settle = s.lineUp .connection name :=
    settle_of_done (told ▸ done)
  rw [awaitGet, step_waitGet served free done, rested, told]
  simp only [step_poll_hold done free]

/-- Trying to get a connection compared with waiting for one. -/
structure TriesAlike (p : Provider) (s : Session) (name : String) : Prop where
  /-- With a slot, both make the same checkout and come to the same. -/
  vacant : s.pool.closed = false → s.pool.free ≠ 0 →
    s.awaitGet name = s.step (.tryGet name) ∧ s.step (.get name) = s.step (.tryGet name) ∧
      (s.step (.tryGet name)).1 = answerTo (p.checkout s.toSystem).1 ∧
      (s.step (.waitGet name)).2.holdings.find? name =
        some (.waiter .connection (progress (p.checkout s.toSystem).1))
  /-- Without a slot, trying changes nothing, and whoever waits is the last in line. -/
  busy : s.pool.closed = false → s.pool.free = 0 →
    s.step (.tryGet name) = (.nothing, s) ∧ s.step (.get name) = (.blocked, s) ∧
      let t := { s with pool := { s.pool with waiting := s.pool.waiting ++ [name] } }.hold name
        (.waiter .connection .queued)
      s.step (.waitGet name) = (.waiting, t) ∧ t.step (.poll name) = (.waiting, t)
  closed : s.pool.closed = true → ∀ told ∈ [s.step (.tryGet name), s.step (.get name),
    s.awaitGet name], told = (.poolError .closed, s)

/-- In every state that a run reaches with all work done, to try comes to the same as to wait. -/
theorem tries_alike (backend : Backend) (capacity : Nat) (p : Provider) (moves : List Move) :
    let s := (start backend (Pool.ofCapacity capacity) (some p)).after moves
    s.agenda = [] → ∀ name, s.holdings.find? name = none → TriesAlike p s name := by
  intro s done name free
  have ordered := orderly_start backend capacity (some p)
  have orderly : Orderly s := orderly_after ordered moves
  have served : s.provider = some p := provider_after ordered moves
  refine ⟨?_, ?_, ?_⟩
  · intro isOpen vacant
    have ready : Vacant p s name := ⟨orderly, served, isOpen, vacant, free, done⟩
    have unbarred := orderly.unbarred isOpen
    refine ⟨ready.awaitGet, ?_, ?_, ?_⟩
    · rw [step_eq_obey done, step_eq_obey done, obey_get orderly served free,
        obey_tryGet served free, checkOut_eq unbarred vacant, checkOut_eq unbarred vacant]
    · rw [ready.tryGet]
      cases (p.checkout s.toSystem).1 <;> rfl
    · rw [ready.waitGet]
      exact find?_deliver (by simp [ready.nobody_after]) _
  · intro isOpen busy
    have unbarred := orderly.unbarred isOpen
    refine ⟨?_, ?_, ?_⟩
    · rw [step_eq_obey done, obey_tryGet served free, checkOut_of_busy unbarred busy,
        settle_of_done done]
    · rw [step_eq_obey done, obey_get orderly served free, checkOut_of_busy unbarred busy,
        settle_of_done done]
    · intro t
      have done' : t.agenda = [] := done
      have joins : s.lineUp .connection name = t := by simp [lineUp, isOpen, unbarred, busy, t]
      refine ⟨?_, ?_⟩
      · rw [step_waitGet served free done, joins, settle_of_done done']
      · rw [step_eq_obey done', obey_poll (Table.find?_insert_self _ _ _)]
        exact congrArg (Prod.mk _) (settle_of_done done')
  · intro shut told here
    have barred := orderly.barred.trans shut
    simp only [List.mem_cons, List.not_mem_nil, or_false] at here
    rcases here with rfl | rfl | rfl
    · rw [step_eq_obey done, obey_tryGet served free, checkOut_of_barred barred,
        settle_of_done done]
    · rw [step_eq_obey done, obey_get orderly served free, checkOut_of_barred barred,
        settle_of_done done]
    · exact awaitGet_of_closed shut served free done

theorem tries_alike_stalled :
    let p : Provider := ⟨.ofEndpoint "mock" "db", .single "mock" (), .empty, .none⟩
    let moves : List Move := [.command (.get "a"), .command (.release "a"),
      .command (.advance (Duration.ofParts 61 0)), .command (.setFault .stalls true)]
    let s := (start .fresh (.ofCapacity 1) (some p)).after moves
    s.agenda = [] ∧ s.holdings.find? "b" = none ∧ TriesAlike p s "b" ∧
      s.awaitGet "b" = s.step (.tryGet "b") ∧ (s.step (.tryGet "b")).2.pool.idle = [] := by
  intro p moves s
  have done : s.agenda = [] := by decide +kernel
  have free : s.holdings.find? "b" = none := by decide +kernel
  have law : TriesAlike p s "b" := tries_alike .fresh 1 p moves done "b" free
  have isOpen : s.pool.closed = false := by decide +kernel
  have vacant : s.pool.free ≠ 0 := by decide +kernel
  exact ⟨done, free, law, (law.vacant isOpen vacant).1, by decide +kernel⟩

end Datastore.Session
