import Datastore.Proofs.Checkouts
import Datastore.Proofs.Isolation
import Datastore.Proofs.Session.Absence
import Datastore.Proofs.Session.Retiring

/-!
# Giving up

A checkout can be given up wherever it waits, and leaves nothing behind. In line, it might as well
never have begun. Behind a probe that does not end, it takes with it the one connection that it had
taken, whose handle is not tuned, and its slot is passed on. With a connection, it gives that back.
What is discarded is closed once if later work is attended to, and left open otherwise. Main
statement: `abandonment_clean`.
-/

namespace Datastore

/-- Only a handle that is open keeps a probe waiting. -/
theorem Backend.isClosed_of_stalled {b : Backend} {handle : Nat}
    (stalls : (b.ping handle).1 = .stalled) : b.isClosed handle = false := by
  by_contra closed
  rw [Bool.not_eq_false] at closed
  simp [ping, closed] at stalls

theorem Backend.adjustments_pinged (b : Backend) (handle other : Nat) :
    (b.told [.pinged handle]).adjustments other = b.adjustments other := by
  simp [adjustments, told, Call.adjusts]

/-- A checkout that does not end has taken the front, whose handle is open, and only probed it. -/
theorem Provider.serves_stalled {p : Provider} {s : System} {c : Connection} (sane : Sane s)
    (ends : (p.checkout s).1 = .stalled c) : (∃ others, s.pool.idle = c :: others) ∧
      s.backend.isClosed c.handle = false ∧ p.Serves s (.stalled c) [.pinged c.handle] := by
  obtain ⟨outcome, calls, serves⟩ := p.exists_serves s
  have same : outcome = .stalled c := (serves.checkout sane).1.symm.trans ends
  cases serves with
  | stalled c' others front stale hangs =>
    cases same
    exact ⟨⟨others, front⟩, Backend.isClosed_of_stalled hangs, .stalled c others front stale hangs⟩
  | @new outcome | @replaced _ _ _ _ _ _ outcome => cases outcome <;> cases same
  | recent | alive => cases same

namespace Session

variable {s t : Session} {name : String} {thing : Holding} {wish : Wish} {c : Connection}

/-! ### What is left in circulation -/

theorem weigh_circulating (s : Session) (ν : Connection → Nat) :
    weigh ν s.circulating = weigh ν s.pool.idle + s.holdings.total (Holding.cargo ν) := by
  have split : s.holdings.total (Holding.cargo ν) =
      weigh ν (s.held Holding.guarded) + weigh ν (s.held Holding.probed) +
        weigh ν (s.held Holding.bared) := by
    simp only [weigh_held, ← Table.total_add]
    exact congrArg s.holdings.total (funext (Holding.cargo_eq ν))
  simp only [circulating, weigh_append, split]
  omega

theorem idle_freeSlot (s : Session) : s.freeSlot.pool.idle = s.pool.idle := by
  have same := congrArg (fun x : System => x.pool.idle) (core_freeSlot s)
  exact same

theorem weigh_circulating_freeSlot (orderly : Orderly s) (ν : Connection → Nat) :
    weigh ν s.freeSlot.circulating = weigh ν s.circulating := by
  have freed : Shuffle s ⟨s, 1, 0, [], [], []⟩ ⟨s.freeSlot, 0, 0, [], [], []⟩ := .freed
  have balance := freed.balance (agrees_cargo (ν := ν)) orderly
  rw [weigh_circulating, weigh_circulating, idle_freeSlot]
  simp only at balance
  omega

/-- A thing is given up with its slot. -/
theorem orderly_parting (orderly : Orderly s) (known : s.holdings.find? name = some thing)
    (apart : thing.isQueued = false) (pool : t.pool = s.pool)
    (holdings : t.holdings = s.holdings.erase name) : Orderly t :=
  orderly.of_holdings (Or.inl (by rw [pool])) (by rw [pool]) (by rw [pool]) (by rw [pool])
    (queued_iff_of_change (not_queued_of_some known apart) (fun _ h => by cases h)
      fun other => holdings ▸ Table.find?_erase _ _ other)

/-! ### Connections that are given up -/

/-- The connection leaves the session, and nothing else does. -/
structure Removes (s t : Session) (c : Connection) : Prop where
  others : s.circulating.Perm (c :: t.circulating)
  never : ∀ more, c.id ∉ (t.after more).circulating.map Connection.id

theorem removes_of_departed (orderly : Orderly t) (sound : Sound (rest t))
    (departed : Departed c (rest t)) (others : s.circulating.Perm (c :: t.circulating)) :
    Removes s t c where
  others := others
  never more := (sound.after orderly more).departed (departed.after orderly more)

/-- The connection leaves. Its handle, which was open, is closed once, and what was set on it before
stays all that was set on it. -/
structure Discards (s t : Session) (c : Connection) (calls : List Call) : Prop
    extends Removes s t c where
  isOpen : .closed c.handle ∉ calls
  closing : ∀ more,
    (t.after more).settle.backend.adjustments c.handle = calls ++ partingCalls c.handle
  once : ∀ more, (t.after more).settle.backend.closedHandles.count c.handle = 1

theorem discards_of_due {calls : List Call} (orderly : Orderly t) (sound : Sound (rest t))
    (due : c ∈ t.doomed) (told : t.backend.adjustments c.handle = calls)
    (isOpen : .closed c.handle ∉ calls) (others : s.circulating.Perm (c :: t.circulating)) :
    Discards s t c calls where
  toRemoves := removes_of_departed orderly sound (Or.inl due) others
  isOpen := isOpen
  closing := (Retiring.due due told).settled orderly sound isOpen
  once := Condemned.closed_once orderly sound (Or.inl due)

/-- The connection leaves. Its handle, which was open, stays open for ever, and nothing is set on it
any more. -/
structure Forsakes (s t : Session) (c : Connection) (calls : List Call) : Prop
    extends Removes s t c where
  isOpen : .closed c.handle ∉ calls
  untouched : ∀ more, (t.after more).backend.adjustments c.handle = calls
  unclosed : ∀ more, (t.after more).backend.closedHandles.count c.handle = 0

theorem forsakes_of_gone {calls : List Call} (orderly : Orderly t) (sound : Sound (rest t))
    (gone : c ∈ t.history Movement.gone?) (told : t.backend.adjustments c.handle = calls)
    (isOpen : .closed c.handle ∉ calls) (others : s.circulating.Perm (c :: t.circulating)) :
    Forsakes s t c calls := by
  have untouched (more : List Move) : (t.after more).backend.adjustments c.handle = calls :=
    (adjustments_gone_after orderly sound gone more).trans told
  refine ⟨removes_of_departed orderly sound (Or.inr gone) others, isOpen, untouched, ?_⟩
  intro more
  rwa [List.count_eq_zero, ← Backend.isClosed_iff, Backend.isClosed_iff_adjustments, untouched more]

/-! ### Behind a probe -/

/-- Behind the probe of this connection. -/
def Probing (name : String) (c : Connection) (s : Session) : Prop :=
  s.holdings.find? name = some (.waiter .connection (.probing c))

/-- Whoever is behind a probe made a checkout that took the connection, and is there since. -/
theorem probing_since (orderly : Orderly s) {moves : List Move}
    (fresh : s.holdings.find? name = none)
    (known : (s.after moves).holdings.find? name = some (.waiter wish (.probing c))) :
    ∃ early place later p, moves = early ++ .work place :: later ∧
      (s.after early).holdings.find? name = some (.waiter .connection .granted) ∧
      (s.after early).agenda[place]? = some (.resume name) ∧
      (s.after early).goingOn name = .checkout p ∧
      (p.checkout (s.after early).toSystem).1 = .stalled c ∧
      Throughout (Probing name c) ((s.after early).move (.work place)) later := by
  obtain ⟨early, m, later, same, before, always⟩ :=
    last_since (P := fun s => s.holdings.find? name = some (.waiter wish (.probing c)))
      (by simp [fresh]) known
  have fate := becomes (orderly_after orderly early) name m
  rw [always.now] at fate
  generalize told : some (Holding.waiter wish (.probing c)) = now at fate
  cases fate with
  | lapsed lapses =>
    generalize was : (s.after early).holdings.find? name = past at lapses
    cases lapses with
    | kept => exact absurd (was.trans told.symm) before
    | given | refused => cases told
  | begun wish' progress free first => rcases first with rfl | rfl | rfl <;> cases told
  | @served place p granted due goes =>
    cases ends : (p.checkout (s.after early).toSystem).1 with
    | stalled c' =>
      rw [ends] at told
      cases told
      exact ⟨early, place, later, p, same, granted, due, goes, ends, always⟩
    | ready c' | failed error =>
      rw [ends] at told
      cases told
  | _ => cases told

/-- Meanwhile nobody sets anything on the handle. -/
theorem adjustments_throughout (orderly : Orderly s) (sound : Sound (rest s)) {moves : List Move}
    (always : Throughout (Probing name c) s moves) :
    (s.after moves).backend.adjustments c.handle = s.backend.adjustments c.handle := by
  induction moves generalizing s with
  | nil => rfl
  | cons m rest ih =>
    have later := ih (orderly_move orderly m) (sound.move orderly m) always.2
    exact later.trans (adjustments_probing sound always.1 m)

theorem of_goingOn {p : Provider} (orderly : Orderly s) (goes : s.goingOn name = .checkout p) :
    s.provider = some p ∧ s.pool.closed = false := by
  rw [goingOn] at goes
  split at goes
  · next served =>
    split at goes
    · cases goes
    · next unbarred =>
      cases goes
      exact ⟨served, orderly.barred.symm.trans (by simpa using unbarred)⟩
  · cases goes

/-- Whoever is behind a probe took the front of the queue when it had a slot. All that the backend
was told of the connection since is the probe. -/
theorem probing_traced {moves : List Move} (orderly : Orderly s) (sound : Sound (rest s))
    (grounded : Grounded (rest s)) (fresh : s.holdings.find? name = none)
    (known : (s.after moves).holdings.find? name = some (.waiter wish (.probing c))) :
    ∃ early place later, moves = early ++ .work place :: later ∧
      let u := s.after early
      let v := u.move (.work place)
      u.Granted name ∧ u.pool.idle = c :: v.pool.idle ∧
        v.backend = u.backend.told [.pinged c.handle] ∧
        .closed c.handle ∉ u.backend.adjustments c.handle ∧
        (s.after moves).backend.adjustments c.handle = u.backend.adjustments c.handle := by
  obtain ⟨early, place, later, p, same, granted, due, goes, ends, always⟩ :=
    probing_since orderly fresh known
  have orderly' := orderly_after orderly early
  have sound' := sound.after orderly early
  have sane := sound'.sane (grounded.after orderly sound early)
  obtain ⟨⟨others, front⟩, alive, serves⟩ := Provider.serves_stalled sane ends
  obtain ⟨served, isOpen⟩ := of_goingOn orderly' goes
  obtain ⟨told, -, pool⟩ := doWork_of_serves orderly' sane served isOpen due granted serves
  have told' : ((s.after early).move (.work place)).backend = _ := told
  have later' := adjustments_throughout (orderly_move orderly' (.work place))
    (sound'.move orderly' (.work place)) always
  refine ⟨early, place, later, same, ⟨.connection, granted⟩, ?_, told, ?_, ?_⟩
  · have idle : ((s.after early).move (.work place)).pool.idle = others := by
      change ((s.after early).doWork place).pool.idle = others
      rw [pool, front, List.tail_cons]
    rw [idle, front]
  · rwa [← Backend.isClosed_iff_adjustments, Bool.not_eq_true]
  · rw [same, after_append, after_cons]
    exact later'.trans (by rw [told', Backend.adjustments_pinged])

/-- Whoever gives up behind a probe takes the connection along. -/
theorem circulating_probing (orderly : Orderly s)
    (known : s.holdings.find? name = some (.waiter wish (.probing c))) (attended : Bool) :
    s.circulating.Perm (c :: ((s.letGo name).discard attended c).freeSlot.circulating) := by
  have parted : Orderly ((s.letGo name).discard attended c) := by
    cases attended <;> exact orderly_parting orderly known rfl rfl rfl
  apply perm_of_weigh
  intro ν
  have left := Table.total_erase (Holding.cargo ν) known
  have cargo : Holding.cargo ν (.waiter wish (.probing c)) = ν c := by
    simp [Holding.cargo, Holding.quiet, Holding.loose]
  have circulating : weigh ν ((s.letGo name).discard attended c).circulating =
      weigh ν s.pool.idle + (s.holdings.erase name).total (Holding.cargo ν) := by
    cases attended <;> exact weigh_circulating _ ν
  rw [weigh_cons, weigh_circulating_freeSlot parted, circulating, weigh_circulating]
  omega

theorem discards_probing (orderly : Orderly s) (sound : Sound (rest s))
    (known : s.holdings.find? name = some (.waiter wish (.probing c)))
    (isOpen : .closed c.handle ∉ s.backend.adjustments c.handle) :
    Discards s (s.move (.command (.cancel name))) c (s.backend.adjustments c.handle) := by
  have orderly' := orderly_move orderly (.command (.cancel name))
  have sound' := sound.move orderly (.command (.cancel name))
  have moved : s.move (.command (.cancel name)) = ((s.letGo name).discard true c).freeSlot :=
    move_givingUp_probing true known
  rw [moved] at orderly' sound' ⊢
  refine discards_of_due orderly' sound' (mem_doomed_discard _ c) ?_ isOpen
    (circulating_probing orderly known true)
  rw [backend_discard]
  rfl

theorem forsakes_probing (orderly : Orderly s) (sound : Sound (rest s))
    (known : s.holdings.find? name = some (.waiter wish (.probing c)))
    (isOpen : .closed c.handle ∉ s.backend.adjustments c.handle) :
    Forsakes s (s.move (.command (.abandon name))) c (s.backend.adjustments c.handle) := by
  have orderly' := orderly_move orderly (.command (.abandon name))
  have sound' := sound.move orderly (.command (.abandon name))
  have moved : s.move (.command (.abandon name)) = ((s.letGo name).discard false c).freeSlot :=
    move_givingUp_probing false known
  rw [moved] at orderly' sound' ⊢
  refine forsakes_of_gone orderly' sound' (mem_gone_discard _ c) ?_ isOpen
    (circulating_probing orderly known false)
  rw [backend_discard]
  rfl

/-- A checkout at once that does not end is given up on the spot, with the connection. -/
theorem discards_atOnce {p : Provider} (orderly : Orderly s) (sound : Sound (rest s))
    (sane : Provider.Sane s.toSystem) (served : s.provider = some p)
    (isOpen : s.pool.closed = false) (vacant : s.pool.free ≠ 0) {command : Command}
    (asks : command = .get name ∨ command = .tryGet name) (free : s.holdings.find? name = none)
    (ends : (p.checkout s.toSystem).1 = .stalled c) :
    (s.obey command).1 = .blocked ∧
      (s.move (.command command)).backend = s.backend.told [.pinged c.handle] ∧
      (s.move (.command command)).holdings = s.holdings ∧
      s.pool = { (s.move (.command command)).pool with
        idle := c :: (s.move (.command command)).pool.idle } ∧
      Discards s (s.move (.command command)) c (s.backend.adjustments c.handle) := by
  have orderly' := orderly_move orderly (.command command)
  have sound' := sound.move orderly (.command command)
  obtain ⟨⟨others, front⟩, alive, serves⟩ := Provider.serves_stalled sane ends
  obtain ⟨noSlot, -, same⟩ := obey_asking orderly served asks free
  obtain ⟨told, answer, holdings, pool, agenda⟩ :=
    checkOut_of_serves orderly sane isOpen vacant name noSlot serves
  rw [← same] at told answer holdings pool agenda
  change (s.move (.command command)).backend = _ at told
  change (s.move (.command command)).holdings = _ at holdings
  change (s.move (.command command)).pool = _ at pool
  change (s.move (.command command)).agenda = _ at agenda
  refine ⟨answer, told, holdings, ?_, discards_of_due orderly' sound' ?_ ?_ ?_ ?_⟩
  · rw [pool]
    simp only [front, List.tail_cons]
    rw [← front]
  · simp [doomed, agenda, Task.doomed?]
  · rw [told, Backend.adjustments_pinged]
  · rwa [← Backend.isClosed_iff_adjustments, Bool.not_eq_true]
  · simp only [circulating, held, holdings, pool, front, List.tail_cons, List.cons_append]
    exact List.Perm.refl _

/-! ### With what was waited for -/

/-- The command that drops what was collected, by whether later work is attended to. -/
def dropping (name : String) : Bool → Command
  | true => .drop name
  | false => .abandon name

/-- To give a waiter up that got something is to collect that and drop it. -/
theorem givingUp_finished {gain : Gain} (attended : Bool)
    (known : s.holdings.find? name = some (.waiter wish (.finished (.ok gain)))) :
    s.move (.command (givingUp name attended)) =
      (s.move (.command (.poll name))).move (.command (dropping name attended)) := by
  have polled : s.move (.command (.poll name)) =
      (s.collect name (.finished (.ok gain))).2 := by
    rw [move, obey_poll known]
  rw [polled, move, obey_givingUp attended known]
  cases attended <;> cases gain <;>
    simp [collect, giveUp, partWith, dropping, move, obey, Command.newName?, carryOut, withHolding,
      hold, letGo, Table.erase_insert_self]

theorem act_givingUp (attended : Bool) (known : s.holdings.find? name =
    some (.waiter wish (.finished (.ok (.connection c))))) :
    s.act (.command (givingUp name attended)) = s.givingBack attended c := by
  cases attended <;> simp [givingUp, act, Command.newName?, commandAct, parting, known]

/-- Giving a connection back tells the driver nothing. -/
theorem backend_givingBack (s : Session) (attended : Bool) (c : Connection) :
    (s.toSystem.enact (s.givingBack attended c)).backend = s.backend := by
  rw [givingBack]
  split
  · cases attended <;> rfl
  · split
    · cases attended <;> rfl
    · rfl

/-- Nothing comes to rest in a closed pool. -/
theorem idle_givingBack (shut : s.pool.closed = true) (attended : Bool) (c : Connection) :
    (s.toSystem.enact (s.givingBack attended c)).pool.idle = s.pool.idle := by
  rw [givingBack, if_pos shut]
  split <;> cases attended <;> rfl

/-- What giving up does in a state that a run has reached, wherever a waiter has come to, by whether
later work is attended to. -/
structure GivesUp (began : Session) (moves : List Move) (s : Session) : Prop where
  queued : ∀ attended name, s.Queued name →
    (s.obey (givingUp name attended)).1 = .cancelled false ∧
      NeverBegun began moves name (s.move (.command (givingUp name attended)))
  /-- Given a slot, but not yet gone on. -/
  granted : ∀ attended name, s.Granted name →
    let t := s.move (.command (givingUp name attended))
    (s.obey (givingUp name attended)).1 = .cancelled false ∧ PassesSlot s t ∧ t.core = s.core
  /-- The connection was taken from the front of the queue, and only probed since. Where no later
  work is attended to, the session takes note that it was dropped, and does nothing else. -/
  stalled : ∀ attended name wish c, s.holdings.find? name = some (.waiter wish (.probing c)) →
    let t := s.move (.command (givingUp name attended))
    (s.obey (givingUp name attended)).1 = .cancelled false ∧ PassesSlot s t ∧
      t.core = { s.core with journal := t.journal } ∧ (attended = true → t.core = s.core) ∧
      ∃ early place later, moves = early ++ .work place :: later ∧
        let u := began.after early
        let v := u.move (.work place)
        u.Granted name ∧ u.pool.idle = c :: v.pool.idle ∧
          v.backend = u.backend.told [.pinged c.handle] ∧
          (attended = true → Discards s t c (u.backend.adjustments c.handle)) ∧
          (attended = false → Forsakes s t c (u.backend.adjustments c.handle))
  /-- Whoever asks at once gives up at once. -/
  atOnce : ∀ p, s.provider = some p → s.pool.closed = false → s.pool.free ≠ 0 → ∀ name command,
    command = .get name ∨ command = .tryGet name → s.holdings.find? name = none →
    ∀ c, (p.checkout s.toSystem).1 = .stalled c →
      let t := s.move (.command command)
      (s.obey command).1 = .blocked ∧ t.backend = s.backend.told [.pinged c.handle] ∧
        t.holdings = s.holdings ∧ s.pool = { t.pool with idle := c :: t.pool.idle } ∧
        Discards s t c (s.backend.adjustments c.handle)
  finished : ∀ attended name wish gain,
    s.holdings.find? name = some (.waiter wish (.finished (.ok gain))) →
    (s.obey (givingUp name attended)).1 = .cancelled true ∧
      s.move (.command (givingUp name attended)) =
        (s.move (.command (.poll name))).move (.command (dropping name attended))
  /-- Where no later work is attended to, nothing is done any more to the handle of a connection
  that comes back to a closed pool. -/
  returned : ∀ attended name wish c,
    s.holdings.find? name = some (.waiter wish (.finished (.ok (.connection c)))) →
    let t := s.move (.command (givingUp name attended))
    t.backend = s.backend ∧
      (s.pool.closed = false → c.transaction = none →
        t.pool.idle = s.pool.idle ++ [c.stamp (some s.clock)]) ∧
      (s.pool.closed = true → t.pool.idle = s.pool.idle ∧
        (attended = true →
          ∀ more, (t.after more).settle.backend.closedHandles.count c.handle = 1) ∧
        (attended = false → ∀ more,
          (t.after more).backend.adjustments c.handle = s.backend.adjustments c.handle))

/-- In every state of every run, whoever waits can be given up cleanly. -/
theorem abandonment_clean {backend : Backend} (fresh : backend.log = []) (capacity : Nat)
    (provider : Option Provider) (moves : List Move) :
    let began := start backend (Pool.ofCapacity capacity) provider
    GivesUp began moves (began.after moves) := by
  intro began
  have ordered : Orderly began := orderly_start backend capacity provider
  have sounded : Sound (rest began) := sound_start fresh capacity provider
  have grounded : Grounded (rest began) := grounded_start fresh _ provider
  have orderly := orderly_after ordered moves
  have sound := sounded.after ordered moves
  have nobody (name : String) : began.holdings.find? name = none := rfl
  refine ⟨?_, ?_, ?_, ?_, ?_, ?_⟩
  · rintro attended name ⟨wish, known⟩
    rw [move, obey_givingUp attended known]
    exact ⟨rfl, never_begun ordered (nobody name) ⟨wish, known⟩⟩
  · rintro attended name ⟨wish, known⟩ t
    have moved : t = ((began.after moves).letGo name).freeSlot := by
      change ((began.after moves).obey (givingUp name attended)).2 = _
      rw [obey_givingUp attended known]
      rfl
    rw [moved, obey_givingUp attended known]
    exact ⟨rfl, passesSlot_freeSlot orderly known rfl rfl rfl, core_freeSlot _⟩
  · intro attended name wish c known t
    have moved : t = (((began.after moves).letGo name).discard attended c).freeSlot :=
      move_givingUp_probing attended known
    have parted := core_freeSlot (((began.after moves).letGo name).discard attended c)
    rw [← moved] at parted
    refine ⟨congrArg Prod.fst (obey_givingUp_probing attended known), ?_, ?_, ?_, ?_⟩
    · rw [moved]
      exact passesSlot_discard orderly known rfl attended c
    · have noted := congrArg System.journal parted
      change t.journal = _ at noted
      rw [parted, noted]
      cases attended <;> rfl
    · rintro rfl
      exact parted
    obtain ⟨early, place, later, same, granted, front, told, clear, unset⟩ :=
      probing_traced ordered sounded grounded (nobody name) known
    refine ⟨early, place, later, same, granted, front, told, ?_, ?_⟩
    · rintro rfl
      rw [← unset] at clear ⊢
      exact discards_probing orderly sound known clear
    · rintro rfl
      rw [← unset] at clear ⊢
      exact forsakes_probing orderly sound known clear
  · intro p served isOpen vacant name command asks free c ends t
    have sane := sound.sane (grounded.after ordered sounded moves)
    exact discards_atOnce orderly sound sane served isOpen vacant asks free ends
  · intro attended name wish gain known
    refine ⟨?_, givingUp_finished attended known⟩
    rw [obey_givingUp attended known]
    cases gain <;> rfl
  · intro attended name wish c known t
    have told : t.backend = (began.after moves).backend := by
      have acted := (began.after moves).backend_move (.command (givingUp name attended))
      rw [act_givingUp attended known] at acted
      exact acted.trans (backend_givingBack _ attended c)
    have idle := (began.after moves).idle_move (.command (givingUp name attended))
    rw [act_givingUp attended known] at idle
    have lets : LetsGo (began.after moves) attended (givingUp name attended) c :=
      ⟨name, Or.inr ⟨rfl, wish, Or.inl known⟩⟩
    have orderly' := orderly_move orderly (.command (givingUp name attended))
    have sound' := sound.move orderly (.command (givingUp name attended))
    refine ⟨told, ?_, fun shut => ⟨?_, ?_, ?_⟩⟩
    · intro isOpen free
      have rests : c.inTransaction = false := by simp [Connection.inTransaction, free]
      simp only [givingBack, rests, isOpen, Bool.false_eq_true, if_false] at idle
      exact idle
    · exact idle.trans (idle_givingBack shut attended c)
    · rintro rfl more
      obtain ⟨c', same, condemned⟩ := lets.condemned shut
      rw [← same]
      exact condemned.closed_once orderly' sound' more
    · rintro rfl more
      obtain ⟨c', gone, same⟩ := List.mem_map.mp (lets.gone shut)
      rw [← same, ← told]
      exact adjustments_gone_after orderly' sound' gone more

theorem abandonment_clean_stalled :
    let p : Provider := ⟨.ofEndpoint "mock" "db", .single "mock" (), .empty, .none⟩
    let moves : List Move := [.command (.get "a"), .command (.release "a"),
      .command (.advance (Duration.ofParts 61 0)), .command (.setFault .stalls true),
      .command (.waitGet "b"), .command (.waitGet "c"), .work 0]
    let began := start .fresh (.ofCapacity 1) (some p)
    let s := began.after moves
    Backend.fresh.log = [] ∧ GivesUp began moves s ∧
      NeverBegun began moves "c" (s.move (.command (.cancel "c"))) ∧
      (s.move (.command (.cancel "b"))).Granted "c" ∧
      ((s.move (.command (.cancel "b"))).after []).settle.backend.closedHandles.count 1 = 1 ∧
      ∀ more,
        ((s.move (.command (.abandon "b"))).after more).backend.closedHandles.count 1 = 0 := by
  intro p moves began s
  have law : GivesUp began moves s :=
    abandonment_clean (rfl : Backend.fresh.log = []) 1 (some p) moves
  have line : s.pool.waiting = ["c"] := by decide +kernel
  have orderly : Orderly s := orderly_after (orderly_start _ _ _) moves
  have queued : s.Queued "c" := (orderly.mem_waiting "c").mp (by simp [line])
  have probed : (s.holdings.find? "b").map (fun thing => thing.probed.map Connection.handle) =
      some [1] := by decide +kernel
  -- The run matters no more, and is not to be unfolded.
  clear_value s
  obtain ⟨thing, behind, handle⟩ := Option.map_eq_some_iff.mp probed
  cases thing with
  | pooled | bare | slot => cases handle
  | waiter wish progress =>
    cases progress with
    | queued | granted | finished => cases handle
    | probing c =>
      have same : c.handle = 1 := List.singleton_inj.mp handle
      obtain ⟨-, slot, -, -, early, place, later, -, -, -, -, discards, -⟩ :=
        law.stalled true "b" _ _ behind
      obtain ⟨-, -, -, -, early', place', later', -, -, -, -, -, forsakes⟩ :=
        law.stalled false "b" _ _ behind
      have closed := (discards rfl).once []
      have unclosed := (forsakes rfl).unclosed
      rw [same] at closed unclosed
      obtain ⟨empty, -⟩ | ⟨first, others, line', -, granted⟩ := slot
      · rw [line] at empty
        cases empty
      · obtain ⟨rfl, -⟩ := List.cons.inj (line'.symm.trans line)
        exact ⟨rfl, law, (law.queued true "c" queued).2, granted, closed, unclosed⟩

/-- Where no later work is attended to, a checkout that is given up behind its probe leaves the
handle open. Once the pool is closed, so does one that is given up with its connection, or whose
guard is dropped. -/
theorem unattended_waiter_unclosed :
    let p : Provider := ⟨.ofEndpoint "mock" "db", .single "mock" (), .empty, .none⟩
    let began := start .fresh (.ofCapacity 1) (some p)
    let s := began.after [.command (.get "a"), .command (.release "a"),
      .command (.advance (Duration.ofParts 61 0)), .command (.setFault .stalls true),
      .command (.waitGet "b"), .work 0]
    let u := began.after [.command (.waitGet "b"), .work 0, .command .closePool]
    (∃ c, s.holdings.find? "b" = some (.waiter .connection (.probing c)) ∧
        (s.move (.command (.abandon "b"))).settle.backend.closedHandles.count c.handle = 0) ∧
      ∃ c, u.holdings.find? "b" = some (.waiter .connection (.finished (.ok (.connection c)))) ∧
        (u.move (.command (.abandon "b"))).settle.backend.closedHandles.count c.handle = 0 ∧
        ((u.move (.command (.poll "b"))).move
          (.command (.dropUnattended "b"))).settle.backend.closedHandles.count c.handle = 0 :=
  ⟨⟨⟨1, 1, .generic "mock", none, .zero, some .zero⟩, rfl, rfl⟩,
    ⟨1, 1, .generic "mock", none, .zero, none⟩, rfl, rfl, rfl⟩

end Session
end Datastore
