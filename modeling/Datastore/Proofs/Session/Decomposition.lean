import Datastore.Proofs.Session.Checkout
import Datastore.Proofs.Table

/-!
# Moves as chains of effects

Every move is a chain of effects that starts and ends with nothing in hand. A holding that changes
in place is first exchanged for one that amounts to nothing, so that what it held is in hand
meanwhile. Main statement: `move_effects`.
-/

namespace Datastore.Session

open Relation.ReflTransGen

variable {origin s : Session} {m : Move} {n e : Nat} {o : List Nat} {q l : List Connection}
variable {name : String} {c : Connection}

/-- A holding that amounts to nothing. -/
def blank : Holding := .waiter .slot (.finished (.error .closed))

/-- What is held under a name is taken in hand. -/
theorem borrow_effects {thing : Holding} (known : s.holdings.find? name = some thing)
    (apart : thing.isQueued = false) :
    Effects origin m ⟨s, n, e, o, q, l⟩
      ⟨s.hold name blank, n + thing.slots, e + thing.engaged, o, thing.quiet ++ q,
        thing.loose ++ l⟩ :=
  single (.shuffled (.exchanged blank known apart rfl))

/-- A borrowed name gets a holding again. -/
theorem refill_effects {y : System} (thing : Holding) (settled : thing.isSettled = true) :
    Effects origin m
      ⟨(s.hold name blank).withSystem y, n + thing.slots, e + thing.engaged, o, thing.quiet ++ q,
        thing.loose ++ l⟩
      ⟨(s.withSystem y).hold name thing, n, e, o, q, l⟩ := by
  have borrowed : ((s.hold name blank).withSystem y).holdings.find? name = some blank := by
    simp [withSystem, hold]
  have same : ((s.hold name blank).withSystem y).hold name thing =
      (s.withSystem y).hold name thing := by
    simp only [withSystem, hold, Table.insert_insert]
  rw [← same]
  exact single (.shuffled (.exchanged thing borrowed rfl settled))

/-- A connection in hand is discarded, and its slot is free. -/
theorem discard_effects (attended : Bool) :
    Effects origin m ⟨s, n, e + 1, o, q, c :: l⟩
      ⟨(s.discard attended c).freeSlot, n, e, o, q, l⟩ := by
  have parted : Effects origin m ⟨s, n, e + 1, o, q, c :: l⟩
      ⟨s.discard attended c, n, e + 1, o, q, l⟩ := by
    cases attended with
    | true => exact single (.discarded c)
    | false => exact single (.system (.forsaken c))
  exact (parted.tail (.system .disengaged)).tail (.shuffled .freed)

theorem giveBack_effects (attended : Bool) :
    Effects origin m ⟨s, n, e + 1, o, q, c :: l⟩ ⟨s.giveBack attended c, n, e, o, q, l⟩ := by
  rw [giveBack]
  by_cases active : c.inTransaction
  · simp only [active, if_true]
    exact discard_effects attended
  · have free : c.transaction = none := by simpa [Connection.inTransaction] using active
    simp only [active, Bool.false_eq_true, if_false]
    cases shut : s.pool.closed with
    | true => exact (single (.system (.stamped c _))).trans (discard_effects attended)
    | false => exact (single (.system (.returned shut free))).tail (.shuffled .freed)

theorem deliver_effects {y : System} {p : Provider}
    (chain : System.Effects ⟨s.toSystem, 1, 0, [], [], []⟩
      ((p.checkout s.toSystem).1.midway y 0 0 [] [] []))
    (granted : ∃ wish, s.holdings.find? name = some (.waiter wish .granted)) :
    Effects origin m (rest s)
      (rest ((s.withSystem y).deliver name (p.checkout s.toSystem).1)) := by
  obtain ⟨wish, known⟩ := granted
  have borrowed : Effects origin m (rest s) ⟨s.hold name blank, 1, 0, [], [], []⟩ :=
    borrow_effects known rfl
  cases outcome : (p.checkout s.toSystem).1 with
  | ready c =>
    rw [outcome] at chain
    exact (borrowed.trans (effects_withSystem chain)).trans
      (refill_effects (.waiter .connection (.finished (.ok (.connection c)))) rfl)
  | stalled c =>
    rw [outcome] at chain
    exact (borrowed.trans (effects_withSystem chain)).trans
      (refill_effects (.waiter .connection (.probing c)) rfl)
  | failed error =>
    rw [outcome] at chain
    have told := (borrowed.trans (effects_withSystem chain)).trans
      (refill_effects (n := 1) (e := 0) (o := []) (q := []) (l := [])
        (.waiter .connection (.finished (.error (.connection error)))) rfl)
    exact told.tail (.shuffled .freed)

theorem resume_effects : Effects origin m (rest s) (rest (s.resume name)) := by
  rw [resume]
  split
  · next wish known =>
    have borrowed : Effects origin m (rest s) ⟨s.hold name blank, 1, 0, [], [], []⟩ :=
      borrow_effects known rfl
    split
    · have told := borrowed.trans (refill_effects (n := 1) (e := 0) (o := []) (q := []) (l := [])
        (y := s.toSystem) (.waiter wish (.finished (.error .closed))) rfl)
      exact told.tail (.shuffled .freed)
    · split
      · exact borrowed.trans (refill_effects (y := s.toSystem)
          (.waiter .slot (.finished (.ok .slot))) rfl)
      · exact refl
      · next p _ => exact deliver_effects (System.checkout_effects p) ⟨_, known⟩
  · exact refl

/-- Whoever is given the slot is due behind all other work. -/
theorem freeSlot_agenda (s : Session) :
    ∃ more, (∀ agenda, { s with agenda }.freeSlot = { s.freeSlot with agenda := agenda ++ more }) ∧
      ∀ name wish, s.freeSlot.holdings.find? name = some (.waiter wish .granted) →
        s.holdings.find? name = some (.waiter wish .granted) ∨ .resume name ∈ more := by
  cases line : s.pool.waiting with
  | nil =>
    refine ⟨[], fun agenda => ?_, fun name wish known => ?_⟩
    · simp [freeSlot, line]
    · simp only [freeSlot, line] at known
      exact Or.inl known
  | cons first others =>
    refine ⟨[.resume first], fun agenda => ?_, fun name wish known => ?_⟩
    · simp only [freeSlot, line, advanceWaiter]
      split <;> simp [putOff, hold]
    · by_cases same : name = first
      · simp [same]
      · simp only [freeSlot, line, advanceWaiter, putOff] at known
        split at known
        · simp only [hold, Table.find?_insert_of_ne _ _ same] at known
          exact Or.inl known
        · exact Or.inl known

theorem resume_of_not_granted
    (idle : ∀ wish, s.holdings.find? name ≠ some (.waiter wish .granted)) : s.resume name = s := by
  rw [resume]
  split
  · next wish known => exact absurd known (idle wish)
  · rfl

/-- A refused waiter gives its slot back, and that is all the work it leaves. -/
theorem refused_agenda (s : Session) (y : System) (name : String) (wish : Wish)
    (error : PoolError) :
    ∃ more, (∀ agenda, ({ s with agenda }.withSystem y |>.hold name
        (.waiter wish (.finished (.error error)))).freeSlot =
      { ((s.withSystem y).hold name (.waiter wish (.finished (.error error)))).freeSlot with
        agenda := agenda ++ more }) ∧
    ∀ wish', ((s.withSystem y).hold name
        (.waiter wish (.finished (.error error)))).freeSlot.holdings.find? name =
      some (.waiter wish' .granted) → .resume name ∈ more := by
  obtain ⟨more, same, due⟩ :=
    ((s.withSystem y).hold name (.waiter wish (.finished (.error error)))).freeSlot_agenda
  refine ⟨more, same, fun wish' now => (due name wish' now).resolve_left ?_⟩
  simp [hold]

/-- What a waiter does does not depend on the work ahead. When it is done, the waiter has no slot
that it did not use, unless it cannot go on or is due once more. -/
theorem resume_agenda (s : Session) (name : String) :
    ∃ more, (∀ agenda, { s with agenda }.resume name =
        { s.resume name with agenda := agenda ++ more }) ∧
      ∀ wish, (s.resume name).holdings.find? name = some (.waiter wish .granted) →
        wish = .connection ∧ (s.resume name).provider = none ∨ .resume name ∈ more := by
  by_cases granted : ∃ wish, s.holdings.find? name = some (.waiter wish .granted)
  · obtain ⟨wish, known⟩ := granted
    by_cases shut : s.pool.barred
    · obtain ⟨more, same, due⟩ := s.refused_agenda s.toSystem name wish .closed
      simp only [resume, known, shut, if_true]
      exact ⟨more, same, fun wish' now => Or.inr (due wish' now)⟩
    cases wish with
    | slot =>
      refine ⟨[], fun agenda => ?_, fun wish' now => ?_⟩
      · simp [resume, known, shut, hold]
      · simp [resume, known, shut, hold] at now
    | connection =>
      rcases Option.eq_none_or_eq_some s.provider with served | ⟨p, served⟩
      · refine ⟨[], fun agenda => ?_, fun wish' now => Or.inl ⟨?_, ?_⟩⟩
        · simp [resume, known, shut, served]
        · simpa [resume, known, shut, served] using now.symm
        · simp [resume, known, shut, served]
      · cases outcome : (p.checkout s.toSystem).1 with
        | ready c | stalled c =>
          refine ⟨[], fun agenda => ?_, fun wish' now => ?_⟩
          · simp [resume, known, shut, served, outcome, deliver, withSystem, hold]
          · simp [resume, known, shut, served, outcome, deliver, hold] at now
        | failed error =>
          obtain ⟨more, same, due⟩ :=
            s.refused_agenda (p.checkout s.toSystem).2 name .connection (.connection error)
          have went (agenda : List Task) : { s with agenda }.resume name =
              ({ s with agenda }.withSystem (p.checkout s.toSystem).2 |>.hold name
                (.waiter .connection (.finished (.error (.connection error))))).freeSlot := by
            simp only [resume, known, shut, served, outcome, deliver, Bool.false_eq_true, if_false]
          have here : s.resume name = _ := went s.agenda
          refine ⟨more, fun agenda => ?_, fun wish' now => Or.inr (due wish' ?_)⟩
          · rw [went agenda, same agenda, here]
          · rw [here] at now
            exact now
  · have idle (wish : Wish) : s.holdings.find? name ≠ some (.waiter wish .granted) :=
      fun known => granted ⟨wish, known⟩
    refine ⟨[], fun agenda => ?_, fun wish known => ?_⟩
    · rw [resume_of_not_granted (s := { s with agenda }) idle, resume_of_not_granted idle]
      simp
    · rw [resume_of_not_granted idle] at known
      exact absurd known (idle wish)

theorem doWork_effects (place : Nat) : Effects origin m (rest s) (rest (s.doWork place)) := by
  rw [doWork]
  split
  · next task due =>
    cases task with
    | retire c => exact single (.buried due)
    | resume name =>
      obtain ⟨more, same, past⟩ := s.resume_agenda name
      have length : place < s.agenda.length := (List.getElem?_eq_some_iff.mp due).1
      have agenda : (s.resume name).agenda = s.agenda ++ more := congrArg Session.agenda (same _)
      have struck : (s.resume name).agenda.eraseIdx place = s.agenda.eraseIdx place ++ more := by
        rw [agenda, List.eraseIdx_append_of_lt_length length]
      have done : { s.resume name with agenda := (s.resume name).agenda.eraseIdx place } =
          { s with agenda := s.agenda.eraseIdx place }.resume name := by
        rw [struck]
        exact (same _).symm
      have still : (s.resume name).agenda[place]? = some (.resume name) := by
        rw [agenda, List.getElem?_append_left length, due]
      have gone : Effects origin m (rest (s.resume name))
          (rest { s.resume name with agenda := (s.resume name).agenda.eraseIdx place }) := by
        refine single (.shuffled (.dismissed still fun wish granted => ?_))
        rw [struck, List.mem_append]
        exact (past wish granted).imp_right Or.inr
      rw [done] at gone
      exact resume_effects.trans gone
  · exact refl

theorem checkOut_effects (p : Provider) (noSlot : Answer)
    (fresh : s.holdings.find? name = none) :
    Effects origin m (rest s) (rest (s.checkOut p name noSlot).2) := by
  rw [checkOut]
  by_cases shut : s.pool.barred
  · simp only [shut, if_true]
    exact refl
  by_cases busy : s.pool.free = 0
  · simp only [shut, busy, Bool.false_eq_true, if_false, if_true]
    exact refl
  simp only [shut, busy, Bool.false_eq_true, if_false]
  have claimed : Effects origin m (rest s) ⟨s.takeSlot, 1, 0, [], [], []⟩ :=
    single (.shuffled (.claimed (by simpa using shut) busy))
  have chain := System.checkout_effects (s := s.takeSlot.toSystem) (n := 0) (e := 0) (o := [])
    (q := []) (l := []) p
  split
  · next c ready =>
    rw [ready] at chain
    have held := (claimed.trans (effects_withSystem chain)).tail (.system (.loosened c))
    exact held.tail (.shuffled (.put (.pooled c) fresh rfl))
  · next error failed =>
    rw [failed] at chain
    exact (claimed.trans (effects_withSystem chain)).tail (.shuffled .freed)
  · next c stalled =>
    rw [stalled] at chain
    have held := (claimed.trans (effects_withSystem chain)).tail (.system (.loosened c))
    exact held.trans (discard_effects true)

theorem acquireSlot_effects (noSlot : Answer) (fresh : s.holdings.find? name = none) :
    Effects origin m (rest s) (rest (s.acquireSlot name noSlot).2) := by
  rw [acquireSlot]
  split
  · exact refl
  · next shut =>
    split
    · exact refl
    · next busy =>
      have claimed : Effects origin m (rest s) ⟨s.takeSlot, 1, 0, [], [], []⟩ :=
        single (.shuffled (.claimed (by simpa using shut) busy))
      exact claimed.tail (.shuffled (.put .slot fresh rfl))

/-- Whoever is refused for the pool is closed does nothing. -/
theorem unlessClosed_effects {outcome : Answer × Session}
    (chain : Effects origin m (rest s) (rest outcome.2)) :
    Effects origin m (rest s) (rest (s.unlessClosed outcome).2) := by
  rw [unlessClosed]
  split
  · exact refl
  · exact chain

theorem lineUp_effects (wish : Wish) (fresh : s.holdings.find? name = none)
    (served : wish = .connection → s.provider ≠ none) :
    Effects s m (rest s) (rest (s.lineUp wish name)) := by
  rw [lineUp]
  split
  · exact single (.shuffled (.put (.waiter wish (.finished (.error .closed))) fresh rfl))
  · next shut =>
    obtain ⟨isOpen, unbarred⟩ : s.pool.closed = false ∧ s.pool.barred = false := by
      simpa using shut
    split
    · next busy => exact single (.shuffled (.joined wish fresh fresh isOpen busy served))
    · next busy =>
      have claimed : Effects s m (rest s) ⟨s.takeSlot, 1, 0, [], [], []⟩ :=
        single (.shuffled (.claimed unbarred busy))
      exact claimed.tail (.shuffled (.welcomed wish busy fresh served))

theorem collect_effects {wish : Wish} {progress : Progress}
    (known : s.holdings.find? name = some (.waiter wish progress)) :
    Effects origin m (rest s) (rest (s.collect name progress).2) := by
  unfold collect
  split
  · next c =>
    have borrowed : Effects origin m (rest s) ⟨s.hold name blank, 0, 1, [], [c], []⟩ :=
      borrow_effects known rfl
    exact (borrowed.tail (.system (.loosened c))).trans
      (refill_effects (y := s.toSystem) (.pooled c) rfl)
  · have borrowed : Effects origin m (rest s) ⟨s.hold name blank, 1, 0, [], [], []⟩ :=
      borrow_effects known rfl
    exact borrowed.trans (refill_effects (y := s.toSystem) .slot rfl)
  · exact single (.shuffled (.lifted known rfl))
  · exact refl
  · exact refl
  · exact refl

theorem giveUp_effects (attended : Bool) {wish : Wish} {progress : Progress}
    (known : s.holdings.find? name = some (.waiter wish progress)) :
    Effects origin m (rest s) (rest (s.giveUp attended name progress).2) := by
  unfold giveUp
  split
  · exact single (.shuffled (.left known))
  · have lifted : Effects origin m (rest s) ⟨s.letGo name, 1, 0, [], [], []⟩ :=
      single (.shuffled (.lifted known rfl))
    exact lifted.tail (.shuffled .freed)
  · next c =>
    have lifted : Effects origin m (rest s) ⟨s.letGo name, 0, 1, [], [c], []⟩ :=
      single (.shuffled (.lifted known rfl))
    exact (lifted.tail (.system (.loosened c))).trans (discard_effects attended)
  · next c =>
    have lifted : Effects origin m (rest s) ⟨s.letGo name, 0, 1, [], [c], []⟩ :=
      single (.shuffled (.lifted known rfl))
    exact (lifted.tail (.system (.loosened c))).trans (giveBack_effects attended)
  · have lifted : Effects origin m (rest s) ⟨s.letGo name, 1, 0, [], [], []⟩ :=
      single (.shuffled (.lifted known rfl))
    exact lifted.tail (.shuffled .freed)
  · exact single (.shuffled (.lifted known rfl))

theorem partWith_effects (attended : Bool) {thing : Holding}
    (known : s.holdings.find? name = some thing) :
    Effects origin m (rest s) (rest (s.partWith attended name thing).2) := by
  cases thing with
  | pooled c =>
    have lifted : Effects origin m (rest s) ⟨s.letGo name, 0, 1, [], [], [c]⟩ :=
      single (.shuffled (.lifted known rfl))
    exact lifted.trans (giveBack_effects attended)
  | bare c =>
    have lifted : Effects origin m (rest s) ⟨s.letGo name, 0, 0, [], [], [c]⟩ :=
      single (.shuffled (.lifted known rfl))
    exact lifted.tail (.system (.forsaken c))
  | slot =>
    have lifted : Effects origin m (rest s) ⟨s.letGo name, 1, 0, [], [], []⟩ :=
      single (.shuffled (.lifted known rfl))
    exact lifted.tail (.shuffled .freed)
  | waiter wish progress => exact giveUp_effects attended known

theorem forsakeAll_effects (cs : List Connection) :
    Effects origin m ⟨s, n, e, o, q, cs ++ l⟩
      ⟨cs.foldl (fun s c => s.note (.forsaken c)) s, n, e, o, q, l⟩ := by
  induction cs generalizing s with
  | nil => exact refl
  | cons c rest ih => exact (single (.system (.forsaken c))).trans ih

/-- A command that only does something to the system. -/
theorem errand_effects {y : System}
    (chain : System.Effects ⟨s.toSystem, 0, 0, [], [], []⟩ ⟨y, 0, 0, [], [], []⟩) :
    Effects origin m (rest s) (rest (s.withSystem y)) :=
  effects_withSystem chain

/-- A command that obtains a connection for the caller. -/
theorem holdNew_effects {y : System} (fresh : s.holdings.find? name = none)
    (chain : System.Effects ⟨s.toSystem, 0, 0, [], [], []⟩ ⟨y, 0, 0, [], [], [c]⟩) :
    Effects origin m (rest s) (rest (s.holdNew name (c, y)).2) :=
  (effects_withSystem chain).tail (.shuffled (.put (.bare c) fresh rfl))

theorem find?_of_connection? (known : s.connection? name = some c) :
    s.holdings.find? name = some (.pooled c) ∨ s.holdings.find? name = some (.bare c) := by
  rw [connection?] at known
  split at known
  · next c' here =>
    obtain rfl := Option.some.inj known
    exact Or.inl here
  · next c' here =>
    obtain rfl := Option.some.inj known
    exact Or.inr here
  · cases known

theorem connection?_setConnection {c' : Connection} (known : s.connection? name = some c) :
    (s.setConnection name c').connection? name = some c' := by
  rcases find?_of_connection? known with pooled | bare
  · simp [setConnection, pooled, connection?, hold]
  · simp [setConnection, bare, connection?, hold]

@[simp] theorem backend_setConnection (s : Session) (name : String) (c : Connection) :
    (s.setConnection name c).backend = s.backend := by
  unfold setConnection
  split <;> rfl

/-- A command that revises a connection in the hands of the caller. -/
theorem revise_effects {y : System} {c' : Connection} (known : s.connection? name = some c)
    (chain : ∀ e, System.Effects ⟨s.toSystem, 0, e, [], [], [c]⟩ ⟨y, 0, e, [], [], [c']⟩) :
    Effects origin m (rest s) (rest ((s.withSystem y).setConnection name c')) := by
  rcases find?_of_connection? known with pooled | bare
  · have borrowed : Effects origin m (rest s) ⟨s.hold name blank, 0, 1, [], [], [c]⟩ :=
      borrow_effects pooled rfl
    have same : (s.withSystem y).setConnection name c' =
        (s.withSystem y).hold name (.pooled c') := by
      simp [setConnection, withSystem, pooled]
    rw [same]
    exact (borrowed.trans (effects_withSystem (chain 1))).trans
      (refill_effects (.pooled c') rfl)
  · have borrowed : Effects origin m (rest s) ⟨s.hold name blank, 0, 0, [], [], [c]⟩ :=
      borrow_effects bare rfl
    have same : (s.withSystem y).setConnection name c' = (s.withSystem y).hold name (.bare c') := by
      simp [setConnection, withSystem, bare]
    rw [same]
    exact (borrowed.trans (effects_withSystem (chain 0))).trans
      (refill_effects (.bare c') rfl)

theorem withConnection_effects {use : Connection → Answer × Session}
    (chain : ∀ c, s.connection? name = some c → Effects origin m (rest s) (rest (use c).2)) :
    Effects origin m (rest s) (rest (s.withConnection name use).2) := by
  rw [withConnection]
  split
  · next c known => exact chain c known
  · exact refl

theorem withHolding_effects {use : Holding → Answer × Session}
    (chain : ∀ thing, s.holdings.find? name = some thing →
      Effects origin m (rest s) (rest (use thing).2)) :
    Effects origin m (rest s) (rest (s.withHolding name use).2) := by
  rw [withHolding]
  split
  · next thing known => exact chain thing known
  · exact refl

theorem withProvider_effects {use : Provider → Answer × Session}
    (chain : ∀ p, s.provider = some p → Effects origin m (rest s) (rest (use p).2)) :
    Effects origin m (rest s) (rest (s.withProvider use).2) := by
  rw [withProvider]
  split
  · next p served => exact chain p served
  · exact refl

theorem closeNow_effects {thing : Holding} (known : s.holdings.find? name = some thing) :
    Effects origin m (rest s) (rest (s.closeNow name thing).2) := by
  unfold closeNow
  split
  · next c =>
    have lifted : Effects origin m (rest s) ⟨s.letGo name, 0, 1, [], [], [c]⟩ :=
      single (.shuffled (.lifted known rfl))
    have retired := lifted.tail (.system (.retired c))
    have freed := (retired.tail (.system .disengaged)).tail (.shuffled .freed)
    dsimp only
    split <;> exact freed
  · next c =>
    have lifted : Effects origin m (rest s) ⟨s.letGo name, 0, 0, [], [], [c]⟩ :=
      single (.shuffled (.lifted known rfl))
    exact lifted.tail (.system (.retired c))
  · exact refl
  · exact refl

theorem execute_effects (statement : String) :
    Effects origin m (rest s) (rest (s.execute name statement).2) := by
  apply withConnection_effects
  intro c _
  have chain : System.Effects ⟨s.toSystem, 0, 0, [], [], []⟩
      ⟨{ s.toSystem with backend := (c.execute s.backend statement).2 }, 0, 0, [], [], []⟩ := by
    rw [Connection.execute]
    dsimp only
    split
    · exact System.run_effects c.handle statement
    · exact System.execute_effects c.handle statement
  dsimp only
  split <;> exact errand_effects chain

theorem ping_effects : Effects origin m (rest s) (rest (s.ping name).2) := by
  apply withConnection_effects
  intro c _
  have pinged : System.Effects ⟨s.toSystem, 0, 0, [], [], []⟩ _ :=
    single (.called (.pinged c.handle) rfl)
  have chain := pinged.tail (.probed c)
  dsimp only
  split <;> exact errand_effects chain

theorem native_effects (kind : NativeKind) (statement : String) :
    Effects origin m (rest s) (rest (s.native name kind statement).2) := by
  apply withConnection_effects
  intro c _
  dsimp only
  split
  · exact errand_effects (System.execute_effects c.handle statement)
  · exact errand_effects (System.run_effects c.handle statement)
  · exact refl

theorem nativeBegin_effects (commit : Bool) :
    Effects origin m (rest s) (rest (s.nativeBegin name commit).2) := by
  apply withConnection_effects
  intro c _
  rw [Backend.beginTransaction]
  by_cases closed : s.backend.isClosed c.handle
  · simp only [closed, if_true]
    exact refl
  · by_cases fault : s.backend.has .begins
    · simp only [closed, fault, Bool.false_eq_true, if_false, if_true]
      exact refl
    · simp only [closed, fault, Bool.false_eq_true, if_false]
      cases commit with
      | true =>
        exact errand_effects
          (System.nativeTransaction_effects c.handle Backend.commit Backend.commit_ends)
      | false =>
        exact errand_effects
          (System.nativeTransaction_effects c.handle Backend.rollback Backend.rollback_ends)

/-- A new name is free when the command is carried out. -/
theorem carryOut_effects (command : Command)
    (fresh : ∀ name, command.newName? = some name → s.holdings.find? name = none) :
    Effects s (.command command) (rest s) (rest (s.carryOut command).2) := by
  cases command with
  | get name =>
    exact withProvider_effects fun p _ =>
      unlessClosed_effects (checkOut_effects p _ (fresh name rfl))
  | tryGet name => exact withProvider_effects fun p _ => checkOut_effects p _ (fresh name rfl)
  | acquire name => exact unlessClosed_effects (acquireSlot_effects _ (fresh name rfl))
  | tryAcquire name => exact acquireSlot_effects _ (fresh name rfl)
  | waitGet name =>
    exact withProvider_effects fun p served =>
      lineUp_effects .connection (fresh name rfl) fun _ => by simp [served]
  | waitAcquire name => exact lineUp_effects .slot (fresh name rfl) fun h => by cases h
  | poll name =>
    apply withHolding_effects
    intro thing known
    cases thing with
    | waiter wish progress => exact collect_effects known
    | _ => exact refl
  | cancel name =>
    apply withHolding_effects
    intro thing known
    cases thing with
    | waiter wish progress => exact partWith_effects true known
    | _ => exact refl
  | newConnection name =>
    apply withProvider_effects
    intro p _
    have chain := System.manufacture_effects (s := s.toSystem) (n := 0) (e := 0) (o := [])
      (q := []) (l := []) p
    split
    · next c y done =>
      rw [done] at chain
      exact holdNew_effects (fresh name rfl) (chain.tail (.loosened c))
    · next error y failed =>
      rw [failed] at chain
      exact errand_effects chain
  | openDirect name driver dsn =>
    rw [carryOut, Backend.openHandle]
    by_cases fault : s.backend.has .opens
    · simp only [fault, if_true]
      exact errand_effects (single (.called (.refused dsn) rfl))
    · simp only [fault, Bool.false_eq_true, if_false]
      have opened : System.Effects ⟨s.toSystem, 0, 0, [], [], []⟩ _ := single (.opened dsn)
      exact holdNew_effects (fresh name rfl)
        ((opened.tail (.wrapped _ _)).tail (.loosened _))
  | dequeue name =>
    rw [carryOut, System.withdraw]
    cases line : s.pool.idle with
    | nil => exact refl
    | cons c rest =>
      have chain : System.Effects ⟨s.toSystem, 0, 0, [], [], []⟩ _ := single (.withdrawn line)
      exact holdNew_effects (fresh name rfl) chain
  | closeProvider =>
    apply withProvider_effects
    intro p _
    have shut : Effects s (.command .closeProvider) (rest s)
        ⟨s.closePool.2, 0, 0, [], [], s.pool.idle ++ []⟩ := single .shut
    exact shut.trans (effects_withSystem (System.retireAll_effects s.pool.idle))
  | closePool =>
    have shut : Effects s (.command .closePool) (rest s)
        ⟨s.closePool.2, 0, 0, [], [], s.pool.idle ++ []⟩ := single .shut
    exact shut.trans (forsakeAll_effects s.pool.idle)
  | describeProvider => exact withProvider_effects fun _ _ => refl
  | describePool => exact refl
  | advance time => exact errand_effects (single (.waited time))
  | setFault fault on => exact errand_effects (single (.configured _ rfl))
  | failStatement statement => exact errand_effects (single (.configured _ rfl))
  | release name =>
    apply withHolding_effects
    intro thing known
    cases thing with
    | pooled c => exact partWith_effects true known
    | _ => exact refl
  | drop name =>
    apply withHolding_effects
    intro thing known
    cases thing with
    | waiter wish progress => exact refl
    | _ => exact partWith_effects true known
  | dropUnattended name =>
    apply withHolding_effects
    intro thing known
    cases thing with
    | pooled c =>
      dsimp only
      split
      · exact partWith_effects false known
      · exact refl
    | _ => exact refl
  | abandon name => exact withHolding_effects fun thing known => partWith_effects false known
  | closeNow name => exact withHolding_effects fun thing known => closeNow_effects known
  | detach name bareName =>
    apply withHolding_effects
    intro thing known
    cases thing with
    | pooled c =>
      have lifted : Effects s (.command (.detach name bareName)) (rest s)
          ⟨s.letGo name, 0, 1, [], [], [c]⟩ := single (.shuffled (.lifted known rfl))
      have free : (s.letGo name).holdings.find? bareName = none := by
        simp only [letGo, Table.find?_erase, fresh bareName rfl, ite_self]
      have held : Effects s (.command (.detach name bareName)) (rest s)
          ⟨(s.letGo name).hold bareName (.bare c), 0, 1, [], [], []⟩ :=
        lifted.tail (.shuffled (.put (n := 0) (e := 1) (.bare c) free rfl))
      exact (held.tail (.system .disengaged)).tail (.shuffled .freed)
    | _ => exact refl
  | enqueue name =>
    apply withHolding_effects
    intro thing known
    cases thing with
    | bare c =>
      dsimp only
      split
      · exact refl
      · next shut =>
        have lifted : Effects s (.command (.enqueue name)) (rest s)
            ⟨s.letGo name, 0, 0, [], [], [c]⟩ := single (.shuffled (.lifted known rfl))
        have isOpen : s.pool.closed = false := by simpa using shut
        exact lifted.tail (.enqueued rfl known isOpen)
    | _ => exact refl
  | beginTransaction name =>
    exact withConnection_effects fun c known =>
      revise_effects known fun _ => System.begin_effects c
  | commit name =>
    exact withConnection_effects fun c known =>
      revise_effects known fun _ => System.finish_effects c Backend.commit Backend.commit_ends
  | rollback name =>
    exact withConnection_effects fun c known =>
      revise_effects known fun _ => System.finish_effects c Backend.rollback Backend.rollback_ends
  | execute name statement => exact execute_effects statement
  | ping name => exact ping_effects
  | setLastUsed name now =>
    exact withConnection_effects fun c known =>
      revise_effects (y := s.toSystem) known fun _ => single (.stamped c _)
  | inspect name => exact withConnection_effects fun _ _ => refl
  | describe name =>
    have same : (s.carryOut (.describe name)).2 = s := by
      simp only [carryOut]
      split <;> rfl
    rw [same]
  | native name kind statement => exact native_effects kind statement
  | nativeClose name =>
    exact withConnection_effects fun c known => single (.severed rfl known)
  | nativeBegin name commit => exact nativeBegin_effects commit
  | tune name tuning =>
    exact withConnection_effects fun c _ => errand_effects (System.tune_effects c tuning)

/-- Every move is a chain of effects. -/
theorem move_effects (s : Session) (m : Move) : Effects s m (rest s) (rest (s.move m)) := by
  cases m with
  | work place => exact doWork_effects place
  | command command =>
    unfold move obey
    dsimp only
    split
    · exact refl
    · next free =>
      apply carryOut_effects
      intro name new
      rw [new] at free
      simpa [Table.contains] using free

end Datastore.Session
