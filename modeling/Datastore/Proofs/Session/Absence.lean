import Datastore.Proofs.Session.Fates

/-!
# Sessions without a waiter

A waiter in line takes part in nothing. As long as it is there, whatever the others do comes to what
it would have come to if the waiter had never begun: to leave it out commutes with every move.
Main statements: `move_without`, `queued_since`, `without_after`.
-/

namespace Datastore

def Pool.without (pool : Pool) (name : String) : Pool :=
  { pool with waiting := pool.waiting.filter (· ≠ name) }

namespace Provider

theorem manufacture_without (p : Provider) (s : System) (name : String) :
    p.manufacture { s with pool := s.pool.without name } = ((p.manufacture s).1,
      { (p.manufacture s).2 with pool := (p.manufacture s).2.pool.without name }) := by
  rw [manufacture_pool]
  exact p.manufacture_withPool s (s.pool.without name)

theorem checkout_without (p : Provider) (s : System) (name : String) :
    p.checkout { s with pool := s.pool.without name } =
      ((p.checkout s).1, { (p.checkout s).2 with pool := (p.checkout s).2.pool.without name }) := by
  have line : (s.pool.without name).idle = s.pool.idle := rfl
  unfold checkout
  rw [line]
  cases s.pool.idle with
  | nil =>
    simp only [checkoutNew_pool]
    exact p.checkoutNew_withPool s (s.pool.without name)
  | cons c rest =>
    simp only [recycle_pool]
    exact p.recycle_withPool ({ s with pool := { s.pool with idle := rest } }.note (.taken c))
      ({ s.pool with idle := rest }.without name) c

end Provider

namespace Session

/-- The session as it were if nobody waited under this name. -/
def without (s : Session) (name : String) : Session :=
  { s.letGo name with pool := s.pool.without name }

variable {s : Session} {name other : String} {thing : Holding}

theorem toSystem_without (s : Session) (name : String) :
    (s.without name).toSystem = { s.toSystem with pool := s.pool.without name } := rfl

theorem find?_without (s : Session) (name other : String) :
    (s.without name).holdings.find? other =
      if other = name then none else s.holdings.find? other :=
  Table.find?_erase _ _ _

theorem find?_without_of_ne (apart : other ≠ name) :
    (s.without name).holdings.find? other = s.holdings.find? other := by
  rw [find?_without, if_neg apart]

/-- To leave out a name that is not there changes nothing. -/
theorem without_of_none (fresh : s.holdings.find? name = none) (absent : name ∉ s.pool.waiting) :
    s.without name = s := by
  have line : s.pool.waiting.filter (· ≠ name) = s.pool.waiting := by
    rw [List.filter_eq_self]
    intro other here
    simpa using fun same : other = name => absent (same ▸ here)
  simp only [without, letGo, Table.erase_of_none fresh, Pool.without, line]

theorem hold_without (apart : other ≠ name) :
    (s.without name).hold other thing = (s.hold other thing).without name := by
  simp only [hold, without, letGo, Table.erase_insert_of_ne _ apart]

theorem letGo_without (s : Session) (name other : String) :
    (s.without name).letGo other = (s.letGo other).without name := by
  simp only [without, letGo, Table.erase_comm]

theorem advanceWaiter_without {progress : Progress} (apart : other ≠ name) :
    (s.without name).advanceWaiter other progress =
      (s.advanceWaiter other progress).without name := by
  simp only [advanceWaiter, find?_without_of_ne apart]
  split
  · exact hold_without apart
  · rfl

/-- A slot that is given back and does not go to the waiter goes where it would have gone. -/
theorem freeSlot_without (still : s.freeSlot.Queued name) :
    (s.without name).freeSlot = s.freeSlot.without name := by
  cases line : s.pool.waiting with
  | nil => simp [freeSlot, without, Pool.without, letGo, line]
  | cons first rest =>
    have apart : first ≠ name := by
      rintro rfl
      obtain ⟨wish, queued⟩ := still
      simp only [freeSlot, line, advanceWaiter] at queued
      split at queued
      · simp [putOff, hold] at queued
      · next other =>
        simp only [putOff] at queued
        exact other _ _ queued
    have line' : (s.without name).pool.waiting = first :: rest.filter (· ≠ name) := by
      simp [without, Pool.without, line, apart]
    simp only [freeSlot, line, line']
    exact congrArg (putOff · (.resume first)) <|
      advanceWaiter_without (s := { s with pool := { s.pool with waiting := rest } }) apart

theorem discard_without (attended : Bool) (c : Connection) :
    (s.without name).discard attended c = (s.discard attended c).without name := by
  cases attended <;> rfl

theorem giveBack_without {attended : Bool} {c : Connection}
    (still : (s.giveBack attended c).Queued name) :
    (s.without name).giveBack attended c = (s.giveBack attended c).without name := by
  have closed : (s.without name).pool.closed = s.pool.closed := rfl
  simp only [giveBack, closed, discard_without] at still ⊢
  rw [← freeSlot_without still]
  split
  · rfl
  · split <;> rfl

theorem deliver_without {outcome : Provider.Checkout} (apart : other ≠ name)
    (still : (s.deliver other outcome).Queued name) :
    (s.without name).deliver other outcome = (s.deliver other outcome).without name := by
  cases outcome with
  | ready c | stalled c => exact hold_without apart
  | failed error =>
    simp only [deliver, hold_without apart]
    exact freeSlot_without still

theorem resume_without (queued : s.Queued name) (still : (s.resume other).Queued name) :
    (s.without name).resume other = (s.resume other).without name := by
  by_cases own : other = name
  · subst own
    obtain ⟨wish, known⟩ := queued
    have mine : s.resume other = s := resume_of_not_granted fun wish' => by simp [known]
    rw [mine]
    exact resume_of_not_granted fun wish' => by simp [find?_without]
  have barred : (s.without name).pool.barred = s.pool.barred := rfl
  have serving : (s.without name).provider = s.provider := rfl
  simp only [resume, find?_without_of_ne own, barred, serving] at still ⊢
  split at still
  · split at still
    · next shut =>
      simp only [shut, if_true, hold_without own]
      exact freeSlot_without still
    · next isOpen =>
      simp only [isOpen]
      split at still
      · exact hold_without own
      · rfl
      · next p _ _ =>
        have checkout := p.checkout_without s.toSystem name
        simp only [toSystem_without, checkout]
        exact deliver_without (s := s.withSystem (p.checkout s.toSystem).2) own still
  · rfl

theorem doWork_without {place : Nat} (queued : s.Queued name)
    (still : (s.doWork place).Queued name) :
    (s.without name).doWork place = (s.doWork place).without name := by
  have agenda : (s.without name).agenda = s.agenda := rfl
  simp only [doWork, agenda] at still ⊢
  split at still
  · next task _ =>
    cases task with
    | retire c => rfl
    | resume other =>
      exact resume_without (s := { s with agenda := s.agenda.eraseIdx place }) queued still
  · rfl

/-! ### Commands -/

/-- What a waiter in line sees of the pool. -/
theorem Orderly.waits (orderly : Orderly s) (queued : s.Queued name) :
    s.pool.closed = false ∧ s.pool.barred = false ∧ s.pool.free = 0 := by
  have here := (orderly.mem_waiting name).mpr queued
  have isOpen : s.pool.closed = false := by
    by_contra shut
    rw [orderly.dispersed (by simpa using shut)] at here
    cases here
  exact ⟨isOpen, orderly.unbarred isOpen, orderly.busy (List.ne_nil_of_mem here)⟩

theorem checkOut_without (orderly : Orderly s) (queued : s.Queued name) (p : Provider)
    (noSlot : Answer) : ((s.without name).checkOut p other noSlot).2 =
      (s.checkOut p other noSlot).2.without name := by
  obtain ⟨-, unbarred, busy⟩ := orderly.waits queued
  have unbarred' : (s.without name).pool.barred = false := unbarred
  have busy' : (s.without name).pool.free = 0 := busy
  simp only [checkOut, unbarred, busy, unbarred', busy', Bool.false_eq_true, if_false, if_true]

theorem acquireSlot_without (orderly : Orderly s) (queued : s.Queued name) (noSlot : Answer) :
    ((s.without name).acquireSlot other noSlot).2 =
      (s.acquireSlot other noSlot).2.without name := by
  obtain ⟨-, unbarred, busy⟩ := orderly.waits queued
  have unbarred' : (s.without name).pool.barred = false := unbarred
  have busy' : (s.without name).pool.free = 0 := busy
  simp only [acquireSlot, unbarred, busy, unbarred', busy', Bool.false_eq_true, if_false, if_true]

theorem unlessClosed_without {outcome outcome' : Answer × Session}
    (same : outcome'.2 = outcome.2.without name) :
    ((s.without name).unlessClosed outcome').2 = (s.unlessClosed outcome).2.without name := by
  have closed : (s.without name).pool.closed = s.pool.closed := rfl
  simp only [unlessClosed, closed]
  split
  · rfl
  · exact same

/-- Whoever gets in line behind the waiter would have got in line. -/
theorem lineUp_without (orderly : Orderly s) (queued : s.Queued name) {wish : Wish}
    (apart : other ≠ name) :
    (s.without name).lineUp wish other = (s.lineUp wish other).without name := by
  obtain ⟨isOpen, unbarred, busy⟩ := orderly.waits queued
  have isOpen' : (s.without name).pool.closed = false := isOpen
  have unbarred' : (s.without name).pool.barred = false := unbarred
  have busy' : (s.without name).pool.free = 0 := busy
  have longer : (s.pool.waiting ++ [other]).filter (· ≠ name) =
      s.pool.waiting.filter (· ≠ name) ++ [other] := by simp [apart]
  simp only [lineUp, isOpen, unbarred, busy, isOpen', unbarred', busy', Bool.or_false,
    Bool.false_eq_true, if_false, if_true]
  rw [← hold_without apart]
  simp only [without, Pool.without, longer, letGo]

theorem collect_without {progress : Progress} (apart : other ≠ name) :
    ((s.without name).collect other progress).2 =
      (s.collect other progress).2.without name := by
  unfold collect
  split
  · exact hold_without apart
  · exact hold_without apart
  · exact letGo_without s name other
  all_goals rfl

theorem giveUp_without {attended : Bool} {progress : Progress}
    (still : (s.giveUp attended other progress).2.Queued name) :
    ((s.without name).giveUp attended other progress).2 =
      (s.giveUp attended other progress).2.without name := by
  unfold giveUp at still ⊢
  simp only [letGo_without, discard_without]
  split at still
  · simp only [without, Pool.without, letGo, List.filter_filter, Bool.and_comm]
  · exact freeSlot_without still
  · exact freeSlot_without still
  · exact giveBack_without still
  · exact freeSlot_without still
  · rfl

theorem partWith_without {attended : Bool}
    (still : (s.partWith attended other thing).2.Queued name) :
    ((s.without name).partWith attended other thing).2 =
      (s.partWith attended other thing).2.without name := by
  cases thing with
  | pooled c =>
    simp only [partWith, letGo_without]
    exact giveBack_without still
  | bare c =>
    simp only [partWith, letGo_without]
    rfl
  | slot =>
    simp only [partWith, letGo_without]
    exact freeSlot_without still
  | waiter wish progress => exact giveUp_without still

/-- Whoever is in line and let go of is in line no more. -/
theorem not_queued_partWith {wish : Wish} (attended : Bool) :
    ¬ (s.partWith attended name (.waiter wish .queued)).2.Queued name := by
  rintro ⟨wish', known⟩
  simp [partWith, giveUp, letGo, Table.find?_erase] at known

theorem setConnection_without {c : Connection} (apart : other ≠ name) :
    (s.without name).setConnection other c = (s.setConnection other c).without name := by
  simp only [setConnection, find?_without_of_ne apart]
  split
  · exact hold_without apart
  · exact hold_without apart
  · rfl

theorem closeNow_pooled (s : Session) (other : String) (c : Connection) :
    (s.closeNow other (.pooled c)).2 =
      ((s.letGo other).withSystem (s.toSystem.retire c).2).freeSlot := by
  unfold closeNow
  dsimp only
  split <;> rfl

theorem closeNow_without (still : (s.closeNow other thing).2.Queued name) :
    ((s.without name).closeNow other thing).2 = (s.closeNow other thing).2.without name := by
  cases thing with
  | pooled c =>
    rw [closeNow_pooled] at still
    rw [closeNow_pooled, closeNow_pooled, letGo_without]
    exact freeSlot_without (s := (s.letGo other).withSystem (s.toSystem.retire c).2) still
  | bare c =>
    simp only [closeNow, letGo_without]
    rfl
  | slot => rfl
  | waiter wish progress => rfl

theorem withProvider_without {use use' : Provider → Answer × Session}
    (each : ∀ p, (use' p).2 = (use p).2.without name) :
    ((s.without name).withProvider use').2 = (s.withProvider use).2.without name := by
  have serving : (s.without name).provider = s.provider := rfl
  simp only [withProvider, serving]
  split
  · exact each _
  · rfl

/-- A waiter in line is put to no use. -/
theorem withHolding_without {use use' : Holding → Answer × Session} (queued : s.Queued name)
    (own : other = name → ∀ wish, (use (.waiter wish .queued)).2.Queued name →
      (use (.waiter wish .queued)).2 = s)
    (each : other ≠ name → ∀ thing, (use thing).2.Queued name →
      (use' thing).2 = (use thing).2.without name)
    (still : (s.withHolding other use).2.Queued name) :
    ((s.without name).withHolding other use').2 = (s.withHolding other use).2.without name := by
  by_cases same : other = name
  · subst same
    obtain ⟨wish, known⟩ := queued
    have gone : (s.without other).holdings.find? other = none := by simp [find?_without]
    simp only [withHolding, known, gone] at still ⊢
    exact congrArg (without · other) (own rfl wish still).symm
  · simp only [withHolding, find?_without_of_ne same] at still ⊢
    split at still
    · exact each same _ still
    · rfl

theorem withConnection_without {use use' : Connection → Answer × Session}
    (queued : s.Queued name)
    (each : other ≠ name → ∀ c, (use' c).2 = (use c).2.without name) :
    ((s.without name).withConnection other use').2 =
      (s.withConnection other use).2.without name := by
  by_cases same : other = name
  · subst same
    obtain ⟨wish, known⟩ := queued
    have gone : (s.without other).connection? other = none := by
      simp [connection?, find?_without]
    simp only [withConnection, connection?_of_waiter known, gone]
    rfl
  · have kept : (s.without name).connection? other = s.connection? other := by
      simp only [connection?, find?_without_of_ne same]
    simp only [withConnection, kept]
    split
    · exact each same _
    · rfl

theorem transact_without {call : Connection → Backend → Except Error Unit × Connection × Backend}
    (queued : s.Queued name) :
    ((s.without name).transact other call).2 = (s.transact other call).2.without name :=
  withConnection_without queued fun apart c =>
    setConnection_without (s := { s with backend := (call c s.backend).2.2 }) apart

/-- Nobody is in line for a closed pool. -/
theorem not_queued_closePool (orderly : Orderly s) (name : String) :
    ¬ s.closePool.2.Queued name := by
  intro queued
  have here := ((orderly_closePool orderly).mem_waiting name).mpr queued
  rw [closePool_pool] at here
  cases here

theorem carryOut_without (orderly : Orderly s) (queued : s.Queued name) {command : Command}
    (makes : command.newName? ≠ some name) (still : (s.carryOut command).2.Queued name) :
    ((s.without name).carryOut command).2 = (s.carryOut command).2.without name := by
  have apart {other : String} (new : command.newName? = some other) : other ≠ name :=
    fun same => makes (same ▸ new)
  cases command with
  | get other =>
    exact withProvider_without fun p => unlessClosed_without (checkOut_without orderly queued p _)
  | tryGet other => exact withProvider_without fun p => checkOut_without orderly queued p _
  | acquire other => exact unlessClosed_without (acquireSlot_without orderly queued _)
  | tryAcquire other => exact acquireSlot_without orderly queued _
  | waitGet other =>
    exact withProvider_without fun _ => lineUp_without orderly queued (apart rfl)
  | waitAcquire other => exact lineUp_without orderly queued (apart rfl)
  | poll other =>
    refine withHolding_without queued (fun _ _ _ => rfl) (fun apart thing _ => ?_) still
    cases thing with
    | waiter wish progress => exact collect_without apart
    | _ => rfl
  | cancel other =>
    refine withHolding_without queued (fun same wish stays => ?_) (fun _ thing stays => ?_) still
    · subst same
      exact absurd stays (not_queued_partWith true)
    · cases thing with
      | waiter wish progress => exact partWith_without stays
      | _ => rfl
  | abandon other =>
    refine withHolding_without queued (fun same wish stays => ?_)
      (fun _ thing stays => partWith_without stays) still
    subst same
    exact absurd stays (not_queued_partWith false)
  | newConnection other =>
    refine withProvider_without fun p => ?_
    simp only [toSystem_without, p.manufacture_without]
    rcases p.manufacture s.toSystem with ⟨error | c, after⟩
    · rfl
    · exact hold_without (s := s.withSystem after) (apart rfl)
  | openDirect other driver dsn =>
    have opened : (s.without name).backend = s.backend := rfl
    simp only [carryOut, opened]
    rcases s.backend.openHandle dsn with ⟨source | handle, backend⟩
    · rfl
    · exact hold_without (s := s.withSystem
        ({ s.toSystem with backend }.wrap handle (DialectRegistry.builtin.resolve driver)).2)
        (apart rfl)
  | dequeue other =>
    simp only [carryOut, System.withdraw]
    have idle : (s.without name).pool.idle = s.pool.idle := rfl
    rw [idle]
    cases s.pool.idle with
    | nil => rfl
    | cons c rest =>
      exact hold_without (s := s.withSystem
        ({ s.toSystem with pool := { s.pool with idle := rest } }.note (.withdrawn c))) (apart rfl)
  | closeProvider =>
    simp only [carryOut, withProvider] at still ⊢
    have serving : (s.without name).provider = s.provider := rfl
    rw [serving]
    cases served : s.provider with
    | none => rfl
    | some p =>
      rw [served] at still
      exact absurd still (not_queued_closePool orderly name)
  | closePool =>
    simp only [carryOut, forsakeAll_eq] at still
    exact absurd still (not_queued_closePool orderly name)
  | describeProvider => exact withProvider_without fun _ => rfl
  | release other =>
    refine withHolding_without queued (fun _ _ _ => rfl) (fun apart thing stays => ?_) still
    cases thing with
    | pooled c => exact partWith_without stays
    | _ => rfl
  | drop other =>
    refine withHolding_without queued (fun _ _ _ => rfl) (fun apart thing stays => ?_) still
    cases thing with
    | waiter wish progress => rfl
    | _ => exact partWith_without stays
  | dropUnattended other =>
    refine withHolding_without queued (fun _ _ _ => rfl) (fun apart thing stays => ?_) still
    cases thing with
    | pooled c =>
      have closed : (s.without name).pool.closed = s.pool.closed := rfl
      simp only [closed] at stays ⊢
      split
      · next ends =>
        rw [if_pos ends] at stays
        exact partWith_without stays
      · rfl
    | _ => rfl
  | closeNow other =>
    exact withHolding_without queued (fun _ _ _ => rfl) (fun _ _ stays => closeNow_without stays)
      still
  | detach other bareName =>
    refine withHolding_without queued (fun _ _ _ => rfl) (fun _ thing stays => ?_) still
    cases thing with
    | pooled c =>
      simp only [letGo_without, hold_without (apart rfl)]
      exact freeSlot_without stays
    | _ => rfl
  | enqueue other =>
    refine withHolding_without queued (fun _ _ _ => rfl) (fun _ thing stays => ?_) still
    cases thing with
    | bare c =>
      have closed : (s.without name).pool.closed = s.pool.closed := rfl
      simp only [closed, letGo_without]
      split <;> rfl
    | _ => rfl
  | beginTransaction other | commit other | rollback other => exact transact_without queued
  | execute other statement =>
    refine withConnection_without queued fun _ c => ?_
    have backend : (s.without name).backend = s.backend := rfl
    simp only [backend]
    split <;> rfl
  | ping other =>
    refine withConnection_without queued fun _ c => ?_
    have backend : (s.without name).backend = s.backend := rfl
    simp only [backend]
    split <;> rfl
  | setLastUsed other now =>
    exact withConnection_without queued fun apart c => setConnection_without apart
  | describe other =>
    have same (s : Session) : (s.carryOut (.describe other)).2 = s := by
      simp only [carryOut]
      split <;> rfl
    rw [same, same]
  | native other kind statement =>
    refine withConnection_without queued fun _ c => ?_
    dsimp only
    split <;> rfl
  | nativeBegin other commit =>
    refine withConnection_without queued fun _ c => ?_
    have backend : (s.without name).backend = s.backend := rfl
    simp only [backend]
    split <;> rfl
  | inspect other | nativeClose other | tune other tuning =>
    exact withConnection_without queued fun _ _ => rfl
  | describePool | advance time | setFault fault on | failStatement statement => rfl

/-! ### Runs -/

/-- The move is to put something under this name. -/
def Move.makes (name : String) : Move → Bool
  | .command asked => asked.newName? = some name
  | .work _ => false

variable {m : Move} {moves : List Move}

/-- A name in use is not given to anything else. -/
theorem move_of_makes (taken : s.holdings.find? name ≠ none) (makes : m.makes name = true) :
    s.move m = s := by
  cases m with
  | command command =>
    have known : s.holdings.contains name = true := by
      simpa [Table.contains, Option.isSome_iff_ne_none] using taken
    have new : command.newName? = some name := by simpa [Move.makes] using makes
    simp [move, obey, new, known, misused]
  | work place => cases makes

theorem Queued.taken (queued : s.Queued name) : s.holdings.find? name ≠ none := by
  obtain ⟨wish, known⟩ := queued
  simp [known]

/-- To leave a waiter in line out commutes with what the others do. -/
theorem move_without (orderly : Orderly s) (queued : s.Queued name)
    (still : (s.move m).Queued name) (spares : m.makes name = false) :
    (s.without name).move m = (s.move m).without name := by
  cases m with
  | work place => exact doWork_without queued still
  | command command =>
    have makes : command.newName? ≠ some name := by simpa [Move.makes] using spares
    have known : command.newName?.any (s.without name).holdings.contains =
        command.newName?.any s.holdings.contains := by
      cases new : command.newName? with
      | none => rfl
      | some other =>
        have apart : other ≠ name := fun same => makes (same ▸ new)
        simp only [Option.any_some, Table.contains, find?_without_of_ne apart]
    simp only [move, obey, known] at still ⊢
    split
    · rfl
    · next free =>
      rw [if_neg free] at still
      exact carryOut_without orderly queued makes still

/-- As long as a waiter is in line, all goes as if it were not there. -/
theorem without_after (orderly : Orderly s) (line : Throughout (·.Queued name) s moves) :
    (s.without name).after (moves.filter (!·.makes name)) = (s.after moves).without name := by
  induction moves generalizing s with
  | nil => rfl
  | cons m rest ih =>
    have later := ih (orderly_move orderly m) line.2
    cases makes : m.makes name with
    | true =>
      have same := move_of_makes line.1.taken makes
      rw [List.filter_cons_of_neg (by simp [makes]), after_cons, ← later, same]
    | false =>
      have first := move_without orderly line.1 line.2.now makes
      rw [List.filter_cons_of_pos (by simp [makes]), after_cons, after_cons, first, later]

/-- Whoever is in line got there at some time, and has been there since. -/
theorem queued_since (orderly : Orderly s) (fresh : s.holdings.find? name = none)
    (queued : (s.after moves).Queued name) :
    ∃ before, ∃ wish : Wish, ∃ later, moves = before ++ .command (wish.command name) :: later ∧
      (s.after before).holdings.find? name = none ∧
      Throughout (·.Queued name) ((s.after before).move (.command (wish.command name))) later := by
  obtain ⟨before, m, later, same, outside, line⟩ :=
    last_since (P := (·.Queued name)) (not_queued_of_none fresh) queued
  obtain ⟨wish, known⟩ := line.now
  have fate := becomes (orderly_after orderly before) name m
  rw [known] at fate
  generalize told : some (Holding.waiter wish .queued) = now at fate
  cases fate with
  | lapsed lapses =>
    generalize was : (s.after before).holdings.find? name = past at lapses
    cases lapses with
    | kept => exact absurd ⟨wish, was.trans told.symm⟩ outside
    | given | refused => cases told
  | begun wish' progress free early => exact ⟨before, wish', later, same, free, line⟩
  | served granted due goes =>
    cases ends : (Provider.checkout _ (s.after before).toSystem).1 <;>
      · rw [ends] at told
        cases told
  | _ => cases told

theorem lineUp_without_self {wish : Wish} (fresh : s.holdings.find? name = none)
    (absent : name ∉ s.pool.waiting) (queued : (s.lineUp wish name).Queued name) :
    (s.lineUp wish name).without name = s := by
  obtain ⟨wish', known⟩ := queued
  rw [lineUp] at known ⊢
  split at known
  · simp [hold] at known
  · split at known
    · have joined : (s.pool.waiting ++ [name]).filter (· ≠ name) =
          s.pool.waiting.filter (· ≠ name) := by simp
      have left := without_of_none fresh absent
      next isOpen busy =>
      rw [if_neg isOpen, if_pos busy]
      simpa only [without, Pool.without, letGo, hold, Table.erase_insert_self, joined] using left
    · simp [putOff, hold] at known

/-- To leave out whoever just got in line undoes it. -/
theorem begin_without {wish : Wish} (orderly : Orderly s) (fresh : s.holdings.find? name = none)
    (queued : (s.move (.command (wish.command name))).Queued name) :
    (s.move (.command (wish.command name))).without name = s := by
  have absent : name ∉ s.pool.waiting := fun line =>
    not_queued_of_none fresh ((orderly.mem_waiting name).mp line)
  have new : (wish.command name).newName?.any s.holdings.contains = false := by
    cases wish <;> simp [Wish.command, Command.newName?, Table.contains, fresh]
  simp only [move, obey, new, Bool.false_eq_true, if_false] at queued ⊢
  cases wish with
  | slot => exact lineUp_without_self fresh absent queued
  | connection =>
    simp only [Wish.command, carryOut, withProvider] at queued ⊢
    split at queued
    · exact lineUp_without_self fresh absent queued
    · exact absurd queued (not_queued_of_none fresh)

/-- The session is where the run would have led if the waiter that is in line under this name had
never begun. Meanwhile nothing else was made under the name, since it was in use. -/
def NeverBegun (began : Session) (moves : List Move) (name : String) (t : Session) : Prop :=
  ∃ before, ∃ wish : Wish, ∃ later, moves = before ++ .command (wish.command name) :: later ∧
    (began.after before).holdings.find? name = none ∧
    Throughout (·.Queued name) ((began.after before).move (.command (wish.command name))) later ∧
    t = began.after (before ++ later.filter (!·.makes name))

theorem never_begun (orderly : Orderly s) (fresh : s.holdings.find? name = none)
    (queued : (s.after moves).Queued name) :
    NeverBegun s moves name ((s.after moves).without name) := by
  obtain ⟨before, wish, later, rfl, free, line⟩ := queued_since orderly fresh queued
  have early := orderly_after orderly before
  refine ⟨before, wish, later, rfl, free, line, ?_⟩
  rw [after_append, after_append, after_cons, ← without_after (orderly_move early _) line,
    begin_without early free line.now]

end Session
end Datastore
