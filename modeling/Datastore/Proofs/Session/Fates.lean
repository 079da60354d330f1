import Datastore.Proofs.Session.Handout

/-!
# Fates

What one move can make of what goes by one name. A slot that somebody gives back and the closing of
the pool concern whoever is in line; all else that becomes of a name is the caller's doing, or the
work of a waiter that has a slot. Main statement: `becomes`.
-/

namespace Datastore

/-- The command to begin to wait for it. -/
def Wish.command (name : String) : Wish → Session.Command
  | .connection => .waitGet name
  | .slot => .waitAcquire name

namespace Session

/-- What others make of a holding. -/
inductive Lapses : Option Holding → Option Holding → Prop
  | kept (thing : Option Holding) : Lapses thing thing
  | given (wish : Wish) :
    Lapses (some (.waiter wish .queued)) (some (.waiter wish .granted))
  /-- The pool was closed. -/
  | refused (wish : Wish) :
    Lapses (some (.waiter wish .queued)) (some (.waiter wish (.finished (.error .closed))))

/-- What a move can make of what goes by a name. -/
inductive Becomes (s : Session) (name : String) : Move → Option Holding → Prop
  | lapsed {m now} (lapses : Lapses (s.holdings.find? name) now) : Becomes s name m now
  | gone {m} : Becomes s name m none
  | guard {m} (c : Connection) : Becomes s name m (some (.pooled c))
  | bare {m} (c : Connection) : Becomes s name m (some (.bare c))
  | slot {m} (asked : m = .command (.acquire name) ∨ m = .command (.tryAcquire name)) :
    Becomes s name m (some .slot)
  | collected {m wish}
      (known : s.holdings.find? name = some (.waiter wish (.finished (.ok .slot)))) :
    Becomes s name m (some .slot)
  | begun (wish : Wish) (progress : Progress) (fresh : s.holdings.find? name = none)
      (early : progress = .queued ∨ progress = .granted ∨ progress = .finished (.error .closed)) :
    Becomes s name (.command (wish.command name)) (some (.waiter wish progress))
  /-- A waiter for a slot has one. -/
  | content {place} (granted : s.holdings.find? name = some (.waiter .slot .granted)) :
    Becomes s name (.work place) (some (.waiter .slot (.finished (.ok .slot))))
  /-- A waiter that had a slot finds the pool closed. -/
  | late {place wish} (granted : s.holdings.find? name = some (.waiter wish .granted)) :
    Becomes s name (.work place) (some (.waiter wish (.finished (.error .closed))))
  | served {place p} (granted : s.holdings.find? name = some (.waiter .connection .granted))
      (due : s.agenda[place]? = some (.resume name)) (goes : s.goingOn name = .checkout p) :
    Becomes s name (.work place)
      (some (.waiter .connection (progress (p.checkout s.toSystem).1)))

variable {s t : Session} {name other : String} {m : Move} {thing : Holding}

theorem Becomes.kept (same : t.holdings.find? name = s.holdings.find? name) :
    Becomes s name m (t.holdings.find? name) :=
  same ▸ .lapsed (.kept _)

/-! ### What others do -/

theorem lapses_freeSlot (orderly : Orderly s) (line : t.pool.waiting = s.pool.waiting)
    (same : t.holdings.find? name = s.holdings.find? name) :
    Lapses (s.holdings.find? name) (t.freeSlot.holdings.find? name) := by
  by_cases here : name ∈ t.pool.waiting
  · obtain ⟨wish, queued⟩ := (orderly.mem_waiting name).mp (line ▸ here)
    rw [freeSlot]
    split
    · next empty => simp [empty] at here
    · next first rest _ =>
      by_cases own : name = first
      · subst own
        simp only [advanceWaiter, same, queued, putOff, hold, Table.find?_insert_self]
        exact .given wish
      · have other : (({ t with pool := { t.pool with waiting := rest } }.advanceWaiter first
            .granted).putOff (.resume first)).holdings.find? name = s.holdings.find? name :=
          (find?_advanceWaiter_of_ne own).trans same
        rw [other]
        exact .kept _
  · rw [find?_freeSlot here, same]
    exact .kept _

theorem find?_refuseAll_of_mem {wish : Wish} {progress : Progress} {names : List String}
    (known : s.holdings.find? name = some (.waiter wish progress)) (here : name ∈ names) :
    (s.refuseAll names).holdings.find? name =
      some (.waiter wish (.finished (.error .closed))) := by
  induction names generalizing s progress with
  | nil => cases here
  | cons first rest ih =>
    by_cases own : name = first
    · subst own
      have told : (s.refuseWaiter name).holdings.find? name =
          some (.waiter wish (.finished (.error .closed))) := by
        simp only [refuseWaiter, advanceWaiter, known, hold, Table.find?_insert_self]
      by_cases again : name ∈ rest
      · exact ih told again
      · exact (find?_refuseAll again).trans told
    · have later : name ∈ rest := (List.mem_cons.mp here).resolve_left own
      exact ih ((find?_advanceWaiter_of_ne own).trans known) later

theorem lapses_closePool (orderly : Orderly s) :
    Lapses (s.holdings.find? name) (s.closePool.2.holdings.find? name) := by
  by_cases here : name ∈ s.pool.waiting
  · obtain ⟨wish, queued⟩ := (orderly.mem_waiting name).mp here
    have told : s.closePool.2.holdings.find? name =
        some (.waiter wish (.finished (.error .closed))) := by
      rw [closePool_eq]
      exact find?_refuseAll_of_mem (s := s.withSystem s.toSystem.close.2) queued here
    rw [told, queued]
    exact .refused wish
  · rw [find?_closePool here]
    exact .kept _

theorem lapses_resume_of_ne (orderly : Orderly s) (line : t.pool.waiting = s.pool.waiting)
    (same : t.holdings.find? name = s.holdings.find? name) (apart : name ≠ other) :
    Lapses (s.holdings.find? name) ((t.resume other).holdings.find? name) := by
  have told (u : Session) (thing : Holding) (line' : u.pool.waiting = s.pool.waiting)
      (same' : u.holdings = t.holdings) : Lapses (s.holdings.find? name)
        ((u.hold other thing).freeSlot.holdings.find? name) :=
    lapses_freeSlot orderly line' ((find?_hold_of_ne apart).trans (same' ▸ same))
  have still (u : Session) (thing : Holding) (same' : u.holdings = t.holdings) :
      Lapses (s.holdings.find? name) ((u.hold other thing).holdings.find? name) := by
    rw [find?_hold_of_ne apart, same', same]
    exact .kept _
  rw [resume]
  split
  · split
    · exact told t _ line rfl
    · split
      · exact still t _ rfl
      · rw [same]
        exact .kept _
      · next p _ _ =>
        have line' : (t.withSystem (p.checkout t.toSystem).2).pool.waiting = s.pool.waiting := by
          rw [withSystem, Provider.checkout_pool]
          exact line
        dsimp only
        cases (p.checkout t.toSystem).1 with
        | ready c | stalled c => exact still (t.withSystem (p.checkout t.toSystem).2) _ rfl
        | failed error => exact told (t.withSystem (p.checkout t.toSystem).2) _ line' rfl
  · rw [same]
    exact .kept _

/-! ### What a command makes of a name -/

theorem Orderly.absent (orderly : Orderly s) (known : s.holdings.find? name = some thing)
    (apart : thing.isQueued = false) : name ∉ s.pool.waiting := fun line =>
  not_queued_of_some known apart ((orderly.mem_waiting name).mp line)

/-- A thing is given up with its slot. -/
theorem becomes_parting (orderly : Orderly s) (known : s.holdings.find? other = some thing)
    (apart : thing.isQueued = false) (line : t.pool.waiting = s.pool.waiting)
    (holdings : t.holdings = s.holdings.erase other) :
    Becomes s name m (t.freeSlot.holdings.find? name) := by
  have lookup : t.holdings.find? name = if name = other then none else s.holdings.find? name := by
    rw [holdings, Table.find?_erase]
  by_cases own : name = other
  · subst own
    have absent : name ∉ t.pool.waiting := line ▸ orderly.absent known apart
    rw [find?_freeSlot absent, lookup, if_pos rfl]
    exact .gone
  · exact .lapsed (lapses_freeSlot orderly line (by rw [lookup, if_neg own]))

theorem becomes_discard (orderly : Orderly s) (known : s.holdings.find? other = some thing)
    (apart : thing.isQueued = false) (attended : Bool) (c : Connection) :
    Becomes s name m (((s.letGo other).discard attended c).freeSlot.holdings.find? name) := by
  cases attended <;> exact becomes_parting orderly known apart rfl rfl

theorem becomes_giveBack (orderly : Orderly s) (known : s.holdings.find? other = some thing)
    (apart : thing.isQueued = false) (attended : Bool) (c : Connection) :
    Becomes s name m (((s.letGo other).giveBack attended c).holdings.find? name) := by
  rw [giveBack]
  split
  · exact becomes_discard orderly known apart attended c
  · dsimp only
    split
    · exact becomes_discard orderly known apart attended _
    · exact becomes_parting orderly known apart rfl rfl

theorem becomes_letGo (holdings : t.holdings = s.holdings.erase other) :
    Becomes s name m (t.holdings.find? name) := by
  rw [holdings, Table.find?_erase]
  split
  · exact .gone
  · exact .lapsed (.kept _)

/-- What is put under a name, and nothing becomes of others. -/
theorem becomes_hold (holdings : t.holdings = s.holdings.insert other thing)
    (own : Becomes s other m (some thing)) : Becomes s name m (t.holdings.find? name) := by
  rw [holdings, Table.find?_insert]
  split
  · next same => exact same ▸ own
  · exact .lapsed (.kept _)

theorem becomes_setConnection (c : Connection) (holdings : t.holdings = s.holdings) :
    Becomes s name m ((t.setConnection other c).holdings.find? name) := by
  rw [setConnection]
  split
  · exact becomes_hold (by rw [hold, holdings]) (.guard c)
  · exact becomes_hold (by rw [hold, holdings]) (.bare c)
  · exact .kept (by rw [holdings])

theorem becomes_checkOut (orderly : Orderly s) (p : Provider) (noSlot : Answer) :
    Becomes s name m ((s.checkOut p other noSlot).2.holdings.find? name) := by
  have line : (p.checkout s.takeSlot.toSystem).2.pool.waiting = s.pool.waiting := by
    rw [Provider.checkout_pool]
    rfl
  rw [checkOut]
  split
  · exact .kept rfl
  · split
    · exact .kept rfl
    · dsimp only
      split
      · next c _ => exact becomes_hold rfl (.guard c)
      · exact .lapsed (lapses_freeSlot orderly line rfl)
      · exact .lapsed (lapses_freeSlot orderly line rfl)

theorem becomes_acquireSlot {command : Command} (noSlot : Answer)
    (asked : command = .acquire other ∨ command = .tryAcquire other) :
    Becomes s name (.command command) ((s.acquireSlot other noSlot).2.holdings.find? name) := by
  rw [acquireSlot]
  split
  · exact .kept rfl
  · split
    · exact .kept rfl
    · exact becomes_hold rfl (.slot (asked.imp (congrArg _) (congrArg _)))

theorem becomes_lineUp (wish : Wish) (fresh : s.holdings.find? other = none) :
    Becomes s name (.command (wish.command other)) ((s.lineUp wish other).holdings.find? name) := by
  rw [lineUp]
  split
  · exact becomes_hold rfl (.begun wish _ fresh (Or.inr (Or.inr rfl)))
  · split
    · exact becomes_hold rfl (.begun wish _ fresh (Or.inl rfl))
    · exact becomes_hold rfl (.begun wish _ fresh (Or.inr (Or.inl rfl)))

theorem becomes_collect {wish : Wish} {progress : Progress}
    (known : s.holdings.find? other = some (.waiter wish progress)) :
    Becomes s name m ((s.collect other progress).2.holdings.find? name) := by
  unfold collect
  split
  · next c => exact becomes_hold rfl (.guard c)
  · exact becomes_hold rfl (.collected known)
  · exact becomes_letGo rfl
  all_goals exact .kept rfl

theorem becomes_giveUp {wish : Wish} {progress : Progress} (orderly : Orderly s)
    (known : s.holdings.find? other = some (.waiter wish progress)) (attended : Bool) :
    Becomes s name m ((s.giveUp attended other progress).2.holdings.find? name) := by
  unfold giveUp
  split
  · exact becomes_letGo rfl
  · exact becomes_parting orderly known rfl rfl rfl
  · exact becomes_discard orderly known rfl attended _
  · exact becomes_giveBack orderly known rfl attended _
  · exact becomes_parting orderly known rfl rfl rfl
  · exact becomes_letGo rfl

theorem becomes_partWith (orderly : Orderly s) (known : s.holdings.find? other = some thing)
    (attended : Bool) :
    Becomes s name m ((s.partWith attended other thing).2.holdings.find? name) := by
  cases thing with
  | pooled c => exact becomes_giveBack orderly known rfl attended c
  | bare c => exact becomes_letGo rfl
  | slot => exact becomes_parting orderly known rfl rfl rfl
  | waiter wish progress => exact becomes_giveUp orderly known attended

theorem becomes_closeNow (orderly : Orderly s) (known : s.holdings.find? other = some thing) :
    Becomes s name m ((s.closeNow other thing).2.holdings.find? name) := by
  unfold closeNow
  split
  · dsimp only
    split <;> exact becomes_parting orderly known rfl rfl rfl
  · exact becomes_letGo rfl
  · exact .kept rfl
  · exact .kept rfl

theorem becomes_withProvider {use : Provider → Answer × Session}
    (each : ∀ p, Becomes s name m ((use p).2.holdings.find? name)) :
    Becomes s name m ((s.withProvider use).2.holdings.find? name) := by
  rw [withProvider]
  split
  · exact each _
  · exact .kept rfl

theorem becomes_withHolding {use : Holding → Answer × Session}
    (each : ∀ thing, s.holdings.find? other = some thing →
      Becomes s name m ((use thing).2.holdings.find? name)) :
    Becomes s name m ((s.withHolding other use).2.holdings.find? name) := by
  rw [withHolding]
  split
  · next thing known => exact each thing known
  · exact .kept rfl

theorem becomes_withConnection {use : Connection → Answer × Session}
    (each : ∀ c, Becomes s name m ((use c).2.holdings.find? name)) :
    Becomes s name m ((s.withConnection other use).2.holdings.find? name) := by
  rw [withConnection]
  split
  · exact each _
  · exact .kept rfl

theorem becomes_transact (call : Connection → Backend → Except Error Unit × Connection × Backend) :
    Becomes s name m ((s.transact other call).2.holdings.find? name) :=
  becomes_withConnection fun _ => becomes_setConnection _ rfl

theorem becomes_carryOut (orderly : Orderly s) (command : Command)
    (fresh : ∀ new, command.newName? = some new → s.holdings.find? new = none) :
    Becomes s name (.command command) ((s.carryOut command).2.holdings.find? name) := by
  cases command with
  | get other =>
    exact becomes_withProvider fun p => by
      rw [orderly.unlessClosed_checkOut]
      exact becomes_checkOut orderly p _
  | tryGet other => exact becomes_withProvider fun p => becomes_checkOut orderly p _
  | acquire other =>
    rw [carryOut, orderly.unlessClosed_acquireSlot]
    exact becomes_acquireSlot _ (Or.inl rfl)
  | tryAcquire other => exact becomes_acquireSlot _ (Or.inr rfl)
  | waitGet other =>
    exact becomes_withProvider fun _ => becomes_lineUp .connection (fresh other rfl)
  | waitAcquire other => exact becomes_lineUp .slot (fresh other rfl)
  | poll other =>
    refine becomes_withHolding fun thing known => ?_
    cases thing with
    | waiter wish progress => exact becomes_collect known
    | _ => exact .kept rfl
  | cancel other =>
    refine becomes_withHolding fun thing known => ?_
    cases thing with
    | waiter wish progress => exact becomes_partWith orderly known true
    | _ => exact .kept rfl
  | newConnection other =>
    refine becomes_withProvider fun p => ?_
    split
    · next c _ _ => exact becomes_hold rfl (.bare c)
    · exact .kept rfl
  | openDirect other driver dsn =>
    rw [carryOut]
    split
    · exact becomes_hold rfl (.bare _)
    · exact .kept rfl
  | dequeue other =>
    rw [carryOut]
    split
    · next c _ _ => exact becomes_hold rfl (.bare c)
    · exact .kept rfl
  | closeProvider => exact becomes_withProvider fun _ => .lapsed (lapses_closePool orderly)
  | closePool =>
    rw [carryOut]
    dsimp only
    rw [forsakeAll_eq]
    exact .lapsed (lapses_closePool orderly)
  | release other =>
    refine becomes_withHolding fun thing known => ?_
    cases thing with
    | pooled c => exact becomes_partWith orderly known true
    | _ => exact .kept rfl
  | drop other =>
    refine becomes_withHolding fun thing known => ?_
    cases thing with
    | waiter wish progress => exact .kept rfl
    | _ => exact becomes_partWith orderly known true
  | dropUnattended other =>
    refine becomes_withHolding fun thing known => ?_
    cases thing with
    | pooled c =>
      dsimp only
      split
      · exact becomes_partWith orderly known false
      · exact .kept rfl
    | _ => exact .kept rfl
  | abandon other => exact becomes_withHolding fun _ known => becomes_partWith orderly known false
  | closeNow other => exact becomes_withHolding fun _ known => becomes_closeNow orderly known
  | detach other bareName =>
    refine becomes_withHolding fun thing known => ?_
    cases thing with
    | pooled c =>
      have free : s.holdings.find? bareName = none := fresh bareName rfl
      by_cases own : name = bareName
      · subst own
        have absent : name ∉ s.pool.waiting := fun line =>
          not_queued_of_none free ((orderly.mem_waiting name).mp line)
        rw [find?_freeSlot (s := (s.letGo other).hold name (.bare c)) absent, hold,
          Table.find?_insert_self]
        exact .bare c
      · by_cases left : name = other
        · subst left
          have absent : name ∉ s.pool.waiting := orderly.absent known rfl
          rw [find?_freeSlot (s := (s.letGo name).hold bareName (.bare c)) absent,
            find?_hold_of_ne own, letGo, Table.find?_erase, if_pos rfl]
          exact .gone
        · exact .lapsed (lapses_freeSlot (t := (s.letGo other).hold bareName (.bare c)) orderly rfl
            ((find?_hold_of_ne own).trans (find?_letGo_of_ne left)))
    | _ => exact .kept rfl
  | enqueue other =>
    refine becomes_withHolding fun thing known => ?_
    cases thing with
    | bare c =>
      dsimp only
      split
      · exact .kept rfl
      · exact becomes_letGo rfl
    | _ => exact .kept rfl
  | beginTransaction other | commit other | rollback other => exact becomes_transact _
  | execute other statement =>
    refine becomes_withConnection fun c => ?_
    dsimp only
    split <;> exact .kept rfl
  | ping other =>
    refine becomes_withConnection fun c => ?_
    dsimp only
    split <;> exact .kept rfl
  | setLastUsed other now => exact becomes_withConnection fun _ => becomes_setConnection _ rfl
  | describe other =>
    rw [carryOut]
    split <;> exact .kept rfl
  | native other kind statement =>
    refine becomes_withConnection fun c => ?_
    dsimp only
    split <;> exact .kept rfl
  | nativeBegin other commit =>
    refine becomes_withConnection fun c => ?_
    dsimp only
    split <;> exact .kept rfl
  | inspect other | nativeClose other | tune other tuning =>
    exact becomes_withConnection fun _ => .kept rfl
  | describeProvider => exact becomes_withProvider fun _ => .kept rfl
  | describePool | advance time | setFault fault on | failStatement statement => exact .kept rfl

/-- What becomes of a waiter whose turn it is. -/
theorem becomes_resume {place : Nat} (orderly : Orderly s)
    (due : s.agenda[place]? = some (.resume name)) : Becomes s name (.work place)
      (({ s with agenda := s.agenda.eraseIdx place }.resume name).holdings.find? name) := by
  rw [resume]
  split
  · next wish granted =>
    have absent : name ∉ s.pool.waiting := orderly.absent granted rfl
    by_cases shut : s.pool.barred
    · simp only [shut, if_true]
      have told := (find?_freeSlot (s := Session.hold { s with agenda := s.agenda.eraseIdx place }
        name (.waiter wish (.finished (.error .closed)))) absent).trans
        (Table.find?_insert_self _ _ _)
      rw [told]
      exact .late granted
    · simp only [shut, Bool.false_eq_true, if_false]
      cases wish with
      | slot =>
        rw [hold, Table.find?_insert_self]
        exact .content granted
      | connection =>
        cases serving : s.provider with
        | none => exact .kept rfl
        | some p =>
          have goes : s.goingOn name = .checkout p := by simp [goingOn, granted, serving, shut]
          have line : (p.checkout s.toSystem).2.pool.waiting = s.pool.waiting := by
            rw [Provider.checkout_pool]
          dsimp only
          rw [find?_deliver (line ▸ absent)]
          exact .served granted due goes
  · exact .kept rfl

/-- A move makes of a name what it can, and nothing else. -/
theorem becomes (orderly : Orderly s) (name : String) (m : Move) :
    Becomes s name m ((s.move m).holdings.find? name) := by
  cases m with
  | command command =>
    unfold move obey
    dsimp only
    split
    · exact .kept rfl
    · next free =>
      apply becomes_carryOut orderly
      intro new makes
      rw [makes] at free
      simpa [Table.contains] using free
  | work place =>
    rw [move, doWork]
    split
    · next task due =>
      cases task with
      | retire c => exact .kept rfl
      | resume other =>
        by_cases own : name = other
        · subst own
          exact becomes_resume orderly due
        · exact .lapsed (lapses_resume_of_ne
            (t := { s with agenda := s.agenda.eraseIdx place }) orderly rfl rfl own)
    · exact .kept rfl

end Session
end Datastore
