import Datastore.Proofs.Session.Act

/-!
# Moves as acts

Slots, the line and holdings apart, a move is its act. So what a run does to the backend, the idle
queue, the clock and the journal can be read off its acts. Main statement: `move_act`.
-/

namespace Datastore

/-- The system without its slots and its line. -/
def System.core (s : System) : System := { s with pool := { s.pool with free := 0, waiting := [] } }

/-! ### Checkouts do not see slots -/

namespace Provider

variable (p : Provider) (s : System) (pool : Pool)

theorem manufacture_withPool : p.manufacture { s with pool } =
    ((p.manufacture s).1, { (p.manufacture s).2 with pool }) := by
  unfold manufacture
  cases p.config.dsn with
  | error error => rfl
  | ok dsn =>
    cases p.drivers.find? p.config.driverName with
    | none => rfl
    | some driver =>
      rcases opened : s.backend.openHandle dsn with ⟨_ | handle, backend⟩
      · simp only [opened]
      · simp only [opened]
        rcases p.initialise handle p.config.initSql backend with ⟨_ | _, backend'⟩ <;> rfl

theorem examine_withPool (c : Connection) : examine { s with pool } c =
    ((examine s c).1, { (examine s c).2 with pool }) := by
  unfold examine
  dsimp only
  split <;> rfl

theorem checkoutNew_withPool : p.checkoutNew { s with pool } =
    ((p.checkoutNew s).1, { (p.checkoutNew s).2 with pool }) := by
  unfold checkoutNew
  rw [manufacture_withPool]
  rcases p.manufacture s with ⟨_ | _, after⟩ <;> rfl

theorem recycle_withPool (c : Connection) : p.recycle { s with pool } c =
    ((p.recycle s c).1, { (p.recycle s c).2 with pool }) := by
  unfold recycle
  rw [examine_withPool]
  rcases examine s c with ⟨finding, after⟩
  cases finding with
  | failed =>
    exact p.checkoutNew_withPool
      ({ after with backend := c.tune p.tuning after.backend }.retire c).2 pool
  | _ => rfl

theorem checkout_core : p.checkout s.core = ((p.checkout s).1, (p.checkout s).2.core) := by
  have same : (p.checkout s).2.core =
      { (p.checkout s).2 with pool := { s.core.pool with idle := s.pool.idle.tail } } := by
    rw [System.core, checkout_pool]
    rfl
  have idle : s.core.pool.idle = s.pool.idle := rfl
  rw [same]
  unfold checkout
  rw [idle]
  cases line : s.pool.idle with
  | nil =>
    have empty : { s.core.pool with idle := [] } = s.core.pool := by
      rw [← line]
      rfl
    rw [List.tail_nil, empty]
    exact p.checkoutNew_withPool s s.core.pool
  | cons c rest =>
    exact p.recycle_withPool ({ s with pool := { s.pool with idle := rest } }.note (.taken c))
      { s.core.pool with idle := rest } c

end Provider

/-! ### Moves -/

namespace Session

variable (s : Session)

@[simp] theorem core_hold (name : String) (thing : Holding) :
    (s.hold name thing).core = s.core := rfl

@[simp] theorem core_freeSlot : s.freeSlot.core = s.core := by
  rw [freeSlot]
  split
  · rfl
  · rw [advanceWaiter]
    split <;> rfl

theorem backend_freeSlot : s.freeSlot.backend = s.backend := by
  have same := congrArg System.backend s.core_freeSlot
  exact same

/-- To discard a connection tells the driver nothing yet. -/
theorem backend_discard (attended : Bool) (c : Connection) :
    (s.discard attended c).freeSlot.backend = s.backend := by
  rw [backend_freeSlot]
  cases attended <;> rfl

theorem core_discard (attended : Bool) (c : Connection) :
    (s.discard attended c).core = (s.toSystem.enact (discarding attended c)).core := by
  cases attended <;> rfl

theorem core_giveBack (attended : Bool) (c : Connection) :
    (s.giveBack attended c).core = (s.toSystem.enact (s.givingBack attended c)).core := by
  rw [giveBack, core_freeSlot, givingBack]
  by_cases active : c.inTransaction
  · simp only [active, if_true]
    exact s.core_discard attended c
  · by_cases shut : s.pool.closed
    · simp only [active, shut, Bool.false_eq_true, if_false, if_true]
      exact s.core_discard attended _
    · simp only [active, shut, Bool.false_eq_true, if_false]
      rfl

theorem core_checkout (p : Provider) {x : System} (same : x.core = s.core) :
    (p.checkout x).2.core = (p.checkout s.toSystem).2.core := by
  have first := congrArg Prod.snd (p.checkout_core x)
  have second := congrArg Prod.snd (p.checkout_core s.toSystem)
  rw [same] at first
  exact first.symm.trans second

theorem core_checkOut {p : Provider} (served : s.provider = some p) (name : String)
    (noSlot : Answer) :
    (s.checkOut p name noSlot).2.core = (s.toSystem.enact s.checkingOut).core := by
  rw [checkOut, checkingOut, served]
  by_cases shut : s.pool.barred
  · simp only [shut, Bool.true_or, if_true]
    rfl
  by_cases busy : s.pool.free = 0
  · simp only [shut, busy, decide_true, Bool.or_true, Bool.false_eq_true, if_false, if_true]
    rfl
  simp only [shut, busy, decide_false, Bool.or_false, Bool.false_eq_true, if_false]
  have same := s.core_checkout p (x := s.takeSlot.toSystem) rfl
  split
  · exact same
  · exact (core_freeSlot _).trans same
  · exact (core_freeSlot _).trans same

theorem core_acquireSlot (name : String) (noSlot : Answer) :
    (s.acquireSlot name noSlot).2.core = s.core := by
  rw [acquireSlot]
  split
  · rfl
  · split <;> rfl

theorem core_lineUp (wish : Wish) (name : String) : (s.lineUp wish name).core = s.core := by
  rw [lineUp]
  split
  · rfl
  · split <;> rfl

theorem core_collect (name : String) (progress : Progress) :
    (s.collect name progress).2.core = s.core := by
  unfold collect
  split <;> rfl

theorem core_setConnection (name : String) (c : Connection) :
    (s.setConnection name c).core = s.core := by
  rw [setConnection]
  split <;> rfl

theorem core_partWith (attended : Bool) (name : String) (thing : Holding) :
    (s.partWith attended name thing).2.core =
      (s.toSystem.enact (s.parting attended thing)).core := by
  cases thing with
  | pooled c => exact core_giveBack (s.letGo name) attended c
  | bare c => rfl
  | slot => exact core_freeSlot _
  | waiter wish progress =>
    rw [partWith]
    unfold giveUp
    split
    · rfl
    · exact core_freeSlot _
    · next c => exact (core_freeSlot _).trans (core_discard (s.letGo name) attended c)
    · exact core_giveBack (s.letGo name) attended _
    · exact core_freeSlot _
    · rfl

theorem core_closeNow {name : String} {thing : Holding}
    (known : s.holdings.find? name = some thing) :
    (s.closeNow name thing).2.core = (s.toSystem.enact (s.commandAct (.closeNow name))).core := by
  unfold closeNow
  split
  · next c =>
    have retired : ((s.letGo name).withSystem (s.toSystem.retire c).2).freeSlot.core =
        (s.toSystem.retire c).2.core := core_freeSlot _
    simp only [commandAct, connection?, known]
    split <;> exact retired
  · simp only [commandAct, connection?, known]
    rfl
  · simp only [commandAct, connection?, known]
    rfl
  · simp only [commandAct, connection?, known]
    rfl

theorem core_resume (name : String) :
    (s.resume name).core = (s.toSystem.enact (s.goingOn name)).core := by
  rw [resume, goingOn]
  split
  · next wish known =>
    rw [known]
    by_cases shut : s.pool.barred
    · simp only [shut, if_true]
      have told := core_freeSlot (s.hold name (.waiter wish (.finished (.error .closed))))
      cases wish <;> cases s.provider <;> exact told
    · simp only [shut, Bool.false_eq_true, if_false]
      cases wish with
      | slot => cases s.provider <;> rfl
      | connection =>
        cases s.provider with
        | none => rfl
        | some p =>
          dsimp only
          cases (p.checkout s.toSystem).1 with
          | ready c => rfl
          | stalled c => rfl
          | failed error => exact core_freeSlot _
  · next idle =>
    split
    · next known _ => exact absurd known (idle _)
    · rfl

theorem toSystem_forsakeAll (cs : List Connection) :
    (cs.foldl (fun s c => s.note (.forsaken c)) s).toSystem = s.toSystem.forsakeAll cs := by
  induction cs generalizing s with
  | nil => rfl
  | cons c rest ih => exact ih _

theorem core_transact (name : String) {request : Request}
    {call : Connection → Backend → Except Error Unit × Connection × Backend}
    (serves : ∀ c b, request.serve c b = (call c b).2.2) :
    (s.transact name call).2.core = (s.toSystem.enact (s.asking name request)).core := by
  rw [transact, withConnection, asking]
  cases s.connection? name with
  | none => rfl
  | some c =>
    refine (core_setConnection _ name _).trans ?_
    simp only [System.enact, serves]

theorem carryOut_act (command : Command) :
    (s.carryOut command).2.core = (s.toSystem.enact (s.commandAct command)).core := by
  cases command with
  | get name =>
    simp only [carryOut, withProvider, commandAct, unlessClosed]
    split
    · next p served =>
      split
      · rfl
      · exact s.core_checkOut served name _
    · next none =>
      rw [checkingOut, none]
      split <;> rfl
  | tryGet name =>
    simp only [carryOut, withProvider, commandAct]
    split
    · next p served => exact s.core_checkOut served name _
    · next none =>
      rw [checkingOut, none]
      rfl
  | acquire name =>
    simp only [carryOut, unlessClosed]
    split
    · rfl
    · exact s.core_acquireSlot name _
  | tryAcquire name => exact s.core_acquireSlot name _
  | waitGet name =>
    simp only [carryOut, withProvider]
    split
    · exact s.core_lineUp .connection name
    · rfl
  | waitAcquire name => exact s.core_lineUp .slot name
  | poll name =>
    simp only [carryOut, withHolding]
    split
    · split
      · exact s.core_collect name _
      · rfl
    · rfl
  | cancel name =>
    simp only [carryOut, withHolding]
    split
    · next thing known =>
      cases thing with
      | waiter wish progress =>
        simp only [commandAct, known]
        exact s.core_partWith true name _
      | _ =>
        simp only [commandAct, known]
        rfl
    · next unknown =>
      simp only [commandAct, unknown]
      rfl
  | newConnection name =>
    simp only [carryOut, withProvider, commandAct]
    cases s.provider with
    | none => rfl
    | some p =>
      simp only [System.enact]
      rcases p.manufacture s.toSystem with ⟨_ | _, after⟩ <;> rfl
  | openDirect name driver dsn =>
    simp only [carryOut, commandAct, System.enact, System.openDirect]
    rcases s.backend.openHandle dsn with ⟨_ | _, after⟩ <;> rfl
  | dequeue name =>
    simp only [carryOut, commandAct, System.enact, System.withdraw]
    cases s.pool.idle <;> rfl
  | closeProvider =>
    simp only [carryOut, withProvider, commandAct]
    cases s.provider with
    | none => rfl
    | some p =>
      simp only [Option.isSome_some, if_true, System.enact, withSystem]
      rw [toSystem_closePool]
      rfl
  | closePool =>
    simp only [carryOut, commandAct, System.enact]
    rw [toSystem_forsakeAll, toSystem_closePool]
    rfl
  | describeProvider =>
    simp only [carryOut, withProvider]
    split <;> rfl
  | release name =>
    simp only [carryOut, withHolding, commandAct]
    split
    · next thing known =>
      rw [known]
      cases thing with
      | pooled c => exact s.core_partWith true name (.pooled c)
      | _ => rfl
    · next unknown =>
      rw [unknown]
      rfl
  | drop name =>
    simp only [carryOut, withHolding, commandAct]
    split
    · next thing known =>
      rw [known]
      cases thing with
      | waiter wish progress => rfl
      | _ => exact s.core_partWith true name _
    · next unknown =>
      rw [unknown]
      rfl
  | dropUnattended name =>
    simp only [carryOut, withHolding, commandAct]
    split
    · next thing known =>
      rw [known]
      cases thing with
      | pooled c =>
        dsimp only
        split
        · exact s.core_partWith false name (.pooled c)
        · rfl
      | _ => rfl
    · next unknown =>
      rw [unknown]
      rfl
  | abandon name =>
    simp only [carryOut, withHolding]
    split
    · next thing known =>
      simp only [commandAct, known]
      exact s.core_partWith false name thing
    · next unknown =>
      simp only [commandAct, unknown]
      rfl
  | closeNow name =>
    simp only [carryOut, withHolding]
    split
    · next thing known => exact s.core_closeNow known
    · next unknown =>
      simp only [commandAct, connection?, unknown]
      rfl
  | detach name bareName =>
    simp only [carryOut, withHolding]
    split
    · split
      · exact core_freeSlot _
      · rfl
    · rfl
  | enqueue name =>
    simp only [carryOut, withHolding, commandAct]
    split
    · next thing known =>
      rw [known]
      cases thing with
      | bare c =>
        dsimp only
        split <;> rfl
      | _ => rfl
    · next unknown =>
      rw [unknown]
      rfl
  | beginTransaction name | commit name | rollback name =>
    exact s.core_transact name fun _ _ => rfl
  | execute name statement =>
    simp only [carryOut, execute, withConnection, commandAct, asking]
    cases s.connection? name with
    | none => rfl
    | some c =>
      dsimp only
      split <;> rfl
  | native name kind statement =>
    simp only [carryOut, native, withConnection, commandAct, asking]
    cases s.connection? name with
    | none => rfl
    | some c =>
      cases kind with
      | database => rfl
      | transaction => cases active : c.inTransaction <;> simp [System.enact, Request.serve, active]
  | nativeBegin name commits =>
    simp only [carryOut, nativeBegin, withConnection, commandAct, asking]
    cases s.connection? name with
    | none => rfl
    | some c =>
      simp only [System.enact, Request.serve]
      rcases s.backend.beginTransaction c.handle with ⟨_ | _, after⟩
      · rfl
      · cases commits <;> rfl
  | nativeClose name | tune name tuning =>
    simp only [carryOut, withConnection, commandAct, asking]
    cases s.connection? name <;> rfl
  | ping name =>
    simp only [carryOut, ping, withConnection, commandAct]
    cases s.connection? name with
    | none => rfl
    | some c =>
      dsimp only
      split <;> rfl
  | setLastUsed name now =>
    simp only [carryOut, withConnection, commandAct]
    split
    · exact s.core_setConnection name _
    · rfl
  | inspect name =>
    simp only [carryOut, withConnection]
    split <;> rfl
  | describe name =>
    simp only [carryOut]
    split <;> rfl
  | describePool | advance time | setFault fault on | failStatement statement => rfl

/-- Slots, the line and holdings apart, a move is its act. -/
theorem move_act (m : Move) : (s.move m).core = (s.toSystem.enact (s.act m)).core := by
  cases m with
  | command command =>
    simp only [move, obey, act]
    split
    · rfl
    · exact s.carryOut_act command
  | work place =>
    simp only [move, doWork, act]
    split
    · next task due =>
      rw [due]
      cases task with
      | retire c => rfl
      | resume name => exact core_resume { s with agenda := s.agenda.eraseIdx place } name
    · next none =>
      rw [none]
      rfl

theorem idle_move (m : Move) :
    (s.move m).pool.idle = (s.toSystem.enact (s.act m)).pool.idle := by
  have same := congrArg (fun x : System => x.pool.idle) (s.move_act m)
  exact same

theorem closed_move (m : Move) :
    (s.move m).pool.closed = (s.toSystem.enact (s.act m)).pool.closed := by
  have same := congrArg (fun x : System => x.pool.closed) (s.move_act m)
  exact same

theorem backend_move (m : Move) : (s.move m).backend = (s.toSystem.enact (s.act m)).backend := by
  have same := congrArg System.backend (s.move_act m)
  exact same

theorem history_move {α : Type} (m : Move) (matter : Movement → Option α) :
    (s.move m).history matter = (s.toSystem.enact (s.act m)).history matter := by
  have same := congrArg (fun x : System => x.history matter) (s.move_act m)
  exact same

end Session
end Datastore
