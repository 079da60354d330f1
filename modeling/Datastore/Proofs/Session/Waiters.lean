import Datastore.Proofs.Session.Turns

/-!
# Waiters

A waiter that was given a slot is due: what it has to do is on the agenda. So once all work is done
no waiter has a slot without having used it. And what a waiter got stays with it until its caller
collects it or gives the waiter up, whatever other commands do. Main statements:
`Attended.not_granted`, `find?_move`, `find?_after`.
-/

namespace Datastore.Session

/-- Whoever was given a slot is due, and whoever is served a connection has a provider. -/
structure Attended (s : Session) : Prop where
  due : ∀ name wish, s.holdings.find? name = some (.waiter wish .granted) →
    .resume name ∈ s.agenda
  served : ∀ name progress, s.holdings.find? name = some (.waiter .connection progress) →
    progress = .queued ∨ progress = .granted → s.provider ≠ none

theorem attended_start (backend : Backend) (pool : Pool) (provider : Option Provider) :
    Attended (start backend pool provider) where
  due := by simp [start]
  served := by simp [start]

/-- One name is put to another use, which is not that of a waiter without a slot of its own. -/
theorem Attended.of_change {s s' : Session} {name : String} {now : Option Holding}
    (attended : Attended s) (provider : s'.provider = s.provider) (agenda : s'.agenda = s.agenda)
    (settled : ∀ thing, now = some thing → thing.isSettled = true)
    (change : ∀ other, s'.holdings.find? other =
      if other = name then now else s.holdings.find? other) : Attended s' where
  due := by
    intro other wish known
    rw [change] at known
    split at known
    · cases settled _ known
    · rw [agenda]
      exact attended.due other wish known
  served := by
    intro other progress known waits
    rw [change] at known
    split at known
    · have used := settled _ known
      rcases waits with rfl | rfl <;> cases used
    · rw [provider]
      exact attended.served other progress known waits

theorem attended_freeSlot {s : Session} (orderly : Orderly s) (attended : Attended s) :
    Attended s.freeSlot := by
  rcases freeSlot_cases orderly with ⟨-, same⟩ | ⟨name, rest, wish, -, known, same⟩
  · rw [same]
    exact ⟨attended.due, attended.served⟩
  · rw [same]
    constructor
    · intro other wish' known'
      by_cases first : other = name
      · simp [putOff, first]
      · simp only [putOff, hold, Table.find?_insert_of_ne _ _ first] at known'
        exact List.mem_append_left _ (attended.due other wish' known')
    · intro other progress known' waits
      by_cases first : other = name
      · subst first
        simp only [putOff, hold, Table.find?_insert_self, Option.some.injEq,
          Holding.waiter.injEq] at known'
        obtain ⟨rfl, -⟩ := known'
        exact attended.served other .queued known (Or.inl rfl)
      · simp only [putOff, hold, Table.find?_insert_of_ne _ _ first] at known'
        exact attended.served other progress known' waits

/-- A new waiter is due at once, or in line. -/
theorem attended_newcomer {s : Session} (attended : Attended s) {name : String} {wish : Wish}
    {progress : Progress} {agenda : List Task} (pool : Pool)
    (served : wish = .connection → s.provider ≠ none) (grows : ∀ task ∈ s.agenda, task ∈ agenda)
    (due : progress = .granted → .resume name ∈ agenda) :
    Attended { s.hold name (.waiter wish progress) with pool, agenda } := by
  constructor
  · intro other wish' known
    by_cases first : other = name
    · subst first
      simp only [hold, Table.find?_insert_self, Option.some.injEq, Holding.waiter.injEq] at known
      exact due known.2
    · simp only [hold, Table.find?_insert_of_ne _ _ first] at known
      exact grows _ (attended.due other wish' known)
  · intro other progress' known waits
    by_cases first : other = name
    · subst first
      simp only [hold, Table.find?_insert_self, Option.some.injEq, Holding.waiter.injEq] at known
      exact served known.1
    · simp only [hold, Table.find?_insert_of_ne _ _ first] at known
      exact attended.served other progress' known waits

theorem Shuffle.attended {origin : Session} {d d' : Midway Session} (shuffle : Shuffle origin d d')
    (orderly : Orderly d.state) (attended : Attended d.state) : Attended d'.state := by
  cases shuffle with
  | claimed isOpen some => exact ⟨attended.due, attended.served⟩
  | freed => exact attended_freeSlot orderly attended
  | put thing fresh settled =>
    exact attended.of_change rfl rfl (fun _ h => Option.some.inj h ▸ settled)
      fun other => Table.find?_insert _ _ other _
  | lifted known apart =>
    exact attended.of_change rfl rfl (fun _ h => by cases h)
      fun other => Table.find?_erase _ _ other
  | exchanged new known apart settled =>
    exact attended.of_change rfl rfl (fun _ h => Option.some.inj h ▸ settled)
      fun other => Table.find?_insert _ _ other _
  | @welcomed s n e o q l name wish vacant fresh served =>
    exact attended_newcomer attended s.pool served (fun _ => List.mem_append_left _)
      fun _ => by simp
  | joined wish new fresh isOpen busy served =>
    exact attended_newcomer attended _ served (fun _ => id) fun h => by cases h
  | left known =>
    exact attended.of_change rfl rfl (fun _ h => by cases h)
      fun other => Table.find?_erase _ _ other
  | @dismissed s n e o q l place name due past =>
    refine ⟨fun other wish known => ?_, attended.served⟩
    have here := attended.due other wish known
    by_cases same : other = name
    · subst same
      refine (past wish known).resolve_left ?_
      rintro ⟨rfl, none⟩
      exact attended.served other .granted known (Or.inr rfl) none
    · obtain ⟨i, task⟩ := List.mem_iff_getElem?.mp here
      refine List.mem_eraseIdx_iff_getElem?.mpr ⟨i, ?_, task⟩
      rintro rfl
      rw [due] at task
      exact same (Task.resume.inj (Option.some.inj task)).symm

theorem Effect.attended {origin : Session} {m : Move} {d d' : Midway Session}
    (effect : Effect origin m d d') (orderly : Orderly d.state) (attended : Attended d.state) :
    Attended d'.state := by
  cases effect with
  | system effect => exact ⟨attended.due, attended.served⟩
  | shuffled shuffle => exact shuffle.attended orderly attended
  | @shut s =>
    obtain ⟨t, same, others, refused, -⟩ := closePool_spec orderly
    -- Whoever was in line is refused, and nobody else is concerned.
    have kept {name : String} {wish : Wish} {progress : Progress}
        (known : t.find? name = some (.waiter wish progress))
        (waits : progress = .queued ∨ progress = .granted) :
        s.holdings.find? name = some (.waiter wish progress) := by
      by_cases line : name ∈ s.pool.waiting
      · obtain ⟨wish', now⟩ := refused name line
        rw [now] at known
        rcases waits with rfl | rfl <;> cases known
      · rwa [others name line] at known
    rw [same]
    exact ⟨fun name wish known => attended.due name wish (kept known (Or.inr rfl)),
      fun name progress known waits => attended.served name progress (kept known waits) waits⟩
  | discarded c =>
    exact ⟨fun name wish known => List.mem_append_left _ (attended.due name wish known),
      attended.served⟩
  | @buried s n e o q l place c due =>
    refine ⟨fun name wish known => ?_, attended.served⟩
    obtain ⟨i, task⟩ := List.mem_iff_getElem?.mp (attended.due name wish known)
    refine List.mem_eraseIdx_iff_getElem?.mpr ⟨i, ?_, task⟩
    rintro rfl
    rw [due] at task
    cases task
  | enqueued asked bare isOpen => exact ⟨attended.due, attended.served⟩
  | severed asked known => exact ⟨attended.due, attended.served⟩

theorem Attended.after {s : Session} (orderly : Orderly s) (attended : Attended s)
    (moves : List Move) : Attended (s.after moves) :=
  (admitted_everything s moves).sustains (I := fun d => Attended d.state)
    (fun _ _ _ _ _ effect there now => effect.attended there now) orderly attended

/-- Once all work is done, nobody has a slot without having used it. -/
theorem Attended.not_granted {s : Session} (attended : Attended s) (done : s.agenda = [])
    (name : String) : ¬ s.Granted name := by
  rintro ⟨wish, known⟩
  have due := attended.due name wish known
  rw [done] at due
  cases due

theorem provider_freeSlot (s : Session) : s.freeSlot.provider = s.provider := by
  rw [freeSlot]
  split
  · rfl
  · rw [advanceWaiter]
    split <;> rfl

theorem Shuffle.provider {origin : Session} {d d' : Midway Session}
    (shuffle : Shuffle origin d d') : d'.state.provider = d.state.provider := by
  cases shuffle with
  | freed => exact provider_freeSlot _
  | _ => rfl

theorem Effect.provider {origin : Session} {m : Move} {d d' : Midway Session}
    (effect : Effect origin m d d') (orderly : Orderly d.state) :
    d'.state.provider = d.state.provider := by
  cases effect with
  | shuffled shuffle => exact shuffle.provider
  | shut =>
    obtain ⟨t, same, -⟩ := closePool_spec orderly
    rw [same]
    rfl
  | _ => rfl

/-- A session keeps its provider. -/
theorem provider_after {s : Session} (orderly : Orderly s) (moves : List Move) :
    (s.after moves).provider = s.provider :=
  (admitted_everything s moves).sustains (I := fun d => d.state.provider = s.provider)
    (fun _ _ _ _ _ effect there now => (effect.provider there).trans now) orderly rfl

/-! ### Left alone -/

variable {s : Session} {name other : String} {thing : Holding} {wish : Wish} {progress : Progress}

theorem find?_hold_of_ne (apart : name ≠ other) :
    (s.hold other thing).holdings.find? name = s.holdings.find? name :=
  Table.find?_insert_of_ne _ _ apart

theorem find?_letGo_of_ne (apart : name ≠ other) :
    (s.letGo other).holdings.find? name = s.holdings.find? name := by
  rw [letGo, Table.find?_erase, if_neg apart]

theorem find?_advanceWaiter_of_ne (apart : name ≠ other) :
    (s.advanceWaiter other progress).holdings.find? name = s.holdings.find? name := by
  rw [advanceWaiter]
  split
  · exact find?_hold_of_ne apart
  · rfl

/-- Only the first in line takes notice of a free slot. -/
theorem find?_freeSlot (absent : name ∉ s.pool.waiting) :
    s.freeSlot.holdings.find? name = s.holdings.find? name := by
  rw [freeSlot]
  split
  · rfl
  · next first rest line =>
    have apart : name ≠ first := fun h => absent (by simp [line, h])
    exact find?_advanceWaiter_of_ne apart

theorem find?_discard (attended : Bool) (c : Connection) (absent : name ∉ s.pool.waiting) :
    (s.discard attended c).freeSlot.holdings.find? name = s.holdings.find? name := by
  cases attended with
  | true => exact find?_freeSlot (s := s.discard true c) absent
  | false => exact find?_freeSlot (s := s.discard false c) absent

theorem find?_giveBack (attended : Bool) (c : Connection) (absent : name ∉ s.pool.waiting) :
    (s.giveBack attended c).holdings.find? name = s.holdings.find? name := by
  rw [giveBack]
  split
  · exact find?_discard attended c absent
  · dsimp only
    split
    · exact find?_discard attended _ absent
    · exact find?_freeSlot absent

theorem find?_refuseAll {names : List String} (absent : name ∉ names) :
    (s.refuseAll names).holdings.find? name = s.holdings.find? name := by
  induction names generalizing s with
  | nil => rfl
  | cons first rest ih =>
    rw [List.mem_cons, not_or] at absent
    exact (ih absent.2).trans (find?_advanceWaiter_of_ne absent.1)

theorem find?_closePool (absent : name ∉ s.pool.waiting) :
    s.closePool.2.holdings.find? name = s.holdings.find? name := by
  rw [closePool_eq]
  exact find?_refuseAll absent

theorem find?_checkOut (p : Provider) (noSlot : Answer) (apart : name ≠ other)
    (absent : name ∉ s.pool.waiting) :
    (s.checkOut p other noSlot).2.holdings.find? name = s.holdings.find? name := by
  have absent' : name ∉ (p.checkout s.takeSlot.toSystem).2.pool.waiting := by
    rw [Provider.checkout_pool]
    exact absent
  rw [checkOut]
  split
  · rfl
  · split
    · rfl
    · dsimp only
      split
      · exact find?_hold_of_ne apart
      · exact find?_freeSlot (s := s.takeSlot.withSystem _) absent'
      · exact find?_discard (s := s.takeSlot.withSystem _) true _ absent'

theorem find?_acquireSlot (noSlot : Answer) (apart : name ≠ other) :
    (s.acquireSlot other noSlot).2.holdings.find? name = s.holdings.find? name := by
  rw [acquireSlot]
  split
  · rfl
  · split
    · rfl
    · exact find?_hold_of_ne apart

theorem find?_lineUp (apart : name ≠ other) :
    (s.lineUp wish other).holdings.find? name = s.holdings.find? name := by
  rw [lineUp]
  split
  · exact find?_hold_of_ne apart
  · split <;> exact find?_hold_of_ne apart

theorem find?_collect (apart : name ≠ other) :
    (s.collect other progress).2.holdings.find? name = s.holdings.find? name := by
  unfold collect
  split
  · exact find?_hold_of_ne apart
  · exact find?_hold_of_ne apart
  · exact find?_letGo_of_ne apart
  · rfl
  · rfl
  · rfl

theorem find?_partWith (attended : Bool) (apart : name ≠ other) (absent : name ∉ s.pool.waiting) :
    (s.partWith attended other thing).2.holdings.find? name = s.holdings.find? name := by
  have gone := find?_letGo_of_ne (s := s) apart
  cases thing with
  | pooled c => exact (find?_giveBack (s := s.letGo other) attended c absent).trans gone
  | bare c => exact gone
  | slot => exact (find?_freeSlot (s := s.letGo other) absent).trans gone
  | waiter wish progress =>
    rw [partWith]
    unfold giveUp
    split
    · exact gone
    · exact (find?_freeSlot (s := s.letGo other) absent).trans gone
    · exact (find?_discard (s := s.letGo other) attended _ absent).trans gone
    · exact (find?_giveBack (s := s.letGo other) attended _ absent).trans gone
    · exact (find?_freeSlot (s := s.letGo other) absent).trans gone
    · exact gone

theorem find?_setConnection {c : Connection} (apart : name ≠ other) :
    (s.setConnection other c).holdings.find? name = s.holdings.find? name := by
  rw [setConnection]
  split
  · exact find?_hold_of_ne apart
  · exact find?_hold_of_ne apart
  · rfl

theorem find?_closeNow (apart : name ≠ other) (absent : name ∉ s.pool.waiting) :
    (s.closeNow other thing).2.holdings.find? name = s.holdings.find? name := by
  have gone := find?_letGo_of_ne (s := s) apart
  unfold closeNow
  split
  · next c =>
    have freed := (find?_freeSlot
      (s := (s.letGo other).withSystem (s.toSystem.retire c).2) absent).trans gone
    dsimp only
    split <;> exact freed
  · exact gone
  · rfl
  · rfl

theorem letGo_hold (s : Session) (name : String) (thing : Holding) :
    (s.hold name thing).letGo name = s.letGo name := by
  simp only [hold, letGo, Table.erase_insert_self]

theorem obey_poll (known : s.holdings.find? name = some (.waiter wish progress)) :
    s.obey (.poll name) = s.collect name progress := by
  simp [obey, Command.newName?, carryOut, withHolding, known]

theorem obey_cancel (known : s.holdings.find? name = some (.waiter wish progress)) :
    s.obey (.cancel name) = s.giveUp true name progress := obey_givingUp true known

theorem find?_unlessClosed {outcome : Answer × Session}
    (same : outcome.2.holdings.find? name = s.holdings.find? name) :
    (s.unlessClosed outcome).2.holdings.find? name = s.holdings.find? name := by
  rw [unlessClosed]
  split
  · rfl
  · exact same

/-- The caller collects what a waiter got, or gives the waiter up. -/
def Command.collects (name : String) : Command → Bool
  | .poll other | .cancel other | .abandon other => other = name
  | _ => false

/-- Forsaking connections is only written down. -/
theorem forsakeAll_eq (cs : List Connection) (s : Session) :
    cs.foldl (fun s c => s.note (.forsaken c)) s =
      { s with journal := s.journal ++ cs.map fun c => (s.clock, .forsaken c) } := by
  induction cs generalizing s with
  | nil => simp
  | cons c rest ih =>
    rw [List.foldl_cons, ih]
    simp [note, withSystem, System.note]

theorem find?_withProvider {use : Provider → Answer × Session}
    (kept : ∀ p, (use p).2.holdings.find? name = s.holdings.find? name) :
    (s.withProvider use).2.holdings.find? name = s.holdings.find? name := by
  rw [withProvider]
  split
  · exact kept _
  · rfl

theorem find?_withHolding {use : Holding → Answer × Session}
    (kept : ∀ thing, s.holdings.find? other = some thing →
      (use thing).2.holdings.find? name = s.holdings.find? name) :
    (s.withHolding other use).2.holdings.find? name = s.holdings.find? name := by
  rw [withHolding]
  split
  · next thing known => exact kept thing known
  · rfl

theorem find?_withConnection {use : Connection → Answer × Session}
    (kept : ∀ c, s.connection? other = some c →
      (use c).2.holdings.find? name = s.holdings.find? name) :
    (s.withConnection other use).2.holdings.find? name = s.holdings.find? name := by
  rw [withConnection]
  split
  · next c known => exact kept c known
  · rfl

theorem find?_transact (call : Connection → Backend → Except Error Unit × Connection × Backend)
    (apart : ∀ c, s.connection? other = some c → name ≠ other) :
    (s.transact other call).2.holdings.find? name = s.holdings.find? name :=
  find?_withConnection fun c known => find?_setConnection (apart c known)

theorem connection?_of_waiter (known : s.holdings.find? name = some (.waiter wish progress)) :
    s.connection? name = none := by
  simp only [connection?, known]

/-- A waiter that is not in line is left alone by all commands but those that collect what it got or
give it up. -/
theorem find?_carryOut {command : Command}
    (known : s.holdings.find? name = some (.waiter wish progress))
    (absent : name ∉ s.pool.waiting) (spared : command.collects name = false)
    (fresh : ∀ new, command.newName? = some new → name ≠ new) :
    (s.carryOut command).2.holdings.find? name = s.holdings.find? name := by
  have apart (other : String) (c : Connection) (held : s.connection? other = some c) :
      name ≠ other := by
    rintro rfl
    rw [connection?_of_waiter known] at held
    cases held
  have unlike (other : String) (thing : Holding) (there : s.holdings.find? other = some thing)
      (kind : ∀ wish progress, thing ≠ .waiter wish progress) : name ≠ other := by
    rintro rfl
    rw [known] at there
    exact kind wish progress (Option.some.inj there).symm
  cases command with
  | get other =>
    exact find?_withProvider fun p =>
      find?_unlessClosed (find?_checkOut p _ (fresh other rfl) absent)
  | tryGet other => exact find?_withProvider fun p => find?_checkOut p _ (fresh other rfl) absent
  | acquire other => exact find?_unlessClosed (find?_acquireSlot _ (fresh other rfl))
  | tryAcquire other => exact find?_acquireSlot _ (fresh other rfl)
  | waitGet other => exact find?_withProvider fun _ => find?_lineUp (fresh other rfl)
  | waitAcquire other => exact find?_lineUp (fresh other rfl)
  | poll other =>
    have ne : name ≠ other := by simpa [Command.collects, eq_comm] using spared
    refine find?_withHolding fun thing there => ?_
    cases thing with
    | waiter wish progress => exact find?_collect ne
    | _ => rfl
  | cancel other =>
    have ne : name ≠ other := by simpa [Command.collects, eq_comm] using spared
    refine find?_withHolding fun thing there => ?_
    cases thing with
    | waiter wish progress => exact find?_partWith true ne absent
    | _ => rfl
  | newConnection other =>
    refine find?_withProvider fun p => ?_
    split
    · exact find?_hold_of_ne (fresh other rfl)
    · rfl
  | openDirect other driver dsn =>
    rw [carryOut]
    split
    · exact find?_hold_of_ne (fresh other rfl)
    · rfl
  | dequeue other =>
    rw [carryOut]
    split
    · exact find?_hold_of_ne (fresh other rfl)
    · rfl
  | closeProvider => exact find?_withProvider fun _ => find?_closePool absent
  | closePool =>
    rw [carryOut]
    dsimp only
    rw [forsakeAll_eq]
    exact find?_closePool absent
  | release other =>
    refine find?_withHolding fun thing there => ?_
    cases thing with
    | pooled c => exact find?_partWith true (unlike other _ there fun _ _ h => by cases h) absent
    | _ => rfl
  | drop other =>
    refine find?_withHolding fun thing there => ?_
    cases thing with
    | waiter wish progress => rfl
    | _ => exact find?_partWith true (unlike other _ there fun _ _ h => by cases h) absent
  | dropUnattended other =>
    refine find?_withHolding fun thing there => ?_
    cases thing with
    | pooled c =>
      dsimp only
      split
      · exact find?_partWith false (unlike other _ there fun _ _ h => by cases h) absent
      · rfl
    | _ => rfl
  | abandon other =>
    have ne : name ≠ other := by simpa [Command.collects, eq_comm] using spared
    exact find?_withHolding fun thing _ => find?_partWith false ne absent
  | closeNow other =>
    refine find?_withHolding fun thing there => ?_
    cases thing with
    | pooled c | bare c =>
      exact find?_closeNow (unlike other _ there fun _ _ h => by cases h) absent
    | _ => rfl
  | detach other bareName =>
    refine find?_withHolding fun thing there => ?_
    cases thing with
    | pooled c =>
      have ne := unlike other _ there fun _ _ h => by cases h
      exact ((find?_freeSlot (s := (s.letGo other).hold bareName (.bare c)) absent).trans
        (find?_hold_of_ne (fresh bareName rfl))).trans (find?_letGo_of_ne ne)
    | _ => rfl
  | enqueue other =>
    refine find?_withHolding fun thing there => ?_
    cases thing with
    | bare c =>
      dsimp only
      split
      · rfl
      · exact find?_letGo_of_ne (unlike other _ there fun _ _ h => by cases h)
    | _ => rfl
  | beginTransaction other | commit other | rollback other =>
    exact find?_transact _ (apart other)
  | execute other statement =>
    refine find?_withConnection fun c _ => ?_
    dsimp only
    split <;> rfl
  | ping other =>
    refine find?_withConnection fun c _ => ?_
    dsimp only
    split <;> rfl
  | setLastUsed other now =>
    exact find?_withConnection fun c held => find?_setConnection (apart other c held)
  | describe other =>
    rw [carryOut]
    split <;> rfl
  | native other kind statement =>
    refine find?_withConnection fun c _ => ?_
    dsimp only
    split <;> rfl
  | nativeBegin other commit =>
    refine find?_withConnection fun c _ => ?_
    dsimp only
    split <;> rfl
  | inspect other | nativeClose other | tune other tuning =>
    exact find?_withConnection fun _ _ => rfl
  | describeProvider => exact find?_withProvider fun _ => rfl
  | describePool | advance time | setFault fault on | failStatement statement => rfl

/-! ### Along a run -/

theorem find?_resume_of_ne (apart : name ≠ other) (absent : name ∉ s.pool.waiting) :
    (s.resume other).holdings.find? name = s.holdings.find? name := by
  rw [resume]
  split
  · next wish known =>
    have told (thing : Holding) :
        (s.hold other thing).freeSlot.holdings.find? name = s.holdings.find? name :=
      (find?_freeSlot (s := s.hold other thing) absent).trans (find?_hold_of_ne apart)
    split
    · exact told _
    · split
      · exact find?_hold_of_ne apart
      · rfl
      · next p _ =>
        have absent' : name ∉ (p.checkout s.toSystem).2.pool.waiting := by
          rw [Provider.checkout_pool]
          exact absent
        dsimp only
        cases (p.checkout s.toSystem).1 with
        | ready c | stalled c => exact find?_hold_of_ne apart
        | failed error =>
          exact (find?_freeSlot (s := (s.withSystem _).hold other _) absent').trans
            (find?_hold_of_ne apart)
  · rfl

/-- Nobody collects what this waiter got, or gives it up. -/
def sparesWaiter (name : String) (_ : Session) : Move → Bool
  | .command command => !command.collects name
  | .work _ => true

/-- A waiter that has what it waited for keeps it, and one with a slot too, until it is due. -/
theorem find?_move {m : Move} (known : s.holdings.find? name = some (.waiter wish progress))
    (absent : name ∉ s.pool.waiting) (spared : sparesWaiter name s m = true) :
    (s.move m).holdings.find? name = s.holdings.find? name ∨
      progress = .granted ∧ ∃ place, m = .work place ∧
        s.move m = { s with agenda := s.agenda.eraseIdx place }.resume name := by
  cases m with
  | command command =>
    left
    have kept : command.collects name = false := by simpa [sparesWaiter] using spared
    rw [move, obey]
    split
    · rfl
    · next free =>
      refine find?_carryOut known absent kept fun new made => ?_
      rintro rfl
      rw [made] at free
      simp [Table.contains, known] at free
  | work place =>
    rw [move, doWork]
    split
    · next task due =>
      cases task with
      | retire c => exact Or.inl rfl
      | resume other =>
        by_cases same : name = other
        · subst same
          by_cases granted : progress = .granted
          · exact Or.inr ⟨granted, place, rfl, rfl⟩
          · left
            have idle (wish' : Wish) :
                s.holdings.find? name ≠ some (.waiter wish' .granted) := by
              rw [known]
              rintro h
              exact granted (Holding.waiter.inj (Option.some.inj h)).2
            have rests := resume_of_not_granted (s := { s with agenda := s.agenda.eraseIdx place })
              idle
            rw [perform, rests]
        · exact Or.inl (find?_resume_of_ne (s := { s with agenda := s.agenda.eraseIdx place })
            same absent)
    · exact Or.inl rfl

/-- Who is not in line is not in the queue of the pool. -/
theorem Orderly.not_mem (orderly : Orderly s)
    (known : s.holdings.find? name = some (.waiter wish progress)) (left : progress ≠ .queued) :
    name ∉ s.pool.waiting := by
  intro line
  obtain ⟨wish', queued⟩ := (orderly.mem_waiting name).mp line
  rw [known] at queued
  exact left (Holding.waiter.inj (Option.some.inj queued)).2

/-- A waiter that has what it waited for keeps it. -/
theorem find?_after {outcome : Except PoolError Gain} {moves : List Move} (orderly : Orderly s)
    (known : s.holdings.find? name = some (.waiter wish (.finished outcome)))
    (admitted : Admitted (sparesWaiter name) s moves) :
    (s.after moves).holdings.find? name = some (.waiter wish (.finished outcome)) := by
  have kept := admitted.preserves
    (I := fun s => Orderly s ∧ s.holdings.find? name = some (.waiter wish (.finished outcome)))
    (fun s m spared ⟨there, known⟩ => by
      refine ⟨orderly_move there m, ?_⟩
      rcases find?_move known (there.not_mem known (by simp)) spared with same | ⟨granted, -⟩
      · rw [same, known]
      · cases granted) ⟨orderly, known⟩
  exact kept.2

end Datastore.Session
