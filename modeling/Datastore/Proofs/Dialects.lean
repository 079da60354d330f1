import Datastore.Proofs.Endings
import Datastore.Proofs.Session.Making
import Datastore.Proofs.Session.Upkeep
import Mathlib.Data.List.Induction

/-!
# Dialects

The registry that a provider is built with fixes one dialect for all its connections. If that has no
transactions, the only transactions in the backend are those that callers begin and end on native
handles: no connection is ever in one, what callers ask about transactions succeeds and changes
nothing, and an open pool takes back every guard that is dropped. Main statement:
`dialect_governs`.
-/

namespace Datastore

namespace DialectRegistry

/-- Registers in order. -/
def ofList (entries : List (String × Dialect)) : DialectRegistry :=
  entries.foldl (fun r entry => r.register entry.1 entry.2) empty

theorem ofList_concat (before : List (String × Dialect)) (last : String × Dialect) :
    ofList (before ++ [last]) = (ofList before).register last.1 last.2 := by
  simp only [ofList, List.foldl_append, List.foldl_cons, List.foldl_nil]

/-- The last registration of a name counts. -/
theorem resolve_ofList (entries : List (String × Dialect)) (driver : String) :
    (ofList entries).resolve driver = (entries.reverse.lookup driver).getD (.generic driver) := by
  induction entries using List.reverseRecOn with
  | nil => rfl
  | append_singleton before last ih =>
    rw [ofList_concat, List.reverse_append, List.reverse_singleton, List.singleton_append,
      List.lookup_cons]
    by_cases same : driver = last.1
    · subst same
      simp
    · have apart : (driver == last.1) = false := by simpa using same
      rw [resolve_register_of_ne _ _ same, ih, apart]

/-- Every registry comes of registrations. -/
theorem ofList_entries (r : DialectRegistry) : ofList r.dialects.entries = r := by
  have listed (entries : List (String × Dialect)) :
      (ofList entries).dialects = Table.ofList entries := by
    induction entries using List.reverseRecOn with
    | nil => rfl
    | append_singleton before last ih =>
      rw [ofList_concat, Table.ofList_concat, ← ih]
      rfl
  have same := (listed _).trans r.dialects.ofList_entries
  cases r
  exact congrArg DialectRegistry.mk same

end DialectRegistry

/-! ### Transactional calls -/

theorem Call.isTransactional_of_errand (call : Call) (errand : call.isErrand = true) :
    call.isTransactional = false := by
  cases call <;> first | rfl | cases errand

theorem Call.isTransactional_of_upkeep (call : Call) (upkeep : call.isUpkeep = true) :
    call.isTransactional = false := by
  cases call <;> first | rfl | cases upkeep

namespace Request

variable {c : Connection} (b : Backend)

/-- Asks to begin or end the transaction of a connection. -/
def isTransactional : Request → Bool
  | .begin | .commit | .rollback => true
  | _ => false

/-- What the backend is told of a transaction that a caller begins and ends on a native handle. -/
def passing (c : Connection) (b : Backend) : Request → List Call
  | .nativeBegin commits =>
    if b.isClosed c.handle || b.has .begins then []
    else
      let number := (b.record (.begun c.handle)).begins
      [.begun c.handle, if commits then .committed number else .rolledBack number]
  | _ => []

/-- Without transactions in the dialect only native begins reach the backend. -/
theorem calls_plain (plain : c.dialect.transactional = false) (request : Request) :
    (request.serve c b).calls Call.isTransactional =
      b.calls Call.isTransactional ++ request.passing c b := by
  have errands := Call.isTransactional_of_errand
  cases request with
  | begin => simp [serve, passing, Connection.beginTransaction, plain]
  | commit => simp [serve, passing, Connection.commit, Connection.finish, plain]
  | rollback => simp [serve, passing, Connection.rollback, Connection.finish, plain]
  | execute statement => exact (calls_execute c b errands statement).trans (List.append_nil _).symm
  | native kind statement =>
    exact (calls_native c b errands kind statement).trans (List.append_nil _).symm
  | nativeBegin commits =>
    rw [serve, Backend.beginTransaction, passing]
    by_cases closed : b.isClosed c.handle
    · simp [closed]
    by_cases fault : b.has .begins
    · simp [closed, fault]
    simp only [closed, fault, Bool.or_false, Bool.false_eq_true, if_false]
    cases commits with
    | true => exact (Backend.calls_record _ _ _).trans (by simp [Backend.calls_record]; rfl)
    | false => exact (Backend.calls_record _ _ _).trans (by simp [Backend.calls_record]; rfl)
  | nativeClose =>
    refine Eq.trans ?_ (List.append_nil _).symm
    rw [serve, Backend.close_eq]
    split
    · rfl
    · rw [Backend.calls_record]
      exact List.append_nil _
  | tune tuning =>
    have spared : (tuning.calls c.handle).filter Call.isTransactional = [] := by
      rw [List.filter_eq_nil_iff]
      intro call here
      simp [Call.isTransactional_of_upkeep call (Tuning.isUpkeep_of_calls here)]
    rw [serve, Backend.calls_tune, spared]
    rfl

/-- It begins one transaction and ends one, or none. -/
theorem even_passing (request : Request) : (request.passing c b).countP Call.isBegun =
    (request.passing c b).countP Call.isCommitted +
      (request.passing c b).countP Call.isRolledBack := by
  unfold passing
  split
  · next commits =>
    split
    · rfl
    · cases commits <;> rfl
  · rfl

end Request

namespace System

theorem calls_retireAll {kind : Call → Bool}
    (spares : ∀ call, call.isUpkeep = true → kind call = false) (cs : List Connection)
    (s : System) : (s.retireAll cs).backend.calls kind = s.backend.calls kind := by
  induction cs generalizing s with
  | nil => rfl
  | cons c rest ih =>
    have parting : (c.farewell s.backend).filter kind = [] := by
      rw [List.filter_eq_nil_iff]
      intro call here
      simp [spares call (Connection.isUpkeep_of_farewell here)]
    have first := s.backend.calls_retire kind c
    rw [parting, List.append_nil] at first
    exact (ih _).trans first

end System

namespace Backend

variable (b : Backend)

/-- Among the calls of a kind are all of a narrower one. -/
theorem countP_calls {kind part : Call → Bool}
    (within : ∀ call, part call = true → kind call = true) :
    b.log.countP part = (b.calls kind).countP part := by
  rw [calls, List.countP_filter]
  congr 1
  funext call
  cases here : part call with
  | true => simp [within call here]
  | false => rfl

theorem begins_eq : b.begins = (b.calls Call.isTransactional).countP Call.isBegun :=
  b.countP_calls fun call here => by cases call <;> first | rfl | cases here

theorem commits_eq : b.commits = (b.calls Call.isTransactional).countP Call.isCommitted :=
  b.countP_calls fun call here => by cases call <;> first | rfl | cases here

theorem rollbacks_eq : b.rollbacks = (b.calls Call.isTransactional).countP Call.isRolledBack :=
  b.countP_calls fun call here => by cases call <;> first | rfl | cases here

end Backend

namespace Session

variable {s : Session} {m : Move} {p : Provider} {c : Connection}

/-- Callers begin no transactions on native handles. -/
def sparesNative (_ : Session) : Move → Bool
  | .command (.nativeBegin _ _) => false
  | _ => true

/-- What a move tells the backend of transactions on native handles. -/
def passing (s : Session) (m : Move) : List Call :=
  match s.act m with
  | .ask c request => request.passing c s.backend
  | _ => []

theorem passing_of_spared (spares : sparesNative s m = true) : s.passing m = [] := by
  have known := s.acts m
  rw [passing]
  generalize s.act m = a at known
  cases known with
  | @ask name c request known =>
    cases request with
    | nativeBegin commits => cases spares
    | _ => rfl
  | _ => rfl

theorem even_passing (s : Session) (m : Move) : (s.passing m).countP Call.isBegun =
    (s.passing m).countP Call.isCommitted + (s.passing m).countP Call.isRolledBack := by
  rw [passing]
  split
  · exact Request.even_passing _ _
  · rfl

/-- Where no connection has transactions in its dialect, only native begins reach the backend. -/
theorem transactional_move (plain : ∀ c ∈ s.live, c.dialect.transactional = false) (m : Move) :
    (s.move m).backend.calls Call.isTransactional =
      s.backend.calls Call.isTransactional ++ s.passing m := by
  have errands := Call.isTransactional_of_errand
  have upkeep := Call.isTransactional_of_upkeep
  have known := s.acts m
  rw [backend_move, passing]
  generalize s.act m = a at known
  have spared : (s.toSystem.upkeepOf a).filter Call.isTransactional = [] := by
    rw [List.filter_eq_nil_iff]
    intro call here
    simp [upkeep call (System.isUpkeep_of_upkeepOf here)]
  have others (unasked : ∀ c request, a ≠ .ask c request) :
      (s.toSystem.enact a).backend.calls Call.isTransactional =
        s.backend.calls Call.isTransactional ++ [] := by
    rw [← spared]
    apply System.calls_enact errands
    · intro c request asked
      exact absurd asked (unasked c request)
    · intro drained
      rw [drained] at spared
      rw [System.calls_retireAll upkeep, System.close_eq]
      exact (List.append_nil _).symm.trans (congrArg (s.backend.calls _ ++ ·) spared.symm)
  cases known with
  | @ask name c request known =>
    exact Request.calls_plain _ (plain c (mem_live_of_connection? known)) request
  | _ => exact others (by rintro c request ⟨⟩)

/-! ### Runs without transactions -/

/-- All connections are of the provider's making, and as many transactions began as ended. -/
structure Sealed (p : Provider) (s : Session) : Prop where
  orderly : Orderly s
  served : s.provider = some p
  sound : Sound (rest s)
  own : ∀ c ∈ s.history Movement.made?, c.dialect = p.dialect
  even : s.backend.begins = s.backend.commits + s.backend.rollbacks

theorem Sealed.dialect_eq (kept : Sealed p s) (here : c ∈ s.live) : c.dialect = p.dialect := by
  obtain ⟨origin, made, same⟩ := kept.sound.origin here
  have dialect : origin.dialect = c.dialect := congrArg (·.2.2) same
  exact dialect.symm.trans (kept.own origin made)

/-- Where all transactions that began have ended, nobody is in one. -/
theorem Sealed.calm (kept : Sealed p s) (here : c ∈ s.live) : c.inTransaction = false := by
  -- Those that began are those that ended, those in progress and those left behind.
  have places := kept.sound.transactions_perm.length_eq
  simp only [List.length_append, List.length_range', Backend.length_finished,
    length_filterMap_transaction] at places
  have even := kept.even
  have none : s.live.countP Connection.inTransaction = 0 := by omega
  simpa using List.countP_eq_zero.mp none c here

theorem Sealed.calls_move (kept : Sealed p s) (plain : p.dialect.transactional = false)
    (m : Move) : (s.move m).backend.calls Call.isTransactional =
      s.backend.calls Call.isTransactional ++ s.passing m :=
  transactional_move (fun _ here => kept.dialect_eq here ▸ plain) m

theorem Sealed.move (kept : Sealed p s) (plain : p.dialect.transactional = false)
    (spares : sparesWrapping s m = true) : Sealed p (s.move m) where
  orderly := orderly_move kept.orderly m
  served := (provider_after kept.orderly [m]).trans kept.served
  sound := kept.sound.after kept.orderly [m]
  own := by
    intro c here
    rw [history_made_move kept.orderly, List.mem_append] at here
    exact here.elim (kept.own c) (dialect_newlyMade kept.served spares c)
  even := by
    have before := kept.even
    rw [Backend.begins_eq, Backend.commits_eq, Backend.rollbacks_eq] at before ⊢
    have pairs := even_passing s m
    simp only [kept.calls_move plain, List.countP_append]
    omega

/-- The transactions in the backend are those that callers began on native handles. -/
theorem Sealed.after (kept : Sealed p s) (plain : p.dialect.transactional = false)
    {moves : List Move} (admitted : Admitted sparesWrapping s moves) :
    Sealed p (s.after moves) ∧ (s.after moves).backend.calls Call.isTransactional =
      s.backend.calls Call.isTransactional ++ along passing s moves := by
  induction moves generalizing s with
  | nil => exact ⟨kept, (List.append_nil _).symm⟩
  | cons m rest ih =>
    obtain ⟨kept', told⟩ := ih (kept.move plain admitted.1) admitted.2
    refine ⟨kept', ?_⟩
    rw [after_cons, told, kept.calls_move plain, along, List.append_assoc]

theorem passing_along {moves : List Move} (admitted : Admitted sparesNative s moves) :
    along passing s moves = [] := by
  induction moves generalizing s with
  | nil => rfl
  | cons m rest ih => rw [along, passing_of_spared admitted.1, ih admitted.2, List.append_nil]

/-! ### Calls and guards -/

theorem setConnection_self {name : String} (known : s.connection? name = some c) :
    s.setConnection name c = s := by
  rw [setConnection]
  rcases find?_of_connection? known with pooled | bare
  · rw [pooled]
    simp only [hold, Table.insert_of_find? pooled]
  · rw [bare]
    simp only [hold, Table.insert_of_find? bare]

theorem obey_plain (plain : c.dialect.transactional = false) {name : String}
    (known : s.connection? name = some c) {request : Request}
    (asks : request.isTransactional = true) :
    s.obey (request.command name) = (.done, s) := by
  have same := setConnection_self known
  cases request with
  | begin =>
    simp [Request.command, obey, Command.newName?, carryOut, transact, withConnection, known,
      Connection.beginTransaction, plain, answerOf, same]
  | commit =>
    simp [Request.command, obey, Command.newName?, carryOut, transact, withConnection, known,
      Connection.commit, Connection.finish, plain, answerOf, same]
  | rollback =>
    simp [Request.command, obey, Command.newName?, carryOut, transact, withConnection, known,
      Connection.rollback, Connection.finish, plain, answerOf, same]
  | _ => cases asks

theorem ofBuild_dialect {config : Config} {drivers : DriverRegistry Unit}
    {dialects : DialectRegistry} (built : Provider.build config drivers dialects = .ok p) :
    p.dialect = dialects.resolve config.driverName := by
  rw [Provider.build] at built
  split at built
  · cases built
  · obtain rfl := Except.ok.inj built
    rw [Provider.dialect]
    dsimp only
    split <;> rfl

/-- All connections that a provider makes have the dialect that its registry had for its driver: the
last that was registered, or the generic one. If that has no transactions and callers wrap no
handles of their own, no transaction is begun or ended but by callers on native handles, all that
is asked about transactions succeeds and changes nothing, and every guard that is dropped goes back
to the pool while that is open. -/
theorem dialect_governs {config : Config} {drivers : DriverRegistry Unit}
    {dialects : DialectRegistry} (built : Provider.build config drivers dialects = .ok p)
    {backend : Backend} (fresh : backend.log = []) (moves : List Move) :
    let began := start backend p.pool (some p)
    let s := began.after moves
    let dialect := dialects.resolve config.driverName
    (∃ entries, dialects = .ofList entries) ∧
      (∀ entries, dialects = .ofList entries → dialect =
        (entries.reverse.lookup config.driverName).getD (.generic config.driverName)) ∧
      (Dialect.generic config.driverName).transactional = true ∧
      (∀ c ∈ along manufactured began moves, c.dialect = dialect) ∧
      (∀ first ∈ along manufactured began moves, ∀ c ∈ s.live, c.id = first.id →
        c.dialect = dialect) ∧
      (Admitted sparesWrapping began moves →
        s.history Movement.made? = along manufactured began moves ∧
        (∀ c ∈ s.live, c.dialect = dialect) ∧
        (dialect.transactional = false →
          (Admitted sparesNative began moves →
            s.backend.begins = 0 ∧ s.backend.commits = 0 ∧ s.backend.rollbacks = 0) ∧
          (∀ (name : String) (c : Connection) (request : Request), s.connection? name = some c →
            request.isTransactional = true → s.obey (request.command name) = (.done, s)) ∧
          ∀ m c, s.guardDropped? m = some c → s.pool.closed = false →
            (s.move m).pool.idle = s.pool.idle ++ [c.stamp (some s.clock)])) := by
  intro began s dialect
  have own : p.dialect = dialect := ofBuild_dialect built
  have orderly : Orderly began := orderly_start backend _ (some p)
  have sound : Sound (rest began) := sound_start fresh _ (some p)
  have sound' : Sound (rest s) := sound.after orderly moves
  have silent : backend.calls Call.isTransactional = [] := by simp [Backend.calls, fresh]
  have served : began.provider = some p := rfl
  have made (c : Connection) (here : c ∈ along manufactured began moves) :
      c.dialect = dialect ∧ c ∈ s.history Movement.made? :=
    own ▸ manufactured_after orderly served here
  refine ⟨⟨_, dialects.ofList_entries.symm⟩, fun entries same => ?_, rfl,
    fun c here => (made c here).1,
    fun first early c here same => ?_, fun admitted => ?_⟩
  · rw [← DialectRegistry.resolve_ofList, ← same]
  · exact (sound'.dialect_eq here (made first early).2 same.symm).trans (made first early).1
  have all : s.history Movement.made? = along manufactured began moves :=
    history_made_after orderly admitted
  refine ⟨all, fun c here => ?_, fun plain => ?_⟩
  · obtain ⟨first, early, same⟩ := sound'.origin here
    have dialect_eq : first.dialect = c.dialect := congrArg (·.2.2) same
    exact dialect_eq.symm.trans (made first (all ▸ early)).1
  have started : Sealed p began :=
    ⟨orderly, served, sound, by simp [began, start, System.start, System.history],
      by simp [began, start, System.start, Backend.begins, Backend.commits, Backend.rollbacks,
        fresh]⟩
  obtain ⟨kept, told⟩ := started.after (own ▸ plain) admitted
  refine ⟨fun spares => ?_, fun name c request known asks => ?_, fun m c dropped isOpen => ?_⟩
  · have nothing : s.backend.calls Call.isTransactional = [] := by
      rw [told, passing_along spares, List.append_nil]
      exact silent
    rw [Backend.begins_eq, Backend.commits_eq, Backend.rollbacks_eq, nothing]
    exact ⟨rfl, rfl, rfl⟩
  · have same := kept.dialect_eq (mem_live_of_connection? known)
    exact obey_plain (same ▸ own ▸ plain) known asks
  · have guarded := mem_guarded_of_dropped dropped
    have free := kept.calm (by simp [live, circulating, guarded] : c ∈ s.live)
    rw [idle_move, act_of_dropped dropped free isOpen]
    rfl

theorem dialect_governs_plain :
    let dialects := DialectRegistry.ofList
      [("mock", .generic "mock"), ("mock", ⟨"plain", false⟩), ("other", .generic "other")]
    let p : Provider := ⟨(Config.ofEndpoint "mock" "db").withMaxPoolSize 1, .single "mock" (),
      dialects, .none⟩
    let moves : List Move := [.command (.get "a"), .command (.beginTransaction "a"),
      .command (.newConnection "b"), .command (.rollback "b"), .command (.commit "a")]
    let began := start .fresh p.pool (some p)
    let s := began.after moves
    Provider.build p.config p.drivers dialects = .ok p ∧ Backend.fresh.log = [] ∧
      dialects.resolve "mock" = ⟨"plain", false⟩ ∧
      (along manufactured began moves).map Connection.id = [1, 2] ∧
      (∀ c ∈ along manufactured began moves, c.dialect = ⟨"plain", false⟩) ∧
      s.backend.begins = 0 ∧ s.backend.commits = 0 ∧ s.backend.rollbacks = 0 ∧
      s.obey (.beginTransaction "b") = (.done, s) ∧
      ∃ c, s.guardDropped? (.command (.drop "a")) = some c ∧
        (s.move (.command (.drop "a"))).pool.idle = s.pool.idle ++ [c.stamp (some s.clock)] := by
  have built : Provider.build ((Config.ofEndpoint "mock" "db").withMaxPoolSize 1)
      (.single "mock" ()) (.ofList [("mock", .generic "mock"), ("mock", ⟨"plain", false⟩),
        ("other", .generic "other")]) = .ok ⟨(Config.ofEndpoint "mock" "db").withMaxPoolSize 1,
          .single "mock" (), .ofList [("mock", .generic "mock"), ("mock", ⟨"plain", false⟩),
            ("other", .generic "other")], .none⟩ := rfl
  have fresh : Backend.fresh.log = [] := rfl
  obtain ⟨-, last, -, made, -, unwrapped⟩ := dialect_governs built fresh [.command (.get "a"),
    .command (.beginTransaction "a"), .command (.newConnection "b"), .command (.rollback "b"),
    .command (.commit "a")]
  obtain ⟨-, -, gate⟩ := unwrapped ⟨rfl, rfl, rfl, rfl, rfl, trivial⟩
  have registered := last _ rfl
  obtain ⟨counters, answers, guards⟩ := gate (by decide +kernel)
  obtain ⟨begins, commits, rollbacks⟩ := counters ⟨rfl, rfl, rfl, rfl, rfl, trivial⟩
  exact ⟨built, fresh, registered, by decide +kernel, fun c here => (made c here).trans registered,
    begins, commits, rollbacks, answers "b" _ .begin rfl rfl, _, rfl, guards _ _ rfl rfl⟩

end Session
end Datastore
