import Datastore.Proofs.Session.Making

/-!
# Making connections

What comes of making a connection, case by case: which of the failures it is, or which connection,
and every call that the backend is told, in order. Making a connection does this in every state
that a session can reach, and leaves the pool and the clock alone. Main statement:
`manufacture_exact`.
-/

namespace Datastore

namespace Backend

/-- The backend after these calls. -/
def told (b : Backend) (calls : List Call) : Backend := { b with log := b.log ++ calls }

variable (b : Backend)

@[simp] theorem told_nil : b.told [] = b := by simp [told]

@[simp] theorem told_told (first second : List Call) :
    (b.told first).told second = b.told (first ++ second) := by simp [told]

theorem record_eq_told (call : Call) : b.record call = b.told [call] := rfl

@[simp] theorem failing_told (calls : List Call) : (b.told calls).failing = b.failing := rfl

/-- Statements close no handle. -/
theorem isClosed_executed (handle other : Nat) (statement : String) :
    (b.told [.executed handle statement]).isClosed other = b.isClosed other := by
  rw [← record_eq_told]
  simp [isClosed, Call.closed?]

theorem isClosed_opened (dsn : String) (handle : Nat) :
    (b.told [.opened dsn]).isClosed handle = b.isClosed handle := by
  rw [← record_eq_told]
  simp [isClosed, Call.closed?]

/-- What the backend says of a statement that fails. -/
def rejection (statement : String) : DriverError :=
  .permanent ("statement rejected: " ++ statement)

theorem execute_of_open {handle : Nat} (isOpen : b.isClosed handle = false) (statement : String) :
    b.execute handle statement =
      (if b.failing.contains statement then .error (rejection statement)
        else .ok ((b.affected.find? statement).getD 0), b.told [.executed handle statement]) := by
  simp [execute, isOpen, run, rejection, record_eq_told]

end Backend

namespace Provider

variable {p : Provider} {s : System}

/-- How making a connection ends and what the backend is told for it. -/
inductive Produces (p : Provider) (s : System) : Except Error Connection → List Call → Prop
  | misnamed (fault : ConfigFault) (unnamed : p.config.dsn = .error (.config fault)) :
    Produces p s (.error (.config fault)) []
  | unknown (dsn : String) (named : p.config.dsn = .ok dsn)
      (absent : p.drivers.find? p.config.driverName = none) :
    Produces p s (.error (.unknownDriver p.config.driverName)) []
  | refused (dsn : String) (named : p.config.dsn = .ok dsn)
      (known : p.drivers.find? p.config.driverName = some ())
      (faulty : s.backend.has .opens = true) :
    Produces p s
      (.error (.openFailed p.config.driverName p.config.descriptor (.ofLink "connection refused")))
      [.refused dsn]
  /-- The first statement that fails is the last one to be run. -/
  | aborted (dsn : String) (done : List String) (statement : String) (rest : List String)
      (named : p.config.dsn = .ok dsn) (known : p.drivers.find? p.config.driverName = some ())
      (sane : s.backend.has .opens = false) (listed : p.config.initSql = done ++ statement :: rest)
      (passed : ∀ earlier ∈ done, earlier ∉ s.backend.failing)
      (failing : statement ∈ s.backend.failing) :
    Produces p s
      (.error (.initSqlFailed statement p.config.descriptor (Backend.rejection statement)))
      (.opened dsn :: (done ++ [statement]).map (.executed (s.backend.opens + 1)))
  | made (dsn : String) (named : p.config.dsn = .ok dsn)
      (known : p.drivers.find? p.config.driverName = some ())
      (sane : s.backend.has .opens = false)
      (passed : ∀ statement ∈ p.config.initSql, statement ∉ s.backend.failing) :
    Produces p s
      (.ok {
        id := s.made + 1
        handle := s.backend.opens + 1
        dialect := p.dialect
        transaction := none
        createdAt := s.clock
        lastUsed := none })
      (.opened dsn :: p.config.initSql.map (.executed (s.backend.opens + 1)))

end Provider

/-- An initial statement failed. -/
def Error.isAbort : Error → Bool
  | .initSqlFailed _ _ _ => true
  | _ => false

/-- What is left once making a connection ended like this. -/
def System.afterMaking (s : System) (calls : List Call) : Except Error Connection → System
  | .ok c => { s with backend := s.backend.told calls, made := s.made + 1 }.note (.made c)
  | .error error =>
    let left := { s with backend := s.backend.told calls }
    if error.isAbort then left.note (.orphaned (s.backend.opens + 1)) else left

@[simp] theorem System.afterMaking_backend (s : System) (calls : List Call)
    (outcome : Except Error Connection) :
    (s.afterMaking calls outcome).backend = s.backend.told calls := by
  cases outcome with
  | ok c => rfl
  | error error =>
    rw [afterMaking]
    split <;> rfl

namespace Provider

variable {p : Provider} {s : System}

/-! ### The initial statements -/

theorem initialise_cons {b : Backend} {handle : Nat} (isOpen : b.isClosed handle = false)
    (statement : String) (rest : List String) : p.initialise handle (statement :: rest) b =
      if statement ∈ b.failing then
        (.error (.initSqlFailed statement p.config.descriptor (Backend.rejection statement)),
          b.told [.executed handle statement])
      else p.initialise handle rest (b.told [.executed handle statement]) := by
  rw [initialise, b.execute_of_open isOpen]
  by_cases failing : statement ∈ b.failing <;> simp [failing]

/-- Statements that do not fail are all run. -/
theorem initialise_append {b : Backend} {handle : Nat} (isOpen : b.isClosed handle = false)
    (done rest : List String) (passed : ∀ statement ∈ done, statement ∉ b.failing) :
    p.initialise handle (done ++ rest) b =
      p.initialise handle rest (b.told (done.map (.executed handle))) := by
  induction done generalizing b with
  | nil => simp
  | cons statement more ih =>
    rw [List.forall_mem_cons] at passed
    have isOpen' := (b.isClosed_executed handle handle statement).trans isOpen
    rw [List.cons_append, initialise_cons isOpen, if_neg passed.1, ih isOpen' passed.2]
    simp

theorem isClosed_told_executed (b : Backend) (handle other : Nat) (statements : List String) :
    (b.told (statements.map (.executed handle))).isClosed other = b.isClosed other := by
  induction statements generalizing b with
  | nil => simp
  | cons statement rest ih =>
    have first := b.isClosed_executed handle other statement
    have split : b.told ((statement :: rest).map (.executed handle)) =
      (b.told [.executed handle statement]).told (rest.map (.executed handle)) := by simp
    rw [split, ih, first]

/-! ### The cases -/

theorem manufacture_of_sane {dsn : String} (named : p.config.dsn = .ok dsn)
    (known : p.drivers.find? p.config.driverName = some ()) (sane : s.backend.has .opens = false) :
    p.manufacture s =
      match p.initialise (s.backend.opens + 1) p.config.initSql (s.backend.told [.opened dsn]) with
      | (.error error, backend) =>
        (.error error, { s with backend }.note (.orphaned (s.backend.opens + 1)))
      | (.ok (), backend) =>
        let wrapped := { s with backend }.wrap (s.backend.opens + 1) p.dialect
        (.ok wrapped.1, wrapped.2) := by
  have number : (s.backend.record (.opened dsn)).opens = s.backend.opens + 1 := by
    simp [Call.isOpened]
  have opened : s.backend.openHandle dsn =
      (.ok (s.backend.opens + 1), s.backend.told [.opened dsn]) := by
    simp only [Backend.openHandle, sane, Bool.false_eq_true, if_false, number]
    rfl
  simp only [manufacture, named, known, opened]
  rfl

/-- A connection is made as described. -/
theorem Produces.manufacture {outcome : Except Error Connection} {calls : List Call}
    (produces : p.Produces s outcome calls)
    (fresh : s.backend.isClosed (s.backend.opens + 1) = false) :
    p.manufacture s = (outcome, s.afterMaking calls outcome) := by
  cases produces with
  | misnamed fault unnamed =>
    simp [Provider.manufacture, unnamed, System.afterMaking, Error.isAbort]
  | unknown dsn named absent =>
    simp [Provider.manufacture, named, absent, System.afterMaking, Error.isAbort]
  | refused dsn named known faulty =>
    simp [Provider.manufacture, named, known, Backend.openHandle, faulty, Backend.record_eq_told,
      System.afterMaking, Error.isAbort]
  | aborted dsn done statement rest named known sane listed passed failing =>
    have isOpen := (s.backend.isClosed_opened dsn _).trans fresh
    have isOpen' := (isClosed_told_executed _ (s.backend.opens + 1) _ done).trans isOpen
    rw [manufacture_of_sane named known sane, listed, initialise_append isOpen _ _ passed,
      initialise_cons isOpen']
    simp [failing, System.afterMaking, Error.isAbort]
  | made dsn named known sane passed =>
    have isOpen := (s.backend.isClosed_opened dsn _).trans fresh
    have all := initialise_append (p := p) isOpen p.config.initSql [] passed
    rw [List.append_nil] at all
    rw [manufacture_of_sane named known sane, all]
    simp [initialise, System.wrap, System.afterMaking, Connection.wrap]

/-- Only faults come out of a descriptor. -/
theorem dsn_error {c : Config} {error : Error} (unnamed : c.dsn = .error error) :
    ∃ fault, error = .config fault := by
  unfold Config.dsn at unnamed
  split at unnamed
  · next fault _ =>
    cases unnamed
    exact ⟨fault, rfl⟩
  · cases unnamed

/-- The cases leave nothing out. -/
theorem exists_produces (p : Provider) (s : System) :
    ∃ outcome calls, p.Produces s outcome calls := by
  cases named : p.config.dsn with
  | error error =>
    obtain ⟨fault, rfl⟩ := dsn_error named
    exact ⟨_, _, .misnamed fault named⟩
  | ok dsn =>
    cases known : p.drivers.find? p.config.driverName with
    | none => exact ⟨_, _, .unknown dsn named known⟩
    | some driver =>
      cases faulty : s.backend.has .opens with
      | true => exact ⟨_, _, .refused dsn named known faulty⟩
      | false =>
        cases first : p.config.initSql.find? (· ∈ s.backend.failing) with
        | none =>
          have passed := List.find?_eq_none.mp first
          exact ⟨_, _, .made dsn named known faulty fun statement here => by
            simpa using passed statement here⟩
        | some statement =>
          obtain ⟨failing, done, rest, listed, passed⟩ := List.find?_eq_some_iff_append.mp first
          exact ⟨_, _, .aborted dsn done statement rest named known faulty listed
            (fun earlier here => by simpa using passed earlier here) (by simpa using failing)⟩

/-- Making a connection is described by one case, and by no other. -/
theorem produces_iff (fresh : s.backend.isClosed (s.backend.opens + 1) = false)
    (outcome : Except Error Connection) (calls : List Call) : p.Produces s outcome calls ↔
      (p.manufacture s).1 = outcome ∧ (p.manufacture s).2.backend = s.backend.told calls := by
  constructor
  · intro produces
    rw [produces.manufacture fresh]
    exact ⟨rfl, System.afterMaking_backend ..⟩
  · rintro ⟨rfl, told⟩
    obtain ⟨outcome, calls', produces⟩ := p.exists_produces s
    rw [produces.manufacture fresh, System.afterMaking_backend] at told
    have same : s.backend.log ++ calls' = s.backend.log ++ calls := congrArg Backend.log told
    rw [produces.manufacture fresh, ← List.append_cancel_left same]
    exact produces

/-- Making a connection takes no time, and a failure uses up no number. -/
theorem manufacture_counts (fresh : s.backend.isClosed (s.backend.opens + 1) = false) :
    (p.manufacture s).2.clock = s.clock ∧ (p.manufacture s).2.made =
      match (p.manufacture s).1 with
      | .ok _ => s.made + 1
      | .error _ => s.made := by
  obtain ⟨outcome, calls, produces⟩ := p.exists_produces s
  rw [produces.manufacture fresh]
  cases outcome with
  | ok c => exact ⟨rfl, rfl⟩
  | error error =>
    rw [System.afterMaking]
    cases error.isAbort <;> exact ⟨rfl, rfl⟩

end Provider

namespace Session

variable {s : Session}

/-- What making a connection comes to, and what a caller who asks for one is told. -/
structure Manufactures (p : Provider) (s : Session) : Prop where
  covered : ∃ outcome calls, p.Produces s.toSystem outcome calls
  exact : ∀ outcome calls, p.Produces s.toSystem outcome calls ↔
    (p.manufacture s.toSystem).1 = outcome ∧
      (p.manufacture s.toSystem).2.backend = s.backend.told calls
  pool : (p.manufacture s.toSystem).2.pool = s.pool
  clock : (p.manufacture s.toSystem).2.clock = s.clock
  made : (p.manufacture s.toSystem).2.made =
    match (p.manufacture s.toSystem).1 with
    | .ok _ => s.made + 1
    | .error _ => s.made
  /-- No connection so far had such a high number. -/
  newest : ∀ c, (p.manufacture s.toSystem).1 = .ok c →
    (∀ earlier ∈ s.history Movement.made?, earlier.id < c.id) ∧
      ∀ earlier ∈ s.live, earlier.id < c.id
  asked : s.provider = some p → ∀ name, s.holdings.find? name = none →
    let told := s.obey (.newConnection name)
    told.2.backend = (p.manufacture s.toSystem).2.backend ∧ told.2.pool = s.pool ∧
      (∀ c, (p.manufacture s.toSystem).1 = .ok c →
        told.1 = .connection c.id ∧ told.2.holdings.find? name = some (.bare c)) ∧
      ∀ error, (p.manufacture s.toSystem).1 = .error error →
        told.1 = .poolError (.connection error) ∧ told.2.holdings = s.holdings

/-- Numbers are given in order. -/
theorem Sound.id_le (sound : Sound (rest s)) {c : Connection}
    (here : c ∈ s.history Movement.made?) : c.id ≤ s.made := by
  have ids : (s.history Movement.made?).map Connection.id = List.range' 1 s.made :=
    sound.registered.ids
  have listed : c.id ∈ List.range' 1 s.made := by
    rw [← ids]
    exact List.mem_map_of_mem here
  rw [List.mem_range'_1] at listed
  omega

theorem Sound.live_id_le (sound : Sound (rest s)) {c : Connection} (here : c ∈ s.live) :
    c.id ≤ s.made := by
  obtain ⟨made, there, same⟩ := sound.origin here
  have number : made.id = c.id := congrArg (·.1) same
  exact number ▸ sound.id_le there

/-- A caller gets what was made. -/
theorem obey_newConnection {p : Provider} (served : s.provider = some p) {name : String}
    (free : s.holdings.find? name = none) : s.obey (.newConnection name) =
      match p.manufacture s.toSystem with
      | (.ok c, system) => (.connection c.id, (s.withSystem system).hold name (.bare c))
      | (.error error, system) => (.poolError (.connection error), s.withSystem system) := by
  have new : (Command.newConnection name).newName?.any s.holdings.contains = false := by
    simp [Command.newName?, Table.contains, free]
  simp only [obey, new, Bool.false_eq_true, if_false, carryOut, withProvider, served]
  rfl

/-- In every state that a session can reach, making a connection comes to what is described. -/
theorem manufacture_exact {backend : Backend} (fresh : backend.log = []) (capacity : Nat)
    (provider : Option Provider) (moves : List Move) (p : Provider) :
    Manufactures p ((start backend (Pool.ofCapacity capacity) provider).after moves) := by
  have orderly := orderly_start backend capacity provider
  have began := sound_start fresh capacity provider
  have sound := began.after orderly moves
  have grounded := (grounded_start fresh _ provider).after orderly began moves
  generalize (start backend (Pool.ofCapacity capacity) provider).after moves = s at grounded sound
  have next := grounded.next_open sound
  obtain ⟨clock, made⟩ := Provider.manufacture_counts (p := p) next
  refine ⟨p.exists_produces _, Provider.produces_iff next, p.manufacture_pool _, clock, made, ?_, ?_⟩
  · intro c made
    obtain ⟨handle, rfl⟩ := Provider.manufacture_ok made
    exact ⟨fun earlier here => Nat.lt_succ_of_le (sound.id_le here),
      fun earlier here => Nat.lt_succ_of_le (sound.live_id_le here)⟩
  · intro served name free told
    have pool := p.manufacture_pool s.toSystem
    have same := obey_newConnection served free
    rcases ends : p.manufacture s.toSystem with ⟨error | c, system⟩
    · rw [ends] at same pool
      simp only [told, same]
      refine ⟨rfl, pool, ?_, ?_⟩
      · rintro c ⟨⟩
      · rintro error ⟨⟩
        exact ⟨rfl, rfl⟩
    · rw [ends] at same pool
      simp only [told, same]
      refine ⟨rfl, pool, ?_, ?_⟩
      · rintro c ⟨⟩
        exact ⟨rfl, Table.find?_insert_self _ _ _⟩
      · rintro error ⟨⟩

theorem manufacture_exact_aborted :
    let config := (((Config.ofEndpoint "mock" "[host]").addParameter "host" (.text "db")).addInitSql
      "A").addInitSql "B"
    let p : Provider := ⟨config.addInitSql "A", .single "mock" (), .empty, .none⟩
    let moves : List Move := [.command (.newConnection "a"), .command (.failStatement "B")]
    let s := (start .fresh (.ofCapacity 1) (some p)).after moves
    Backend.fresh.log = [] ∧ Manufactures p s ∧
      (p.manufacture s.toSystem).1 =
        .error (.initSqlFailed "B" "[host]" (Backend.rejection "B")) ∧
      (p.manufacture s.toSystem).2.backend =
        s.backend.told [.opened "db", .executed 2 "A", .executed 2 "B"] ∧
      (s.obey (.newConnection "b")).2.pool = s.pool := by
  intro config p moves s
  have law : Manufactures p s := manufacture_exact (rfl : Backend.fresh.log = []) 1 (some p) moves p
  have number : s.backend.opens + 1 = 2 := by decide +kernel
  have free : s.holdings.find? "b" = none := by
    have absent : s.holdings.contains "b" = false := by decide +kernel
    simpa [Table.contains] using absent
  have aborted := (law.exact _ _).mp (.aborted "db" ["A"] "B" ["A"] (by decide +kernel)
    (by decide +kernel) (by decide +kernel) rfl (by decide +kernel) (by decide +kernel))
  rw [number] at aborted
  have served : s.provider = some p := provider_after (orderly_start _ _ _) moves
  exact ⟨rfl, law, aborted.1, aborted.2, (law.asked served "b" free).2.1⟩

end Session
end Datastore
