import Datastore.Proofs.Session.Upkeep

/-!
# Settings of native handles

A handle is tuned when a checkout takes its connection and the probe, if there is one, ends; closing
it sets a last lifetime right before, and nothing is set afterwards. So what was set on a handle
tells how often its connection was recycled and whether it is closed. Main statement:
`settings_traced`.
-/

namespace Datastore

/-- Sets or closes this handle. -/
def Call.adjusts (handle : Nat) : Call → Bool
  | .lifetimeSet other _ | .idleLimitSet other _ | .closed other => other = handle
  | _ => false

/-- The calls that close a handle for good. -/
def partingCalls (handle : Nat) : List Call :=
  [.lifetimeSet handle Connection.retireLifetime, .closed handle]

namespace Backend

variable {b b' : Backend} {handle : Nat} {tuning : Tuning}

/-- What was set on a handle, and its closing. -/
def adjustments (b : Backend) (handle : Nat) : List Call := b.log.filter (Call.adjusts handle)

def lifetimesOf (b : Backend) (handle : Nat) : List Duration :=
  ((b.log.filterMap Call.lifetime?).filter (·.1 = handle)).map Prod.snd

def idleLimitsOf (b : Backend) (handle : Nat) : List Nat :=
  ((b.log.filterMap Call.idleLimit?).filter (·.1 = handle)).map Prod.snd

theorem adjustments_eq (b : Backend) (handle : Nat) :
    b.adjustments handle = (b.calls Call.isUpkeep).filter (Call.adjusts handle) := by
  rw [adjustments, calls, List.filter_filter]
  congr 1
  funext call
  cases call <;> simp [Call.adjusts, Call.isUpkeep]

theorem isClosed_iff_adjustments (b : Backend) (handle : Nat) :
    b.isClosed handle = true ↔ .closed handle ∈ b.adjustments handle := by
  rw [isClosed_iff, closedHandles, adjustments, List.mem_filter, List.mem_filterMap]
  constructor
  · rintro ⟨call, here, closing⟩
    cases call <;> cases closing
    exact ⟨here, by simp [Call.adjusts]⟩
  · rintro ⟨here, -⟩
    exact ⟨_, here, rfl⟩

theorem lifetimesOf_eq (b : Backend) (handle : Nat) : b.lifetimesOf handle =
    ((b.adjustments handle).filterMap Call.lifetime?).map Prod.snd := by
  rw [lifetimesOf, adjustments, List.filterMap_filter, ← List.filterMap_eq_filter,
    List.filterMap_filterMap]
  congr 2
  funext call
  cases call <;> simp [Call.adjusts, Call.lifetime?, Option.guard]

theorem idleLimitsOf_eq (b : Backend) (handle : Nat) : b.idleLimitsOf handle =
    ((b.adjustments handle).filterMap Call.idleLimit?).map Prod.snd := by
  rw [idleLimitsOf, adjustments, List.filterMap_filter, ← List.filterMap_eq_filter,
    List.filterMap_filterMap]
  congr 2
  funext call
  cases call <;> simp [Call.adjusts, Call.idleLimit?, Option.guard]

/-- The handle was tuned so many times, and then closed if it is closed. -/
def Trimmed (tuning : Tuning) (times : Nat) (b : Backend) (handle : Nat) : Prop :=
  b.adjustments handle = (List.replicate times (tuning.calls handle)).flatten ++
    if b.isClosed handle then partingCalls handle else []

theorem closed_not_mem_calls (tuning : Tuning) (handle other : Nat) :
    .closed other ∉ tuning.calls handle := by
  simp [Tuning.calls]

theorem Trimmed.of_open {times : Nat}
    (told : b.adjustments handle = (List.replicate times (tuning.calls handle)).flatten) :
    Trimmed tuning times b handle := by
  have isOpen : ¬ b.isClosed handle = true := by
    rw [isClosed_iff_adjustments, told]
    simp [closed_not_mem_calls]
  rw [Trimmed, told, if_neg isOpen, List.append_nil]

theorem Trimmed.of_closed {times : Nat} (told : b.adjustments handle =
    (List.replicate times (tuning.calls handle)).flatten ++ partingCalls handle) :
    Trimmed tuning times b handle := by
  have closed : b.isClosed handle = true := by
    rw [isClosed_iff_adjustments, told]
    simp [partingCalls]
  rw [Trimmed, told, if_pos closed]

/-- What a move may tell the backend about a handle, and how often it tunes it. -/
inductive Treats (b : Backend) (tuning : Tuning) (handle : Nat) : Nat → List Call → Prop
  | ignored : Treats b tuning handle 0 []
  | tuned (isOpen : b.isClosed handle = false) : Treats b tuning handle 1 (tuning.calls handle)
  | closed (isOpen : b.isClosed handle = false) : Treats b tuning handle 0 (partingCalls handle)
  /-- Tuned after a probe that failed, and then closed. -/
  | replaced (isOpen : b.isClosed handle = false) :
    Treats b tuning handle 1 (tuning.calls handle ++ partingCalls handle)

theorem Trimmed.told_of_open {times : Nat} (trimmed : Trimmed tuning times b handle)
    (isOpen : b.isClosed handle = false) :
    b.adjustments handle = (List.replicate times (tuning.calls handle)).flatten := by
  rw [trimmed, isOpen, if_neg (by simp), List.append_nil]

theorem Trimmed.step {times more : Nat} {told : List Call}
    (trimmed : Trimmed tuning times b handle) (treats : Treats b tuning handle more told)
    (grown : b'.adjustments handle = b.adjustments handle ++ told) :
    Trimmed tuning (times + more) b' handle := by
  have again : (List.replicate (times + 1) (tuning.calls handle)).flatten =
      (List.replicate times (tuning.calls handle)).flatten ++ tuning.calls handle := by
    rw [List.replicate_succ', List.flatten_append, List.flatten_singleton]
  -- A closed handle is ignored; in the other cases the closing is not there yet.
  cases treats with
  | ignored =>
    rw [List.append_nil] at grown
    cases closed : b.isClosed handle with
    | true => exact .of_closed (by rw [grown, trimmed, if_pos closed, Nat.add_zero])
    | false => exact .of_open (by rw [grown, trimmed.told_of_open closed, Nat.add_zero])
  | tuned isOpen => exact .of_open (by rw [grown, trimmed.told_of_open isOpen, again])
  | closed isOpen =>
    exact .of_closed (by rw [grown, trimmed.told_of_open isOpen, Nat.add_zero])
  | replaced isOpen =>
    exact .of_closed (by rw [grown, trimmed.told_of_open isOpen, again, List.append_assoc])

theorem map_tuned {α : Type} (f : Call → Option (Nat × α)) (times : Nat) (calls : List Call) :
    ((List.replicate times calls).flatten.filterMap f).map Prod.snd =
      (List.replicate times ((calls.filterMap f).map Prod.snd)).flatten := by
  simp only [List.filterMap_flatten, List.map_flatten, List.map_replicate]

theorem Trimmed.lifetimes {times : Nat} (trimmed : Trimmed tuning times b handle) :
    b.lifetimesOf handle = (List.replicate times tuning.lifetime.toList).flatten ++
      if b.isClosed handle then [Connection.retireLifetime] else [] := by
  have once : ((tuning.calls handle).filterMap Call.lifetime?).map Prod.snd =
      tuning.lifetime.toList := by
    obtain ⟨lifetime, maxIdle⟩ := tuning
    cases lifetime <;> cases maxIdle <;> rfl
  rw [lifetimesOf_eq, trimmed, List.filterMap_append, List.map_append, map_tuned, once]
  split <;> rfl

theorem Trimmed.idleLimits {times : Nat} (trimmed : Trimmed tuning times b handle) :
    b.idleLimitsOf handle = (List.replicate times tuning.maxIdle.toList).flatten := by
  have once : ((tuning.calls handle).filterMap Call.idleLimit?).map Prod.snd =
      tuning.maxIdle.toList := by
    obtain ⟨lifetime, maxIdle⟩ := tuning
    cases lifetime <;> cases maxIdle <;> rfl
  rw [idleLimitsOf_eq, trimmed, List.filterMap_append, List.map_append, map_tuned, once]
  split <;> exact List.append_nil _

/-- Nothing is set on a handle that is closed. -/
theorem Trimmed.silent {times : Nat} (trimmed : Trimmed tuning times b handle)
    {before after : List Call} (split : b.log = before ++ .closed handle :: after) :
    ∀ call ∈ after, call.adjusts handle = false := by
  have mark : (Call.closed handle).adjusts handle = true := by simp [Call.adjusts]
  have parts : b.adjustments handle = before.filter (Call.adjusts handle) ++
      .closed handle :: after.filter (Call.adjusts handle) := by
    rw [adjustments, split, List.filter_append, List.filter_cons_of_pos mark]
  have closed : b.isClosed handle = true := by
    rw [isClosed_iff_adjustments, parts]
    simp
  have whole : b.adjustments handle = ((List.replicate times (tuning.calls handle)).flatten ++
      [.lifetimeSet handle Connection.retireLifetime]) ++ [.closed handle] := by
    rw [trimmed, closed, if_pos rfl, partingCalls, List.append_assoc]
    rfl
  rw [whole] at parts
  -- If anything came after the closing, the closing would be there twice.
  intro call here
  by_contra adjusts
  have later : call ∈ after.filter (Call.adjusts handle) :=
    List.mem_filter.mpr ⟨here, by simpa using adjusts⟩
  rcases List.eq_nil_or_concat (after.filter (Call.adjusts handle)) with none | ⟨rest, last, some⟩
  · rw [none] at later
    cases later
  · rw [some, List.concat_eq_append, ← List.cons_append, ← List.append_assoc] at parts
    have early := (List.append_inj' parts rfl).1
    have again : Call.closed handle ∈ (List.replicate times (tuning.calls handle)).flatten ++
        [.lifetimeSet handle Connection.retireLifetime] := by
      rw [early]
      simp
    simp [closed_not_mem_calls] at again

end Backend

/-! ### What one move sets -/

section

variable {handle : Nat} {c : Connection}

theorem filter_calls (tuning : Tuning) (handle other : Nat) :
    (tuning.calls other).filter (Call.adjusts handle) =
      if other = handle then tuning.calls handle else [] := by
  obtain ⟨lifetime, maxIdle⟩ := tuning
  by_cases same : other = handle
  · subst same
    cases lifetime <;> cases maxIdle <;> simp [Tuning.calls, Call.adjusts]
  · cases lifetime <;> cases maxIdle <;> simp [Tuning.calls, Call.adjusts, same]

theorem filter_retirement (handle : Nat) (c : Connection) :
    c.retirement.filter (Call.adjusts handle) =
      if c.handle = handle then partingCalls handle else [] := by
  by_cases same : c.handle = handle
  · subst same
    simp [Connection.retirement, Call.adjusts, partingCalls]
  · simp [Connection.retirement, Call.adjusts, same]

/-- Draining closes the handle if it is there, once. -/
theorem filter_drained {cs : List Connection} (distinct : (cs.map Connection.handle).Nodup)
    (handle : Nat) : (cs.flatMap Connection.retirement).filter (Call.adjusts handle) =
      if handle ∈ cs.map Connection.handle then partingCalls handle else [] := by
  induction cs with
  | nil => rfl
  | cons c rest ih =>
    rw [List.map_cons, List.nodup_cons] at distinct
    rw [List.flatMap_cons, List.filter_append, filter_retirement, ih distinct.2]
    by_cases same : c.handle = handle
    · subst same
      simp [distinct.1]
    · simp [same, Ne.symm same]

/-- A connection that is taken is tuned unless it stalls, and closed if it failed. -/
theorem treats_handling (p : Provider) {b : Backend} (now : Duration)
    (isOpen : b.isClosed c.handle = false) (handle : Nat) :
    b.Treats p.tuning handle
      (if c.handle = handle ∧ Provider.verdict b now c ≠ .stalled then 1 else 0)
      ((p.handling b now c).filter (Call.adjusts handle)) := by
  have probe : (Provider.probing now c).filter (Call.adjusts handle) = [] := by
    rw [Provider.probing]
    split <;> rfl
  have settings := filter_calls p.tuning handle c.handle
  have parting := filter_retirement handle c
  rw [Provider.handling, Provider.treatment, List.filter_append, probe, List.nil_append,
    Connection.farewell_of_open isOpen]
  by_cases same : c.handle = handle
  · subst same
    rw [if_pos rfl] at settings parting
    cases ends : Provider.verdict b now c with
    | recent | alive => simpa [settings] using .tuned isOpen
    | stalled => simpa using .ignored
    | failed => simpa [settings, parting] using .replaced isOpen
  · rw [if_neg same] at settings parting
    rw [if_neg fun both => same both.1]
    cases Provider.verdict b now c with
    | recent | alive => simpa [settings] using .ignored
    | stalled => exact .ignored
    | failed => simpa [settings, parting] using .ignored

end

namespace Session

variable {s : Session} {m : Move} {p : Provider} {handle : Nat}

/-- The handle that a checkout tunes: of the connection that it takes, unless that one's probe
never ends. -/
def tunings (s : Session) (m : Move) : List Nat :=
  match s.act m with
  | .checkout _ => ((s.pool.idle.take 1).filter fun c =>
      Provider.verdict s.backend s.clock c ≠ .stalled).map Connection.handle
  | _ => []

/-- Callers set nothing on native handles and close none. -/
def sparesSettings (_ : Session) : Move → Bool
  | .command (.tune _ _) | .command (.nativeClose _) => false
  | _ => true

theorem sparesHandles_of_settings (spares : sparesSettings s m = true) :
    sparesHandles s m = true := by
  unfold sparesHandles
  split
  · cases spares
  · rfl

/-- The front is tuned once, unless its probe never ends. -/
theorem count_front (verdict : Connection → Finding) (c : Connection) (others : List Connection)
    (handle : Nat) :
    ((((c :: others).take 1).filter fun c => verdict c ≠ .stalled).map Connection.handle).count
      handle = if c.handle = handle ∧ verdict c ≠ .stalled then 1 else 0 := by
  by_cases stalls : verdict c = .stalled
  · simp [stalls]
  · simp [stalls, List.count_singleton]

/-- One move tunes a handle, closes it, or both, and does neither to one that is closed. -/
theorem Kept.treats (kept : Kept (rest s)) (served : s.provider = some p)
    (spares : sparesSettings s m = true) (handle : Nat) :
    s.backend.Treats p.tuning handle ((s.tunings m).count handle)
      ((s.upkeep m).filter (Call.adjusts handle)) := by
  have isOpen := kept.conserved.isOpen
  have known := s.acts m
  rw [upkeep, tunings]
  generalize s.act m = a at known
  cases known with
  | @checkout _ p' served' free =>
    obtain rfl : p = p' := Option.some.inj (served.symm.trans served')
    simp only [System.upkeepOf]
    cases line : s.pool.idle with
    | nil => exact .ignored
    | cons c others =>
      have front : s.backend.isClosed c.handle = false :=
        isOpen c (mem_live_of_idle (by simp [line]))
      have one : ((c :: others).take 1).flatMap (p.handling s.backend s.clock) =
          p.handling s.backend s.clock c := by simp
      rw [one, count_front (Provider.verdict s.backend s.clock)]
      exact treats_handling p s.clock front handle
  | @retire _ c here =>
    simp only [System.upkeepOf, Connection.farewell_of_open (isOpen c here), filter_retirement]
    split
    · next same => exact .closed (same ▸ isOpen c here)
    · exact .ignored
  | @close _ retire =>
    cases retire with
    | false => exact .ignored
    | true =>
      simp only [System.upkeepOf, filter_drained kept.idle_handles]
      split
      · next here =>
        obtain ⟨c, idle, same⟩ := List.mem_map.mp here
        exact .closed (same ▸ isOpen c (mem_live_of_idle idle))
      · exact .ignored
  | @ask name c request asked =>
    cases request with
    | tune tuning => cases spares
    | _ => exact .ignored
  | _ => exact .ignored

/-- What was set on a handle in a run is told by how often its connection was recycled and by
whether it is closed. -/
theorem Kept.trimmed {times : Nat} (kept : Kept (rest s)) (served : s.provider = some p)
    (spares : sparesSettings s m = true)
    (trimmed : Backend.Trimmed p.tuning times s.backend handle) :
    Backend.Trimmed p.tuning (times + (s.tunings m).count handle) (s.move m).backend handle := by
  apply trimmed.step (kept.treats served spares handle)
  rw [Backend.adjustments_eq, Backend.adjustments_eq,
    kept.upkeep_move (sparesHandles_of_settings spares), List.filter_append]

theorem ofBuild_tuning {config : Config} {drivers : DriverRegistry Unit}
    {dialects : DialectRegistry} (built : Provider.build config drivers dialects = .ok p) :
    p.tuning = Tuning.ofConfig config := by
  rw [Provider.build] at built
  split at built
  · cases built
  · obtain rfl := Except.ok.inj built
    rfl

/-- Whoever sets nothing on native handles and closes none finds on each of them as many copies of
the configured settings as checkouts took its connection and got past the probe, then, if it is
closed, one last lifetime and the closing, and nothing else. -/
theorem settings_traced {config : Config} {drivers : DriverRegistry Unit}
    {dialects : DialectRegistry} (built : Provider.build config drivers dialects = .ok p)
    {backend : Backend} (fresh : backend.log = []) {moves : List Move}
    (admitted : Admitted sparesSettings (start backend p.pool (some p)) moves) (handle : Nat) :
    let began := start backend p.pool (some p)
    let s := began.after moves
    let tuning := Tuning.ofConfig config
    let times := (along tunings began moves).count handle
    s.backend.adjustments handle = (List.replicate times (tuning.calls handle)).flatten ++
        (if s.backend.isClosed handle then
          [.lifetimeSet handle Connection.retireLifetime, .closed handle] else []) ∧
      s.backend.lifetimesOf handle = (List.replicate times tuning.lifetime.toList).flatten ++
        (if s.backend.isClosed handle then [Connection.retireLifetime] else []) ∧
      s.backend.idleLimitsOf handle = (List.replicate times tuning.maxIdle.toList).flatten ∧
      ∀ before after, s.backend.log = before ++ .closed handle :: after →
        ∀ call ∈ after, call.adjusts handle = false := by
  intro began s tuning times
  have orderly : Orderly began := orderly_start backend _ (some p)
  have kept : Kept (rest began) := kept_start fresh _ (some p)
  have untouched :
      Backend.Trimmed p.tuning (([] : List Nat).count handle) began.backend handle := by
    change backend.log.filter _ = _ ++ if backend.isClosed handle then _ else _
    simp [Backend.isClosed, Backend.closedHandles, fresh]
  have reached := admitted.gathers
    (I := fun past s => (Orderly s ∧ Kept (rest s)) ∧ s.provider = some p ∧
      Backend.Trimmed p.tuning (past.count handle) s.backend handle)
    (fun past s m spares reached => by
      obtain ⟨⟨there, now⟩, served, trimmed⟩ := reached
      refine ⟨⟨orderly_move there m, kept_move there now (sparesHandles_of_settings spares)⟩,
        (provider_after there [m]).trans served, ?_⟩
      rw [List.count_append]
      exact now.trimmed served spares trimmed)
    ⟨⟨orderly, kept⟩, rfl, untouched⟩
  obtain ⟨-, -, trimmed⟩ := reached
  rw [List.nil_append, ofBuild_tuning built] at trimmed
  exact ⟨trimmed, trimmed.lifetimes, trimmed.idleLimits, fun _ _ split => trimmed.silent split⟩

theorem settings_traced_replaced :
    let config := ((Config.ofEndpoint "mock" "db").withMaxPoolSize 1).addParameter
      Tuning.lifetimeKey (.integer 40)
    let p : Provider := ⟨config, .single "mock" (), .empty, ⟨some (Duration.ofMillis 40), none⟩⟩
    let moves : List Move := [.command (.get "a"), .command (.release "a"), .command (.get "b"),
      .command (.release "b"), .command (.advance (Duration.ofParts 61 0)),
      .command (.setFault .pings true), .command (.get "c")]
    let began := start .fresh p.pool (some p)
    let s := began.after moves
    Provider.build config (.single "mock" ()) .empty = .ok p ∧ Backend.fresh.log = [] ∧
      Admitted sparesSettings began moves ∧
      s.backend.adjustments 1 = (List.replicate ((along tunings began moves).count 1)
        ((Tuning.ofConfig config).calls 1)).flatten ++ partingCalls 1 ∧
      (along tunings began moves).count 1 = 2 ∧ (along tunings began moves).count 2 = 0 ∧
      (Tuning.ofConfig config).calls 1 = [.lifetimeSet 1 (Duration.ofMillis 40)] := by
  have built : Provider.build (((Config.ofEndpoint "mock" "db").withMaxPoolSize 1).addParameter
      Tuning.lifetimeKey (.integer 40)) (.single "mock" ()) .empty =
        .ok ⟨((Config.ofEndpoint "mock" "db").withMaxPoolSize 1).addParameter
          Tuning.lifetimeKey (.integer 40), .single "mock" (), .empty,
          ⟨some (Duration.ofMillis 40), none⟩⟩ := rfl
  have fresh : Backend.fresh.log = [] := rfl
  have admitted : Admitted sparesSettings (start .fresh (Pool.ofCapacity 1) (some
      ⟨((Config.ofEndpoint "mock" "db").withMaxPoolSize 1).addParameter
        Tuning.lifetimeKey (.integer 40), .single "mock" (), .empty,
        ⟨some (Duration.ofMillis 40), none⟩⟩))
      [.command (.get "a"), .command (.release "a"), .command (.get "b"), .command (.release "b"),
        .command (.advance (Duration.ofParts 61 0)), .command (.setFault .pings true),
        .command (.get "c")] := ⟨rfl, rfl, rfl, rfl, rfl, rfl, rfl, trivial⟩
  obtain ⟨law, -⟩ := settings_traced built fresh admitted 1
  rw [if_pos (by decide +kernel)] at law
  exact ⟨built, fresh, admitted, law, by decide +kernel, by decide +kernel, by decide +kernel⟩

end Session
end Datastore
