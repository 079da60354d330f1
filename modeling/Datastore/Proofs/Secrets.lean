import Datastore.Proofs.Session.Readdress

/-!
# Secrets

Credentials and most parameters are there to be put into the data source name. Two configurations
with the same names of parameters, and with credentials at the same places, may differ in their
values: whatever is done with either, all answers are the same, errors with their texts included,
and so is all that can be observed of the pool and the backend but data source names. Main
statement: `secrets_confined`.
-/

namespace Datastore

/-- What is wrong, if anything is. -/
def fault? {ε α : Type} : Except ε α → Option ε
  | .error error => some error
  | .ok _ => none

namespace Config

/-- Configurations that differ at most in the values of credentials and of parameters that are not
settings of a native handle. -/
structure Alike (c c' : Config) : Prop where
  driverName : c'.driverName = c.driverName
  descriptor : c'.descriptor = c.descriptor
  initSql : c'.initSql = c.initSql
  maxPoolSize : c'.maxPoolSize = c.maxPoolSize
  username : c'.username.isSome = c.username.isSome
  password : c'.password.isSome = c.password.isSome
  keys : ∀ key, c'.has key = c.has key
  settings : ∀ key ∈ [Tuning.lifetimeKey, Tuning.maxIdleKey], c'.text? key = c.text? key

variable {c c' : Config}

theorem Alike.withMaxPoolSize (alike : c.Alike c') (size : UInt32) :
    (c.withMaxPoolSize size).Alike (c'.withMaxPoolSize size) :=
  { alike with maxPoolSize := rfl }

/-- The same names have a value. -/
theorem Alike.placeholder? (alike : c.Alike c') (name : String) :
    (c'.placeholder? name).isSome = (c.placeholder? name).isSome := by
  have known : (c'.text? name).isSome = (c.text? name).isSome := alike.keys name
  unfold Config.placeholder?
  split <;> simp only [Option.isSome_or, alike.username, alike.password, known]

theorem Alike.expandSegment (alike : c.Alike c') (segment : Segment) :
    fault? (c'.expandSegment segment) = fault? (c.expandSegment segment) := by
  cases segment with
  | plain char => rfl
  | unterminated => simp only [Config.expandSegment, alike.driverName, alike.descriptor]
  | placeholder name =>
    have same := alike.placeholder? (String.ofList name)
    simp only [Config.expandSegment, alike.driverName, alike.descriptor]
    cases value : c.placeholder? (String.ofList name) with
    | none =>
      rw [value, Option.isSome_none, Option.isSome_eq_false_iff, Option.isNone_iff_eq_none] at same
      rw [same]
    | some text =>
      rw [value, Option.isSome_some, Option.isSome_iff_exists] at same
      obtain ⟨text', value'⟩ := same
      rw [value']
      rfl

/-- The first fault is the one that counts. -/
theorem fault?_expandSegments_cons (c : Config) (segment : Segment) (rest : List Segment) :
    fault? (c.expandSegments (segment :: rest)) =
      (fault? (c.expandSegment segment)).or (fault? (c.expandSegments rest)) := by
  rw [Config.expandSegments]
  cases c.expandSegment segment with
  | error fault => rfl
  | ok text => cases c.expandSegments rest <;> rfl

theorem Alike.expandSegments (alike : c.Alike c') (segments : List Segment) :
    fault? (c'.expandSegments segments) = fault? (c.expandSegments segments) := by
  induction segments with
  | nil => rfl
  | cons segment rest ih =>
    rw [fault?_expandSegments_cons, fault?_expandSegments_cons, alike.expandSegment, ih]

theorem fault?_dsn (c : Config) :
    fault? c.dsn = (fault? (c.expandSegments (segments c.descriptor.toList))).map .config := by
  rw [dsn]
  cases c.expandSegments (segments c.descriptor.toList) <;> rfl

/-- Either template can be filled in or neither, with the same error. -/
theorem Alike.dsn (alike : c.Alike c') : fault? c'.dsn = fault? c.dsn := by
  rw [fault?_dsn, fault?_dsn, alike.descriptor, alike.expandSegments]

theorem Alike.tuning (alike : c.Alike c') : Tuning.ofConfig c' = Tuning.ofConfig c := by
  have lifetime := alike.settings Tuning.lifetimeKey (by simp)
  have maxIdle := alike.settings Tuning.maxIdleKey (by simp)
  simp only [Tuning.ofConfig, alike.keys, duration?, integer, trimmed?, lifetime, maxIdle]

end Config

namespace Provider

variable {c c' : Config}

/-- Of two providers with alike configurations, the second stands for both. -/
theorem stands_of_alike (alike : c.Alike c') (drivers : DriverRegistry Unit)
    (dialects : DialectRegistry) (tuning : Tuning) :
    ∃ dsn, Stands dsn ⟨c, drivers, dialects, tuning⟩ ⟨c', drivers, dialects, tuning⟩ ∧
      Stands dsn ⟨c', drivers, dialects, tuning⟩ ⟨c', drivers, dialects, tuning⟩ := by
  obtain ⟨dsn, other, self⟩ : ∃ dsn, c'.dsn = c.dsn.map (fun _ => dsn) ∧
      c'.dsn = c'.dsn.map fun _ => dsn := by
    have same := alike.dsn
    cases source' : c'.dsn with
    | error error =>
      cases source : c.dsn with
      | error first =>
        obtain rfl : error = first := by simpa [source, source', fault?] using same
        exact ⟨"", rfl, rfl⟩
      | ok text => simp [source, source', fault?] at same
    | ok dsn =>
      cases source : c.dsn with
      | error first => simp [source, source', fault?] at same
      | ok text => exact ⟨dsn, rfl, rfl⟩
  exact ⟨dsn, ⟨alike.driverName, alike.descriptor, alike.initSql, alike.maxPoolSize, rfl, rfl, rfl,
    other⟩, ⟨rfl, rfl, rfl, rfl, rfl, rfl, rfl, self⟩⟩

/-- Either both configurations are refused, in the same words, or neither is, and then the second
provider stands for both. -/
theorem build_alike (alike : c.Alike c') (drivers : DriverRegistry Unit)
    (dialects : DialectRegistry) :
    (∃ error, build c drivers dialects = .error error ∧ build c' drivers dialects = .error error) ∨
      ∃ p p' dsn, build c drivers dialects = .ok p ∧ build c' drivers dialects = .ok p' ∧
        p'.pool = p.pool ∧ Stands dsn p p' ∧ Stands dsn p' p' := by
  have valid : c'.validate = c.validate := by simp only [Config.validate, alike.driverName]
  have sized : (if c.maxPoolSize = 0 then c.withMaxPoolSize 1 else c).Alike
      (if c.maxPoolSize = 0 then c'.withMaxPoolSize 1 else c') := by
    split
    · exact alike.withMaxPoolSize 1
    · exact alike
  unfold build
  rw [valid, alike.maxPoolSize, alike.tuning]
  cases c.validate with
  | error error => exact Or.inl ⟨_, rfl, rfl⟩
  | ok done =>
    obtain ⟨dsn, stands, self⟩ := stands_of_alike sized drivers dialects (Tuning.ofConfig c)
    refine Or.inr ⟨_, _, dsn, rfl, rfl, ?_, stands, self⟩
    simp only [pool, Config.effectivePoolSize, sized.maxPoolSize]

end Provider

namespace Session

/-- What is seen of a run from outside, but for the data source names. -/
def visible (seen : List (Answer × Report)) : List (Answer × Report) :=
  seen.map fun entry => (entry.1, entry.2.readdress "")

theorem Report.readdress_readdress (r : Report) (first second : String) :
    (r.readdress first).readdress second = r.readdress second := by
  have calls (call : Call) : (call.readdress first).readdress second = call.readdress second := by
    cases call <;> rfl
  simp only [Report.readdress, List.map_map, Function.comp_def, calls]

/-- What is seen of a session with a new provider. -/
def observed (backend : Backend) (commands : List Command) (p : Provider) :
    List (Answer × Report) := visible (run (start backend p.pool (some p)) commands)

theorem observed_stands {dsn : String} {p p' : Provider} (stands : Provider.Stands dsn p p')
    (pool : p'.pool = p.pool) (backend : Backend) (commands : List Command) :
    visible (run ((start backend p'.pool (some p')).readdress dsn p')
      (commands.map (Command.readdress dsn))) = observed backend commands p := by
  have same : (start backend p'.pool (some p')).readdress dsn p' =
      (start backend p.pool (some p)).readdress dsn p' := by
    rw [pool]
    rfl
  have orderly : Orderly (start backend p.pool (some p)) := orderly_start backend _ _
  rw [same, run_readdress stands orderly rfl, visible, List.map_map, observed, visible]
  refine List.map_congr_left fun entry _ => ?_
  simp only [Function.comp_apply, Report.readdress_readdress]

/-- Credentials and parameters show in data source names only. -/
theorem secrets_confined {c c' : Config} (alike : c.Alike c') (drivers : DriverRegistry Unit)
    (dialects : DialectRegistry) (backend : Backend) (commands : List Command) :
    fault? c'.dsn = fault? c.dsn ∧
      (Provider.build c' drivers dialects).map (observed backend commands) =
        (Provider.build c drivers dialects).map (observed backend commands) := by
  refine ⟨alike.dsn, ?_⟩
  rcases Provider.build_alike alike drivers dialects with
    ⟨error, refused, refused'⟩ | ⟨p, p', dsn, built, built', pool, stands, self⟩
  · rw [refused, refused']
  · rw [built, built']
    simp only [Except.map, ← observed_stands stands pool, ← observed_stands self rfl]

/-- A configuration with a secret and a parameter in its data source name. -/
def template (password host : String) : Config :=
  ((Config.ofEndpoint "mock" "[password]@[host]").withCredentials "u" password).addParameter "host"
    (.text host)

theorem alike_template (password password' host host' : String) :
    (template password host).Alike (template password' host') := by
  have other {key : String} (apart : key ≠ "host") :
      (template password' host').text? key = (template password host).text? key := by
    simp [template, Config.text?, Config.addParameter, Config.withCredentials,
      Table.find?_insert_of_ne _ _ apart]
  refine ⟨rfl, rfl, rfl, rfl, rfl, rfl, ?_, ?_⟩
  · intro key
    by_cases host : key = "host"
    · subst host
      rfl
    · exact congrArg Option.isSome (other host)
  · intro key setting
    apply other
    rintro rfl
    simp [Tuning.lifetimeKey, Tuning.maxIdleKey] at setting

theorem secrets_confined_password :
    let drivers : DriverRegistry Unit := .single "mock" ()
    let commands : List Command := [.get "a", .tryGet "b", .drop "a", .newConnection "c"]
    (template "p" "a").Alike (template "q" "b") ∧ (template "p" "a").dsn = .ok "p@a" ∧
      (template "q" "b").dsn = .ok "q@b" ∧
      (Provider.build (template "q" "b") drivers .builtin).map (observed .fresh commands) =
        (Provider.build (template "p" "a") drivers .builtin).map (observed .fresh commands) :=
  ⟨alike_template .., rfl, rfl, (secrets_confined (alike_template ..) ..).2⟩

end Session
end Datastore
