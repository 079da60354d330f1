import Datastore.Config.Dsn
import Datastore.Proofs.Numerals
import Datastore.Proofs.Sites
import Datastore.Tuning

/-!
# Ways to set a parameter

A scalar can be set by hand, written into a document as a literal, or written into it as a string.
The text that is stored is the same, so nothing that is read from the configuration tells the three
apart, whatever else the document holds and however it is laid out. An integer of 64 bits is read
back as it is; an unsigned one beyond keeps its digits but is no number. Main statement:
`parameters_uniform`.
-/

namespace Datastore.Config

open Json (Number Tree Value)

/-! ### Configurations that agree -/

namespace Reordered

variable {c c' : Config}

theorem placeholder? (reordered : c.Reordered c') (name : String) :
    c'.placeholder? name = c.placeholder? name := by
  have username : c'.username = c.username := by rw [reordered.others]
  have password : c'.password = c.password := by rw [reordered.others]
  unfold Config.placeholder?
  split <;> simp only [username, password, reordered.text?]

theorem expandSegments (reordered : c.Reordered c') (segments : List Segment) :
    c'.expandSegments segments = c.expandSegments segments := by
  have driverName : c'.driverName = c.driverName := by rw [reordered.others]
  have descriptor : c'.descriptor = c.descriptor := by rw [reordered.others]
  induction segments with
  | nil => rfl
  | cons segment rest ih =>
    have same : c'.expandSegment segment = c.expandSegment segment := by
      cases segment <;>
        simp only [Config.expandSegment, reordered.placeholder?, driverName, descriptor]
    rw [Config.expandSegments, Config.expandSegments, same, ih]

theorem dsn (reordered : c.Reordered c') : c'.dsn = c.dsn := by
  have descriptor : c'.descriptor = c.descriptor := by rw [reordered.others]
  rw [Config.dsn, Config.dsn, descriptor, reordered.expandSegments]

end Reordered

/-- No reader tells the two configurations apart. -/
structure Agrees (c c' : Config) : Prop where
  reordered : c.Reordered c'
  has : ∀ key, c'.has key = c.has key
  text? : ∀ key, c'.text? key = c.text? key
  integer : ∀ key default, c'.integer key default = c.integer key default
  duration? : ∀ key unit default, c'.duration? key unit default = c.duration? key unit default
  dsn : c'.dsn = c.dsn
  tuning : Tuning.ofConfig c' = Tuning.ofConfig c

theorem Reordered.agrees {c c' : Config} (reordered : c.Reordered c') : c.Agrees c' := by
  have same := reordered.text?
  have trimmed (key : String) : c'.trimmed? key = c.trimmed? key := by
    rw [trimmed?, trimmed?, same]
  have has (key : String) : c'.has key = c.has key := congrArg Option.isSome (same key)
  have integer (key : String) (default : Int) : c'.integer key default = c.integer key default := by
    rw [Config.integer, Config.integer, trimmed]
  have duration (key : String) (unit : Duration) (default : Nat) :
      c'.duration? key unit default = c.duration? key unit default := by
    rw [Config.duration?, Config.duration?, trimmed]
  exact ⟨reordered, has, same, integer, duration, reordered.dsn, by
    simp only [Tuning.ofConfig, has, integer, duration]⟩

/-! ### Scalars in documents -/

namespace Scalar

/-- The value of a scalar in a document. -/
def value : Scalar → Value
  | .text content => .string content
  | .integer n => .number (.ofInt n)
  | .flag value => .bool value

/-- How a literal is read. -/
def tree : Scalar → Tree
  | .text content => .string (some content)
  | .integer n => .number (.ofInt n)
  | .flag value => .bool value

/-- Integers are of 64 bits, signed or unsigned. -/
def Fits : Scalar → Prop
  | .integer n => -9223372036854775808 ≤ n ∧ n < 18446744073709551616
  | _ => True

theorem tree?_value (v : Scalar) : v.value.tree? = some v.tree := by
  cases v with
  | integer n => cases n <;> rfl
  | _ => rfl

/-- A literal is the text that is stored. -/
theorem render_value (v : Scalar) :
    (∃ content, v = .text content) ∨ String.ofList v.value.render = v.toText := by
  cases v with
  | text content => exact .inl ⟨content, rfl⟩
  | integer n => exact .inr (congrArg String.ofList (Number.render_ofInt n))
  | flag value => cases value <;> exact .inr rfl

/-- A literal is read as the scalar's text. -/
theorem readParameter?_tree {v : Scalar} (fits : v.Fits) (key : String) :
    readParameter? (some key, v.tree) = some (key, v.toText) := by
  cases v with
  | text content => rfl
  | flag value => cases value <;> rfl
  | integer n =>
    have exact : Number.ofNumeral? (.ofInt n) = some (.ofInt n) := by
      rw [Number.ofNumeral?, Number.integer?_ofInt fits.1 fits.2]
    have written : parameterText (.number (.ofInt n)) = (Scalar.integer n).toText :=
      congrArg String.ofList (Number.render_ofInt n)
    simp only [readParameter?, tree, Value.ofTree?, exact, Option.map_some, Option.bind_some,
      written]

/-- As a literal, or its text as a string: the value that is written and how it is read. -/
def ways (v : Scalar) : List (Value × Tree) :=
  [(v.value, v.tree), (.string v.toText, .string (some v.toText))]

theorem tree?_way {v : Scalar} {way : Value × Tree} (known : way ∈ v.ways) :
    way.1.tree? = some way.2 := by
  simp only [ways, List.mem_cons, List.not_mem_nil, or_false] at known
  rcases known with rfl | rfl
  · exact v.tree?_value
  · rfl

theorem readParameter?_way {v : Scalar} (fits : v.Fits) (key : String) {way : Value × Tree}
    (known : way ∈ v.ways) : readParameter? (some key, way.2) = some (key, v.toText) := by
  simp only [ways, List.mem_cons, List.not_mem_nil, or_false] at known
  rcases known with rfl | rfl
  · exact readParameter?_tree fits key
  · rfl

end Scalar

/-! ### Sites -/

/-- A document with a place for one parameter among others. -/
structure Site where
  around : Surroundings
  earlier : List (Option String × Tree)
  later : List (Option String × Tree)

namespace Site

/-- The document without the parameter. -/
def vacant (site : Site) : Tree := site.around.fill (.object (site.earlier ++ site.later))

def filled (site : Site) (key : String) (leaf : Tree) : Tree :=
  site.around.fill (.object (site.earlier ++ (some key, leaf) :: site.later))

/-- What is read besides the parameter: those before, those behind and the rest. -/
def others? (site : Site) :
    Option ((List (String × String) × List (String × String)) × Config) :=
  (site.earlier.mapM readParameter?).bind fun earlier =>
    (site.later.mapM readParameter?).bind fun later =>
      (ofTree? (site.around.fill (.object []))).map fun c => ((earlier, later), c)

variable {site : Site} {key text : String} {leaf : Tree}

/-- Members between the earlier and the later ones are read between them. -/
theorem ofTree?_between {middle : List (Option String × Tree)} {texts : List (String × String)}
    (read : middle.mapM readParameter? = some texts) :
    ofTree? (site.around.fill (.object (site.earlier ++ (middle ++ site.later)))) =
      site.others?.map fun others =>
        { others.2 with parameters := Table.ofList (others.1.1 ++ (texts ++ others.1.2)) } := by
  rw [ofTree?_fill, readParameters?, List.mapM_append, List.mapM_append, read, others?]
  cases site.earlier.mapM readParameter? with
  | none => rfl
  | some earlier =>
    cases site.later.mapM readParameter? with
    | none => rfl
    | some later => cases ofTree? (site.around.fill (.object [])) <;> rfl

theorem ofTree?_vacant (site : Site) : ofTree? site.vacant = site.others?.map fun others =>
    { others.2 with parameters := Table.ofList (others.1.1 ++ others.1.2) } :=
  ofTree?_between (rfl : ([] : List (Option String × Tree)).mapM readParameter? = some [])

theorem ofTree?_filled (read : readParameter? (some key, leaf) = some (key, text)) :
    ofTree? (site.filled key leaf) = site.others?.map fun others =>
      { others.2 with parameters := Table.ofList (others.1.1 ++ (key, text) :: others.1.2) } := by
  have alone : [(some key, leaf)].mapM readParameter? = some [(key, text)] := by simp [read]
  exact ofTree?_between alone

theorem names_of_read {members : List (Option String × Tree)} {entries : List (String × String)}
    (read : members.mapM readParameter? = some entries) :
    members.map Prod.fst = entries.map fun entry => some entry.1 := by
  induction members generalizing entries with
  | nil =>
    cases read
    rfl
  | cons member rest ih =>
    obtain ⟨name, tree⟩ := member
    simp only [List.mapM_cons, Option.pure_def, Option.bind_eq_bind, Option.bind_eq_some_iff,
      readParameter?, Option.map_eq_some_iff, Option.some.injEq] at read
    obtain ⟨_, ⟨key, rfl, value, -, rfl⟩, others, more, rfl⟩ := read
    rw [List.map_cons, List.map_cons, ih more]

/-- A name that no later member has is not read from the later members. -/
theorem not_mem_later {others : (List (String × String) × List (String × String)) × Config}
    (known : site.others? = some others) (last : ∀ member ∈ site.later, member.1 ≠ some key) :
    key ∉ others.1.2.map Prod.fst := by
  simp only [others?, Option.bind_eq_some_iff, Option.map_eq_some_iff] at known
  obtain ⟨_, -, later, read, _, -, rfl⟩ := known
  intro here
  obtain ⟨entry, listed, rfl⟩ := List.mem_map.mp here
  have named : some entry.1 ∈ site.later.map Prod.fst := by
    rw [names_of_read read]
    exact List.mem_map.mpr ⟨entry, listed, rfl⟩
  obtain ⟨member, there, same⟩ := List.mem_map.mp named
  exact last member there same

/-- The parameter is set behind all others, unless a later one replaces it. -/
theorem filled_of_vacant (read : readParameter? (some key, leaf) = some (key, text))
    (last : ∀ member ∈ site.later, member.1 ≠ some key) {c : Config}
    (known : ofTree? site.vacant = some c) : ∃ c', ofTree? (site.filled key leaf) = some c' ∧
      ({ c with parameters := c.parameters.insert key text } : Config).Reordered c' := by
  rw [ofTree?_vacant, Option.map_eq_some_iff] at known
  obtain ⟨others, found, rfl⟩ := known
  refine ⟨_, by rw [ofTree?_filled read, found, Option.map_some], ?_, rfl⟩
  exact Table.insert_ofList_perm text others.1.1 (not_mem_later found last)

theorem text?_filled (read : readParameter? (some key, leaf) = some (key, text))
    (last : ∀ member ∈ site.later, member.1 ≠ some key) {c : Config}
    (known : ofTree? (site.filled key leaf) = some c) : c.text? key = some text := by
  rw [ofTree?_filled read, Option.map_eq_some_iff] at known
  obtain ⟨others, found, rfl⟩ := known
  have behind := Table.find?_of_perm
    (Table.insert_ofList_perm text others.1.1 (not_mem_later found last)) key
  rw [Table.find?_insert_self] at behind
  exact behind

theorem filled_eq_none_iff (read : readParameter? (some key, leaf) = some (key, text)) :
    ofTree? (site.filled key leaf) = none ↔ ofTree? site.vacant = none := by
  rw [ofTree?_filled read, ofTree?_vacant, Option.map_eq_none_iff, Option.map_eq_none_iff]

end Site

/-- The answer for what is read. -/
def checked : Option Config → Except Error Config
  | none => .error (.config .malformed)
  | some c =>
    match c.validate with
    | .error error => .error error
    | .ok () => .ok c

theorem ofText_of_tree {text : String} {tree : Tree}
    (spelt : Tree.ofText? text.toList = some tree) : ofText text = checked (ofTree? tree) := by
  have read : (Tree.ofText? text.toList).bind ofTree? = ofTree? tree := by
    rw [spelt, Option.bind_some]
  exact congrArg checked read

theorem checked_eq_ok {read : Option Config} {c : Config} (accepted : checked read = .ok c) :
    read = some c := by
  unfold checked at accepted
  split at accepted
  · cases accepted
  · split at accepted
    · cases accepted
    · cases accepted
      rfl

/-- A text is read as another one with a parameter set by hand. -/
structure Matches (key : String) (v : Scalar) (vacant given : String) : Prop where
  refused : ∀ error, ofText given = .error error ↔ ofText vacant = .error error
  accepted : ∀ c, ofText vacant = .ok c →
    ∃ c', ofText given = .ok c' ∧ (c.addParameter key v).Agrees c'

namespace Matches

variable {key : String} {v : Scalar} {vacant given : String}

theorem of_error {fault : Error} (plain : ofText vacant = .error fault)
    (whole : ofText given = .error fault) : Matches key v vacant given := by
  constructor
  · intro error
    rw [plain, whole]
  · intro c accepted
    rw [plain] at accepted
    cases accepted

theorem of_ok {c c' : Config} (plain : ofText vacant = .ok c) (whole : ofText given = .ok c')
    (reordered : (c.addParameter key v).Reordered c') : Matches key v vacant given := by
  constructor
  · intro error
    rw [plain, whole]
    exact ⟨nofun, nofun⟩
  · intro other accepted
    rw [plain] at accepted
    cases accepted
    exact ⟨c', whole, reordered.agrees⟩

end Matches

theorem Site.matched {site : Site} {key : String} {v : Scalar} {leaf : Tree} {vacant given : String}
    (read : readParameter? (some key, leaf) = some (key, v.toText))
    (last : ∀ member ∈ site.later, member.1 ≠ some key)
    (without : Tree.ofText? vacant.toList = some site.vacant)
    (spelt : Tree.ofText? given.toList = some (site.filled key leaf)) :
    Matches key v vacant given := by
  have plain := ofText_of_tree without
  have whole := ofText_of_tree spelt
  cases known : ofTree? site.vacant with
  | none =>
    simp only [known, checked] at plain
    simp only [(Site.filled_eq_none_iff read).mpr known, checked] at whole
    exact .of_error plain whole
  | some c =>
    obtain ⟨c', found, reordered⟩ := Site.filled_of_vacant read last known
    have validated : c'.validate = c.validate := reordered.validate
    -- The driver's name alone decides whether a configuration is accepted.
    cases valid : c.validate with
    | error fault =>
      simp only [known, checked, valid] at plain
      simp only [found, checked, validated, valid] at whole
      exact .of_error plain whole
    | ok =>
      simp only [known, checked, valid] at plain
      simp only [found, checked, validated, valid] at whole
      exact .of_ok plain whole reordered

/-! ### Documents with one parameter more -/

/-- The members of the document of a configuration with other parameters. -/
def membersWith (c : Config) (parameters : List (String × Value)) : List (String × Value) :=
  [("driverName", .string c.driverName),
   ("descriptor", .string c.descriptor),
   ("parameters", .object parameters),
   ("initSQL", .array (c.initSql.map .string)),
   ("maxPoolSize", .number (.natural c.maxPoolSize.toNat)),
   ("username", match c.username with
     | some name => .string name
     | none => .null)]

def parameterValues (c : Config) : List (String × Value) :=
  c.parameters.entries.map fun entry => (entry.1, .string entry.2)

theorem toJson_eq (c : Config) : c.toJson = .object (c.membersWith c.parameterValues) := rfl

/-- The compact text of a configuration with one parameter more. -/
def documentWith (c : Config) (key : String) (way : Value) : String :=
  String.ofList (Value.object (c.membersWith (c.parameterValues ++ [(key, way)]))).render

/-- Behind all parameters of a configuration. -/
def site (c : Config) : Site where
  around := .members ((c.fields.map Field.member).take 2) ((c.fields.map Field.member).drop 3)
  earlier := c.parameters.entries.map parameterMember
  later := []

theorem memberTrees?_with (entries : List (String × String)) {key : String} {way : Value}
    {leaf : Tree} (exact : way.tree? = some leaf) :
    Value.memberTrees? ((entries.map fun entry => (entry.1, .string entry.2)) ++ [(key, way)]) =
      some (entries.map parameterMember ++ [(some key, leaf)]) := by
  induction entries with
  | nil =>
    rw [List.map_nil, List.nil_append, Value.memberTrees?, exact]
    rfl
  | cons entry rest ih =>
    rw [List.map_cons, List.cons_append, Value.memberTrees?, ih]
    rfl

theorem ofText?_membersWith (c : Config) {parameters : List (String × Value)}
    {trees : List (Option String × Tree)} (exact : Value.memberTrees? parameters = some trees) :
    Tree.ofText? (Value.object (c.membersWith parameters)).render =
      some (c.site.around.fill (.object trees)) := by
  apply Value.ofText?_render
  cases user : c.username <;>
    simp [membersWith, Value.memberTrees?, Value.tree?, exact, fields, Field.member, Field.name,
      itemTrees?_statements, nameTree, user]

theorem ofText?_documentWith (c : Config) (key : String) {way : Value} {leaf : Tree}
    (exact : way.tree? = some leaf) :
    Tree.ofText? (c.documentWith key way).toList = some (c.site.filled key leaf) := by
  rw [documentWith, String.toList_ofList]
  exact c.ofText?_membersWith (memberTrees?_with _ exact)

theorem ofText?_site (c : Config) : Tree.ofText? c.document.toList = some c.site.vacant := by
  rw [document, String.toList_ofList, toJson_eq, Site.vacant, site, List.append_nil]
  exact c.ofText?_membersWith (memberTrees?_parameters _)

/-! ### Main statement -/

/-- A scalar gets one text in all ways. -/
structure Uniform (key : String) (v : Scalar) : Prop where
  /-- Set by hand. -/
  stored : ∀ c : Config, (c.addParameter key v).text? key = some v.toText
  /-- Only strings are written otherwise than they are stored. -/
  token : (∃ content, v = .text content) ∨ String.ofList v.value.render = v.toText
  /-- Read from a document, of whatever layout and with whatever else in it. -/
  found : ∀ way ∈ v.ways, ∀ (site : Site) (given : String),
    (∀ member ∈ site.later, member.1 ≠ some key) →
    Tree.ofText? given.toList = some (site.filled key way.2) →
    ∀ c, ofText given = .ok c → c.text? key = some v.toText
  /-- Documents that differ in the way and in the layout give the same answer. -/
  alike : ∀ way ∈ v.ways, ∀ way' ∈ v.ways, ∀ (site : Site) (given given' : String),
    Tree.ofText? given.toList = some (site.filled key way.2) →
    Tree.ofText? given'.toList = some (site.filled key way'.2) → ofText given = ofText given'
  /-- It is the answer for the document without, and then the parameter set by hand. -/
  read : ∀ way ∈ v.ways, ∀ (site : Site) (vacant given : String),
    (∀ member ∈ site.later, member.1 ≠ some key) →
    Tree.ofText? vacant.toList = some site.vacant →
    Tree.ofText? given.toList = some (site.filled key way.2) → Matches key v vacant given
  written : ∀ way ∈ v.ways, ∀ c : Config, c.validate = .ok () →
    ∃ c', ofText (c.documentWith key way.1) = .ok c' ∧
      (c.published.addParameter key v).Agrees c'
  /-- Signed integers are read back, larger ones are not. -/
  counted : ∀ n, v = .integer n → ∀ c : Config, c.text? key = some v.toText →
    ∀ default, c.integer key default = if n < 9223372036854775808 then n else default

/-- However a parameter is set, it means the same. -/
theorem parameters_uniform (key : String) {v : Scalar} (fits : v.Fits) : Uniform key v := by
  constructor
  · intro c
    exact c.text?_addParameter key v
  · exact v.render_value
  · intro way known site given last spelt c accepted
    rw [ofText_of_tree spelt] at accepted
    exact Site.text?_filled (Scalar.readParameter?_way fits key known) last (checked_eq_ok accepted)
  · intro way known way' known' site given given' spelt spelt'
    have first : ofTree? (site.filled key way.2) = _ :=
      Site.ofTree?_filled (Scalar.readParameter?_way fits key known)
    have second : ofTree? (site.filled key way'.2) = _ :=
      Site.ofTree?_filled (Scalar.readParameter?_way fits key known')
    rw [ofText_of_tree spelt, ofText_of_tree spelt', first, second]
  · intro way known site vacant given last without spelt
    exact Site.matched (Scalar.readParameter?_way fits key known) last without spelt
  · intro way known c valid
    have matched : Matches key v c.document (c.documentWith key way.1) :=
      Site.matched (Scalar.readParameter?_way fits key known) (by simp [site]) c.ofText?_site
        (c.ofText?_documentWith key (Scalar.tree?_way known))
    exact matched.accepted c.published (ofText_document valid)
  · rintro n rfl c written default
    have low : -9223372036854775808 ≤ n := fits.1
    rw [integer_of_text written]
    simp only [low, true_and]

theorem parameters_uniform_largest :
    let c := ofEndpoint "pg" "db"
    let v := Scalar.integer 9223372036854775807
    v.Fits ∧ c.documentWith "n" v.value =
        "\x7b\"driverName\":\"pg\",\"descriptor\":\"db\",\"parameters\":" ++
          "\x7b\"n\":9223372036854775807\x7d,\"initSQL\":[],\"maxPoolSize\":0," ++
          "\"username\":null\x7d" ∧
      ∀ way ∈ v.ways, ∃ c', ofText (c.documentWith "n" way.1) = .ok c' ∧
        (c.addParameter "n" v).Agrees c' ∧
        ∀ default, c'.integer "n" default = 9223372036854775807 := by
  intro c v
  have fits : v.Fits := by
    constructor <;> decide
  have uniform := parameters_uniform "n" fits
  refine ⟨fits, by decide +kernel, ?_⟩
  intro way known
  obtain ⟨c', read, agrees⟩ := uniform.written way known c (by decide)
  refine ⟨c', read, agrees, ?_⟩
  intro default
  have same : c'.text? "n" = some v.toText := (agrees.text? "n").trans (uniform.stored c)
  exact uniform.counted 9223372036854775807 rfl c' same default

end Datastore.Config
