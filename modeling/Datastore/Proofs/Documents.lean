import Datastore.Config.Document
import Datastore.Proofs.Json.Trees
import Datastore.Proofs.Table

/-!
# Documents read back

A configuration that names a driver is written as a document that reads back as the configuration
without its password, whatever text the fields hold and in whatever order the parameters are
written. What was read from any document therefore stays the same from its first writing on. Main
statement: `documents_round_trip`.
-/

namespace Datastore.Config

open Json (Numeral Tree Value)

/-- The document that a configuration is written as. -/
def document (c : Config) : String := String.ofList c.toJson.render

/-- What a document shows of a configuration. -/
def published (c : Config) : Config := { c with password := none }

/-! ### Members -/

namespace Field

/-- The name that a field is written by. -/
def name : Field → String
  | .driverName => "driverName"
  | .descriptor => "descriptor"
  | .parameters => "parameters"
  | .initSql => "initSQL"
  | .maxPoolSize => "maxPoolSize"
  | .username => "username"
  | .password => "password"

theorem ofName?_name (field : Field) : ofName? field.name = some field := by
  cases field <;> rfl

/-- A field with its value as a member of a document. -/
def member (given : Field × Tree) : Option String × Tree := (some given.1.name, given.2)

end Field

/-- Members written by the names of their fields are found by these. -/
theorem fieldsOfMembers?_map (given : List (Field × Tree)) :
    fieldsOfMembers? (given.map Field.member) = some given := by
  have named : (given.map Field.member).mapM namedMember? =
      some (given.map fun entry => (entry.1.name, entry.2)) := by
    induction given with
    | nil => rfl
    | cons entry rest ih =>
      have first : namedMember? (Field.member entry) = some (entry.1.name, entry.2) := rfl
      simp [first, ih]
  have own : fieldOfMember? ∘ (fun entry : Field × Tree => (entry.1.name, entry.2)) = some := by
    funext entry
    simp [fieldOfMember?, Field.ofName?_name]
  have found : (given.map fun entry => (entry.1.name, entry.2)).filterMap fieldOfMember? =
      given := by rw [List.filterMap_map, own, List.filterMap_some]
  rw [fieldsOfMembers?, named]
  exact congrArg some found

/-! ### Fields -/

/-- A parameter as a member of the document. -/
def parameterMember (entry : String × String) : Option String × Tree :=
  (some entry.1, .string (some entry.2))

def nameTree : Option String → Tree
  | some name => .string (some name)
  | none => .null

/-- The document as a tree, its members by field. -/
def fields (c : Config) : List (Field × Tree) :=
  [(.driverName, .string (some c.driverName)),
   (.descriptor, .string (some c.descriptor)),
   (.parameters, .object (c.parameters.entries.map parameterMember)),
   (.initSql, .array (c.initSql.map fun statement => .string (some statement))),
   (.maxPoolSize, .number (.ofNat false c.maxPoolSize.toNat)),
   (.username, nameTree c.username)]

theorem memberTrees?_parameters (entries : List (String × String)) :
    Value.memberTrees? (entries.map fun entry => (entry.1, Value.string entry.2)) =
      some (entries.map parameterMember) := by
  induction entries with
  | nil => rfl
  | cons entry rest ih =>
    rw [List.map_cons, Value.memberTrees?, ih]
    rfl

theorem itemTrees?_statements (statements : List String) :
    Value.itemTrees? (statements.map .string) =
      some (statements.map fun statement => .string (some statement)) := by
  induction statements with
  | nil => rfl
  | cons statement rest ih =>
    rw [List.map_cons, Value.itemTrees?, ih]
    rfl

/-- Parameters that are text already are kept as they are. -/
theorem readParameters?_members (parameters : Table String) :
    readParameters? (.object (parameters.entries.map parameterMember)) = some parameters := by
  have each (entries : List (String × String)) :
      (entries.map parameterMember).mapM readParameter? = some entries := by
    induction entries with
    | nil => rfl
    | cons entry rest ih =>
      have first : readParameter? (parameterMember entry) = some entry := by
        simp [readParameter?, parameterMember, Value.ofTree?, parameterText]
      simp [first, ih]
  rw [readParameters?, each, Option.map_some, Table.ofList_entries]

theorem readStrings?_statements (statements : List String) :
    readStrings? (.array (statements.map fun statement => .string (some statement))) =
      some statements := by
  rw [readStrings?]
  induction statements with
  | nil => rfl
  | cons statement rest ih => simp [readString?, ih]

theorem readSize?_ofNat (size : UInt32) :
    readSize? (.number (.ofNat false size.toNat)) = some size := by
  have exact : (Numeral.ofNat false size.toNat).isInteger ∧
      !(Numeral.ofNat false size.toNat).negative ∧ size.toNat < UInt32.size :=
    ⟨rfl, rfl, size.toNat_lt_size⟩
  rw [readSize?, Numeral.wholeValue_ofNat, if_pos exact, UInt32.ofNat_toNat]

theorem readOptional?_nameTree (name : Option String) :
    readOptional? (nameTree name) = some name := by
  cases name <;> rfl

/-! ### Documents -/

/-- Each field is found once, and the password not at all. -/
theorem ofFields?_fields (c : Config) : ofFields? c.fields = some c.published := by
  simp [ofFields?, readField?, fields, readString?, readParameters?_members,
    readStrings?_statements, readSize?_ofNat, readOptional?_nameTree, published]

/-- A document is written as the tree of its fields. -/
theorem tree?_toJson (c : Config) :
    c.toJson.tree? = some (.object (c.fields.map Field.member)) := by
  cases user : c.username <;>
    simp [toJson, Value.tree?, Value.memberTrees?, fields, Field.member, Field.name,
      memberTrees?_parameters, itemTrees?_statements, nameTree, user]

theorem ofText?_document (c : Config) :
    (Tree.ofText? c.document.toList).bind ofTree? = some c.published := by
  obtain ⟨members, known, same⟩ := Option.map_eq_some_iff.mp (tree?_toJson c)
  have read : Tree.ofText? c.toJson.render = some (.object members) := Value.ofText?_render known
  rw [document, String.toList_ofList, read, Option.bind_some, same, ofTree?, fieldsOfMembers?_map,
    Option.bind_some, ofFields?_fields]

theorem validate_eq_ok_iff (c : Config) :
    c.validate = .ok () ↔ ∃ letter ∈ c.driverName.toList, ¬ Text.isBlank letter := by
  have blank := Text.trim_eq_nil_iff c.driverName.toList
  unfold validate
  split
  · next none => simpa using blank.mp none
  · next some => simpa using mt blank.mpr some

theorem ofText_document {c : Config} (valid : c.validate = .ok ()) :
    ofText c.document = .ok c.published := by
  have kept : c.published.validate = .ok () := valid
  rw [ofText, ofText?_document]
  simp only [kept]

/-- What is read names a driver. -/
theorem validate_of_ofText {text : String} {c : Config} (read : ofText text = .ok c) :
    c.validate = .ok () := by
  unfold ofText at read
  split at read
  · cases read
  · split at read
    · cases read
    · next valid => cases read; exact valid

/-- The same configuration but for the order of its parameters, which a map does not keep. -/
structure Reordered (c c' : Config) : Prop where
  parameters : c'.parameters.entries.Perm c.parameters.entries
  others : c' = { c with parameters := c'.parameters }

namespace Reordered

variable {c c' : Config}

theorem validate (reordered : c.Reordered c') : c'.validate = c.validate := by
  rw [reordered.others]
  rfl

theorem text? (reordered : c.Reordered c') (key : String) : c'.text? key = c.text? key :=
  Table.find?_of_perm reordered.parameters key

/-- Without a password there is nothing that a document does not show. -/
theorem published (reordered : c.published.Reordered c') : c'.published = c' := by
  rw [reordered.others]
  rfl

end Reordered

/-- What is written reads back, and what was read stays the same from the first writing on. -/
theorem documents_round_trip :
    (∀ c c' : Config, (∃ letter ∈ c.driverName.toList, ¬ Text.isBlank letter) → c.Reordered c' →
      ofText c'.document = .ok c'.published ∧ ∀ key, c'.text? key = c.text? key) ∧
    ∀ (text : String) (c c' : Config), ofText text = .ok c → c.Reordered c' →
      ofText c'.document = .ok c'.published ∧
      ∀ c'', c'.published.Reordered c'' → ofText c''.document = .ok c'' := by
  refine ⟨?_, ?_⟩
  · intro c c' named reordered
    have valid := reordered.validate.trans ((validate_eq_ok_iff c).mpr named)
    exact ⟨ofText_document valid, reordered.text?⟩
  · intro text c c' read reordered
    have valid := reordered.validate.trans (validate_of_ofText read)
    refine ⟨ofText_document valid, ?_⟩
    intro c'' again
    have kept := ofText_document (again.validate.trans valid)
    rwa [again.published] at kept

/-- A document with an alias, a repeated parameter, parameters that are no text, and defaults. -/
def handwritten : String :=
  "\x7b\"password\":\"p\",\"initSql\":[\"SET \\u00e9\"],\"parameters\":\x7b\"port\":1," ++
    "\"tls\":null,\"hosts\":[\"a\",true],\"port\":5432\x7d,\"driverName\":\" pg\"\x7d"

def handwrittenConfig : Config :=
  ⟨" pg", "", .ofList [("port", "5432"), ("tls", "null"), ("hosts", "[\"a\",true]")], ["SET é"], 0,
    none, some "p"⟩

theorem documents_round_trip_handwritten :
    let c := handwrittenConfig
    let c' := { c with parameters := .ofList c.parameters.entries.reverse }
    (∃ letter ∈ c.driverName.toList, ¬ Text.isBlank letter) ∧ c.Reordered c' ∧
      c'.published.Reordered c.published ∧ ofText handwritten = .ok c ∧
      (ofText c'.document = .ok c'.published ∧ ∀ key, c'.text? key = c.text? key) ∧
      ofText c.published.document = .ok c.published := by
  intro c c'
  have named : ∃ letter ∈ c.driverName.toList, ¬ Text.isBlank letter :=
    ⟨'p', by decide, by decide⟩
  have reordered : c.Reordered c' := ⟨by decide +kernel, rfl⟩
  have again : c'.published.Reordered c.published := ⟨by decide +kernel, rfl⟩
  have read : ofText handwritten = .ok c := by decide +kernel
  exact ⟨named, reordered, again, read, documents_round_trip.1 c c' named reordered,
    (documents_round_trip.2 handwritten c c' read reordered).2 c.published again⟩

end Datastore.Config
