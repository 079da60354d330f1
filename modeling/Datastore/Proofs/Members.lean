import Datastore.Proofs.Accessors
import Datastore.Proofs.Json.Layouts
import Datastore.Proofs.Parameters

/-!
# Members of documents

A document that is an object gives one answer for all orders of its members, and members whose keys
name no field have no part in it, whatever their values are. A field that is given twice is a fault
wherever the two members are, under one name or under two. One thing a key must be even if it names
no field: text. A key with an unpaired surrogate has none, and no document with such a key is read.
Main statement: `members_unordered`.
-/

namespace Datastore.Config

open Json (Entry Tree)

/-! ### Fields of members -/

namespace Field

/-- The names that a field goes by. -/
def names : Field → List String
  | .initSql => ["initSQL", "initSql"]
  | field => [field.name]

theorem ofName?_eq_some_iff {name : String} {field : Field} :
    ofName? name = some field ↔ name ∈ field.names := by
  constructor
  · intro found
    unfold ofName? at found
    split at found <;> cases found <;> decide
  · intro listed
    cases field <;>
      simp only [names, Field.name, List.mem_cons, List.not_mem_nil, or_false] at listed
    case initSql => rcases listed with rfl | rfl <;> rfl
    all_goals
      subst listed
      rfl

end Field

/-- The field that a member gives a value to, if its key has text and names one. -/
def given? (member : Option String × Tree) : Option (Field × Tree) :=
  (member.1.bind Field.ofName?).map fun field => (field, member.2)

/-- Every key must have text. Beyond that each member counts on its own. -/
theorem fieldsOfMembers?_eq (members : List (Option String × Tree)) :
    fieldsOfMembers? members =
      if ∀ member ∈ members, member.1.isSome then some (members.filterMap given?) else none := by
  induction members with
  | nil => rfl
  | cons member rest ih =>
    obtain ⟨key, tree⟩ := member
    cases key with
    | none => simp [fieldsOfMembers?, namedMember?]
    | some name =>
      have more : fieldsOfMembers? ((some name, tree) :: rest) =
          (fieldsOfMembers? rest).map fun given => (given? (some name, tree)).toList ++ given := by
        simp only [fieldsOfMembers?, List.mapM_cons, namedMember?, Option.map_some]
        cases rest.mapM namedMember? with
        | none => rfl
        | some named =>
          have first : fieldOfMember? (name, tree) = given? (some name, tree) := rfl
          cases known : given? (some name, tree) <;> simp [first, known]
      rw [more, ih]
      by_cases named : ∀ member ∈ rest, member.1.isSome
      · rw [if_pos named, if_pos (by simpa using named)]
        cases known : given? (some name, tree) <;> simp [known]
      · rw [if_neg named, if_neg (by simpa using named)]
        rfl

/-! ### Order -/

section

variable {α : Type} {given given' : List (Field × Tree)}
  {members members' : List (Option String × Tree)}

/-- A field is read alike wherever it is given. -/
theorem readField?_of_perm (perm : given.Perm given') (read? : Tree → Option α) (default : α)
    (field : Field) :
    readField? read? default field given = readField? read? default field given' := by
  have occurrences := perm.filter (·.1 = field)
  unfold readField?
  generalize given.filter (·.1 = field) = first at occurrences
  generalize given'.filter (·.1 = field) = second at occurrences
  -- Only one occurrence is read. Two lists of one entry that are permutations are equal, and of
  -- longer ones nothing is read, so their order does not count.
  match first with
  | [] => rw [occurrences.nil_eq]
  | [entry] => rw [List.singleton_perm.mp occurrences]
  | entry :: next :: rest =>
    have longer := occurrences.length_eq
    match second with
    | [] => simp at longer
    | [_] => simp at longer
    | _ :: _ :: _ => rfl

theorem ofFields?_of_perm (perm : given.Perm given') : ofFields? given = ofFields? given' := by
  simp only [ofFields?, readField?_of_perm perm]

/-- An object is read alike in all orders of its members. -/
theorem ofTree?_of_perm (perm : members.Perm members') :
    ofTree? (.object members) = ofTree? (.object members') := by
  have named : (∀ member ∈ members, member.1.isSome) ↔ ∀ member ∈ members', member.1.isSome := by
    simp only [perm.mem_iff]
  simp only [ofTree?, fieldsOfMembers?_eq, named]
  split
  · exact ofFields?_of_perm (perm.filterMap given?)
  · rfl

end

/-! ### Members without a part -/

section

variable {members : List (Option String × Tree)} {member member' : Option String × Tree}

/-- Members that give nothing can be left out, as long as their keys have text. -/
theorem ofTree?_leave (kept : List (Option String × Tree)) {extra : List (Option String × Tree)}
    (foreign : ∀ member ∈ extra, given? member = none) (named : ∀ member ∈ extra, member.1.isSome) :
    ofTree? (.object (kept ++ extra)) = ofTree? (.object kept) := by
  have nothing : extra.filterMap given? = [] := List.filterMap_eq_nil_iff.mpr foreign
  have same : (∀ member ∈ kept ++ extra, member.1.isSome) ↔ ∀ member ∈ kept, member.1.isSome := by
    rw [List.forall_mem_append]
    exact and_iff_left named
  simp only [ofTree?, fieldsOfMembers?_eq, same, List.filterMap_append, nothing, List.append_nil]

/-- A key without text is a fault, wherever it is. -/
theorem ofTree?_of_unnamed (here : member ∈ members) (unnamed : member.1 = none) :
    ofTree? (.object members) = none := by
  have fault : ¬ ∀ member ∈ members, member.1.isSome := by
    intro named
    have some := named member here
    rw [unnamed] at some
    cases some
  rw [ofTree?, fieldsOfMembers?_eq, if_neg fault]
  rfl

theorem ofFields?_repeated (field : Field) (tree tree' : Tree) (given : List (Field × Tree)) :
    ofFields? ((field, tree) :: (field, tree') :: given) = none := by
  have twice : ¬ ∀ entry ∈ [] ++ (field, tree') :: given, entry.1 ≠ field := by simp
  have none {α : Type} (read? : Tree → Option α) (default : α) :
      readField? read? default field ([] ++ (field, tree) :: (field, tree') :: given) = none :=
    readField?_repeated twice
  rw [List.nil_append] at none
  cases field <;> simp [ofFields?, none]

/-- A field that is given twice is a fault, wherever the two members are. -/
theorem ofTree?_repeated {field : Field} {tree tree' : Tree}
    (both : [member, member'].Sublist members) (first : given? member = some (field, tree))
    (second : given? member' = some (field, tree')) :
    ofTree? (.object members) = none := by
  obtain ⟨others, perm⟩ := both.exists_perm_append
  rw [ofTree?_of_perm perm, ofTree?, fieldsOfMembers?_eq]
  split
  · simp only [List.cons_append, List.nil_append, List.filterMap_cons, first, second,
      Option.bind_some, ofFields?_repeated]
  · rfl

end

/-! ### Documents -/

section

variable {members kept extra : List Entry} {e e' : Entry} {field : Field} {text : String}

/-- The key of a member is a name of the field. -/
def Supplies (e : Entry) (field : Field) : Prop := ∃ name ∈ field.names, e.key = some name

/-- The key of a member is no name of a field. -/
def Foreign (e : Entry) : Prop := ∀ field, ¬ Supplies e field

/-- Documents with these members and with those give one answer, however each is laid out. -/
def Interchangeable (members members' : List Entry) : Prop :=
  ∀ text text', Entry.Renders text members → Entry.Renders text' members' →
    ofText text = ofText text'

theorem interchangeable_of_ofTree? {members' : List Entry}
    (same : ofTree? (.object (members.map Entry.member)) =
      ofTree? (.object (members'.map Entry.member))) : Interchangeable members members' := by
  intro text text' rendered rendered'
  rw [ofText_of_tree rendered, ofText_of_tree rendered', same]

theorem ofText_of_unread (rendered : Entry.Renders text members)
    (unread : ofTree? (.object (members.map Entry.member)) = none) :
    ofText text = .error (.config .malformed) := by
  rw [ofText_of_tree rendered, unread]
  rfl

theorem given?_of_supplies (supplies : Supplies e field) :
    given? e.member = some (field, e.value) := by
  obtain ⟨name, listed, known⟩ := supplies
  rw [given?, Entry.member, known, Option.bind_some, Field.ofName?_eq_some_iff.mpr listed]
  rfl

theorem given?_of_foreign (foreign : Foreign e) : given? e.member = none := by
  rw [given?, Option.map_eq_none_iff, Option.eq_none_iff_forall_ne_some]
  intro field found
  obtain ⟨name, known, named⟩ := Option.bind_eq_some_iff.mp found
  exact foreign field ⟨name, Field.ofName?_eq_some_iff.mp named, known⟩

theorem interchangeable_leave (perm : members.Perm (kept ++ extra))
    (foreign : ∀ e ∈ extra, Foreign e) (named : ∀ e ∈ extra, e.key ≠ none) :
    Interchangeable members kept := by
  apply interchangeable_of_ofTree?
  rw [ofTree?_of_perm (perm.map Entry.member), List.map_append]
  apply ofTree?_leave
  · intro member here
    obtain ⟨e, listed, rfl⟩ := List.mem_map.mp here
    exact given?_of_foreign (foreign e listed)
  · intro member here
    obtain ⟨e, listed, rfl⟩ := List.mem_map.mp here
    exact Option.isSome_iff_ne_none.mpr (named e listed)

end

/-- The order of the members has no influence on the answer, nor have members that name no field,
and a field that is given twice is always a fault. What is read names a driver, which is all that a
provider needs. -/
theorem members_unordered :
    (∀ members : List Entry, Entry.Renders (Entry.object members) members) ∧
    (∀ members members' : List Entry, members.Perm members' → Interchangeable members members') ∧
    (∀ members kept extra : List Entry, members.Perm (kept ++ extra) → (∀ e ∈ extra, Foreign e) →
      (∀ e ∈ extra, e.key ≠ none) → Interchangeable members kept) ∧
    (∀ (members : List Entry) (field : Field) (e e' : Entry), [e, e'].Sublist members →
      Supplies e field → Supplies e' field → ∀ text, Entry.Renders text members →
      ofText text = .error (.config .malformed)) ∧
    (∀ (members : List Entry) (e : Entry), e ∈ members → e.key = none →
      ∀ text, Entry.Renders text members → ofText text = .error (.config .malformed)) ∧
    ∀ (text : String) (c : Config), ofText text = .ok c →
      (∃ letter ∈ c.driverName.toList, ¬ Text.isBlank letter) ∧
      (c.duration? Tuning.lifetimeKey (.ofMillis 1) Tuning.defaultLifetime).isSome ∧
      ∀ drivers dialects, ∃ p, Provider.build c drivers dialects = .ok p ∧
        p.pool.capacity ≤ Pool.maxCapacity := by
  refine ⟨Entry.renders_object, ?_, ?_, ?_, ?_, ?_⟩
  · intro members members' perm
    exact interchangeable_of_ofTree? (ofTree?_of_perm (perm.map Entry.member))
  · intro members kept extra perm foreign named
    exact interchangeable_leave perm foreign named
  · intro members field e e' both first second text rendered
    apply ofText_of_unread rendered
    exact ofTree?_repeated (both.map Entry.member) (given?_of_supplies first)
      (given?_of_supplies second)
  · intro members e here unnamed text rendered
    exact ofText_of_unread rendered
      (ofTree?_of_unnamed (List.mem_map_of_mem here) unnamed)
  · intro text c read
    have valid := validate_of_ofText read
    have settled := Tuning.settled c
    refine ⟨(validate_eq_ok_iff c).mp valid, settled.lifetime_read, ?_⟩
    intro drivers dialects
    obtain ⟨p, built⟩ := Provider.exists_build valid drivers dialects
    exact ⟨p, built, (settled.built drivers dialects p built).2⟩

/-- A name for the driver, with a blank in front and an escape in the key. -/
def driverEntry : Entry :=
  ⟨" \"\\u0064riverName\"".toList, "\"pg\"".toList, some "driverName", .string (some "pg"), rfl,
    rfl⟩

/-- A member that names no field, with a value that no field could have. -/
def strayEntry : Entry :=
  ⟨"\"note\"".toList, "[\"\\ud800\", -1e999]".toList, some "note",
    .array [.string none, .number ⟨true, [1], [], some 999⟩], rfl, rfl⟩

/-- The same field by its two names. -/
def statementEntries : Entry × Entry :=
  (⟨"\"initSQL\"".toList, "[]".toList, some "initSQL", .array [], rfl, rfl⟩,
    ⟨"\"initSql\"".toList, "[]".toList, some "initSql", .array [], rfl, rfl⟩)

/-- A member whose key is an unpaired surrogate. -/
def unpairedEntry : Entry :=
  ⟨"\"\\ud800\"".toList, "1".toList, none, .number ⟨false, [1], [], none⟩, rfl, rfl⟩

theorem foreign_strayEntry : Foreign strayEntry := by
  rintro field ⟨name, listed, known⟩
  cases known
  cases field <;> exact absurd listed (by decide)

theorem foreign_unpairedEntry : Foreign unpairedEntry := by
  rintro field ⟨name, -, known⟩
  cases known

theorem members_unordered_strayed :
    let members := [strayEntry, driverEntry, strayEntry]
    let extra := [strayEntry, strayEntry]
    let twice := [statementEntries.2, driverEntry, statementEntries.1]
    members.Perm ([driverEntry] ++ extra) ∧ (∀ e ∈ extra, Foreign e) ∧ (∀ e ∈ extra, e.key ≠ none) ∧
      ofText (Entry.object members) = .ok (ofEndpoint "pg" "") ∧
      [statementEntries.2, statementEntries.1].Sublist twice ∧
      Supplies statementEntries.2 .initSql ∧ Supplies statementEntries.1 .initSql ∧
      ofText (Entry.object twice) = .error (.config .malformed) := by
  intro members extra twice
  have perm : members.Perm ([driverEntry] ++ extra) := .swap ..
  have stray : ∀ e ∈ extra, e = strayEntry := by simp [extra]
  have foreign : ∀ e ∈ extra, Foreign e := by
    intro e here
    rw [stray e here]
    exact foreign_strayEntry
  have named : ∀ e ∈ extra, e.key ≠ none := by
    intro e here
    rw [stray e here]
    nofun
  have both : [statementEntries.2, statementEntries.1].Sublist twice :=
    .cons_cons _ (.cons _ (.refl _))
  have first : Supplies statementEntries.2 .initSql := ⟨"initSql", by decide, rfl⟩
  have second : Supplies statementEntries.1 .initSql := ⟨"initSQL", by decide, rfl⟩
  obtain ⟨rendered, -, left, repeated, -, -⟩ := members_unordered
  have alone : ofText (Entry.object [driverEntry]) = .ok (ofEndpoint "pg" "") := by decide +kernel
  refine ⟨perm, foreign, named, ?_, both, first, second, ?_⟩
  · rw [← alone]
    exact left members _ extra perm foreign named _ _ (rendered _) (rendered _)
  · exact repeated twice _ _ _ both first second _ (rendered _)

def plainText : String := "\x7b\"driverName\":\"pg\"\x7d"

def unpairedText : String := "\x7b\"driverName\":\"pg\",\"\\ud800\":1\x7d"

/-- A key must have text even if it names no field. -/
theorem unpaired_key_refused :
    Entry.Renders plainText [driverEntry] ∧
      Entry.Renders unpairedText [driverEntry, unpairedEntry] ∧ Foreign unpairedEntry ∧
      ofText plainText = .ok (ofEndpoint "pg" "") ∧
      ofText unpairedText = .error (.config .malformed) ∧
      ¬ ∀ members kept extra : List Entry, members.Perm (kept ++ extra) →
        (∀ e ∈ extra, Foreign e) → Interchangeable members kept := by
  have plain : Entry.Renders plainText [driverEntry] := by
    rw [Entry.Renders]
    rfl
  have unpaired : Entry.Renders unpairedText [driverEntry, unpairedEntry] := by
    rw [Entry.Renders]
    rfl
  have accepted : ofText plainText = .ok (ofEndpoint "pg" "") := by decide +kernel
  have refused : ofText unpairedText = .error (.config .malformed) := by decide +kernel
  refine ⟨plain, unpaired, foreign_unpairedEntry, accepted, refused, ?_⟩
  intro general
  have foreign : ∀ e ∈ [unpairedEntry], Foreign e := by
    intro e here
    rw [List.mem_singleton.mp here]
    exact foreign_unpairedEntry
  have same := general _ [driverEntry] [unpairedEntry] (.refl _) foreign _ _ unpaired plain
  rw [accepted, refused] at same
  cases same

end Datastore.Config
