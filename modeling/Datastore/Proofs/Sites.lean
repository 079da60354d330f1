import Datastore.Proofs.Documents

/-!
# Sites in documents

What is around the object of parameters in a document, be it an object or an array of fields,
decides about everything else: the parameters only enter as the table that is read from them. So a
document can be read with the parameters left out, and they can be put in afterwards. Main
statement: `ofTree?_fill`.
-/

namespace Datastore.Config

open Json (Tree)

/-- The fields of a document of either form. -/
def fieldsOf? : Tree → Option (List (Field × Tree))
  | .object members => fieldsOfMembers? members
  | .array items => fieldsOfItems? items
  | _ => none

theorem ofTree?_eq (tree : Tree) : ofTree? tree = (fieldsOf? tree).bind ofFields? := by
  cases tree <;> rfl

/-- What is around one value of a document. -/
inductive Surroundings
  | members (before after : List (Option String × Tree))
  | items (before after : List Tree)

/-- The parameters go by their name in an object, and by their place in an array. -/
def Surroundings.fill : Surroundings → Tree → Tree
  | .members before after, tree =>
    .object (before ++ (some Field.parameters.name, tree) :: after)
  | .items before after, tree => .array (before ++ tree :: after)

theorem zip_fill (fields : List Field) {before : List Tree} (room : before.length < fields.length)
    (after : List Tree) : ∃ earlier field later, ∀ tree,
      fields.zip (before ++ tree :: after) = earlier ++ (field, tree) :: later := by
  induction before generalizing fields with
  | nil =>
    cases fields with
    | nil => simp at room
    | cons field fields => exact ⟨[], field, fields.zip after, fun _ => rfl⟩
  | cons item before ih =>
    cases fields with
    | nil => simp at room
    | cons first fields =>
      obtain ⟨earlier, field, later, found⟩ := ih fields (by simpa using room)
      refine ⟨(first, item) :: earlier, field, later, ?_⟩
      intro tree
      rw [List.cons_append, List.zip_cons_cons, found, List.cons_append]

/-- Whatever the value is, it is the value of the same field, or the document has no fields. -/
theorem Surroundings.fieldsOf?_fill (around : Surroundings) :
    (∀ tree, fieldsOf? (around.fill tree) = none) ∨ ∃ before field after, ∀ tree,
      fieldsOf? (around.fill tree) = some (before ++ (field, tree) :: after) := by
  cases around with
  | members before after =>
    simp only [fill, fieldsOf?, fieldsOfMembers?, List.mapM_append, List.mapM_cons]
    cases before.mapM namedMember? with
    | none => exact .inl fun _ => rfl
    | some before =>
      cases after.mapM namedMember? with
      | none => exact .inl fun _ => rfl
      | some after =>
        refine .inr ⟨before.filterMap fieldOfMember?, .parameters, after.filterMap fieldOfMember?, ?_⟩
        intro tree
        simp [namedMember?, fieldOfMember?, Field.ofName?_name]
  | items before after =>
    simp only [fill, fieldsOf?, fieldsOfItems?]
    by_cases room : before.length + (after.length + 1) ≤ Field.all.length
    · obtain ⟨earlier, field, later, found⟩ :=
        zip_fill Field.all (show before.length < Field.all.length by omega) after
      refine .inr ⟨earlier, field, later, ?_⟩
      intro tree
      rw [if_pos (by simpa using room), found]
    · refine .inl ?_
      intro tree
      rw [if_neg (by simpa using room)]

section

variable {α : Type} {read? : Tree → Option α} {default : α} {field other : Field} {tree : Tree}
  {before after : List (Field × Tree)}

/-- A field is read past another one. -/
theorem readField?_of_ne (apart : other ≠ field) :
    readField? read? default field (before ++ (other, tree) :: after) =
      readField? read? default field (before ++ after) := by
  simp only [readField?, List.filter_append, List.filter_cons, apart, decide_false,
    Bool.false_eq_true, if_false]

/-- A field that is given alone is read. -/
theorem readField?_alone (alone : ∀ entry ∈ before ++ after, entry.1 ≠ field) :
    readField? read? default field (before ++ (field, tree) :: after) = read? tree := by
  have none : ∀ entries : List (Field × Tree), (∀ entry ∈ entries, entry.1 ≠ field) →
      entries.filter (·.1 = field) = [] := by
    intro entries apart
    exact List.filter_eq_nil_iff.mpr fun entry here => by simpa using apart entry here
  rw [List.forall_mem_append] at alone
  simp [readField?, none before alone.1, none after alone.2]

/-- A field that is given again is not. -/
theorem readField?_repeated (repeated : ¬ ∀ entry ∈ before ++ after, entry.1 ≠ field) :
    readField? read? default field (before ++ (field, tree) :: after) = none := by
  have some : (before ++ after).filter (·.1 = field) ≠ [] := by
    intro none
    exact repeated fun entry here => by simpa using List.filter_eq_nil_iff.mp none entry here
  have own : (before ++ (field, tree) :: after).filter (·.1 = field) =
      before.filter (·.1 = field) ++ (field, tree) :: after.filter (·.1 = field) := by simp
  rw [List.filter_append] at some
  rw [readField?, own]
  cases first : before.filter (·.1 = field) with
  | nil =>
    cases last : after.filter (·.1 = field) with
    | nil => simp [first, last] at some
    | cons => rfl
  | cons entry rest => cases rest <;> rfl

/-- What cannot be read has no value, given once or again. -/
theorem readField?_misread (misread : read? tree = none) :
    readField? read? default field (before ++ (field, tree) :: after) = none := by
  by_cases alone : ∀ entry ∈ before ++ after, entry.1 ≠ field
  · rw [readField?_alone alone, misread]
  · exact readField?_repeated alone

end

/-- An object can only be the value of the parameters. -/
theorem ofFields?_of_ne {field : Field} (apart : field ≠ .parameters)
    (before after : List (Field × Tree)) (members : List (Option String × Tree)) :
    ofFields? (before ++ (field, .object members) :: after) = none := by
  have text : readString? (.object members) = none := rfl
  have optional : readOptional? (.object members) = none := rfl
  have statements : readStrings? (.object members) = none := rfl
  have size : readSize? (.object members) = none := rfl
  cases field with
  | parameters => exact absurd rfl apart
  | driverName => simp [ofFields?, readField?_misread text]
  | descriptor => simp [ofFields?, readField?_misread text]
  | initSql => simp [ofFields?, readField?_misread statements]
  | maxPoolSize => simp [ofFields?, readField?_misread size]
  | username => simp [ofFields?, readField?_misread optional]
  | password => simp [ofFields?, readField?_misread optional]

/-- The parameters enter as the table that is read from them. -/
theorem ofFields?_fill (before after : List (Field × Tree)) (field : Field)
    (members : List (Option String × Tree)) :
    ofFields? (before ++ (field, .object members) :: after) =
      (readParameters? (.object members)).bind fun table =>
        (ofFields? (before ++ (field, .object []) :: after)).map fun c =>
          { c with parameters := table } := by
  by_cases own : field = .parameters
  · subst own
    by_cases alone : ∀ entry ∈ before ++ after, entry.1 ≠ .parameters
    · have none : readParameters? (.object []) = some Table.empty := rfl
      simp only [ofFields?, readField?_alone alone, none, readField?_of_ne, ne_eq, reduceCtorEq,
        not_false_eq_true]
      cases readParameters? (.object members) with
      | none => simp
      | some table =>
        simp only [Option.pure_def, Option.bind_eq_bind, Option.bind_some, Option.map_bind,
          Function.comp_def, Option.map_some]
    · simp [ofFields?, readField?_repeated alone]
  · simp [ofFields?_of_ne own]

/-- A document is read as the same document without parameters, but for its table. -/
theorem ofTree?_fill (around : Surroundings) (members : List (Option String × Tree)) :
    ofTree? (around.fill (.object members)) =
      (readParameters? (.object members)).bind fun table =>
        (ofTree? (around.fill (.object []))).map fun c => { c with parameters := table } := by
  simp only [ofTree?_eq]
  rcases around.fieldsOf?_fill with none | ⟨before, field, after, found⟩
  · simp [none]
  · rw [found, found, Option.bind_some, Option.bind_some]
    exact ofFields?_fill before after field members

end Datastore.Config
