import Datastore.Config.Basic

/-!
# Configuration documents

A configuration as JSON: an object whose members are found by name, in any order, or an array of
the fields in their fixed order. Every field has a default. A field given twice is a fault, members
of other names are skipped, and values must be of the field's type. The result must name a driver.
-/

namespace Datastore.Config

/-- The fields of a document. -/
inductive Field
  | driverName
  | descriptor
  | parameters
  | initSql
  | maxPoolSize
  | username
  | password
deriving DecidableEq

namespace Field

/-- The order in an array. -/
def all : List Field :=
  [.driverName, .descriptor, .parameters, .initSql, .maxPoolSize, .username, .password]

/-- The field of a member; initial statements go by two spellings. -/
def ofName? : String → Option Field
  | "driverName" => some .driverName
  | "descriptor" => some .descriptor
  | "parameters" => some .parameters
  | "initSQL" => some .initSql
  | "initSql" => some .initSql
  | "maxPoolSize" => some .maxPoolSize
  | "username" => some .username
  | "password" => some .password
  | _ => none

end Field

open Json (Tree Value)

/-- Containers that may be open around a value that is read. -/
def maxDepth : Nat := 127

def readString? : Tree → Option String
  | .string text => text
  | _ => none

/-- A string or null. -/
def readOptional? : Tree → Option (Option String)
  | .null => some none
  | .string text => text.map some
  | _ => none

def readStrings? : Tree → Option (List String)
  | .array items => items.mapM readString?
  | _ => none

/-- A natural number below `2^32`, written without sign, point and exponent. -/
def readSize? : Tree → Option UInt32
  | .number written =>
    if written.isInteger ∧ !written.negative ∧ written.wholeValue < UInt32.size then
      some (UInt32.ofNat written.wholeValue)
    else none
  | _ => none

/-- The stored text of a parameter: a string as it is, any other value as compact JSON. -/
def parameterText : Value → String
  | .string text => text
  | value => String.ofList value.render

/-- Two containers, the document and the object of parameters, are open around the values. -/
def readParameter? (member : Option String × Tree) : Option (String × String) :=
  member.1.bind fun key =>
    (Value.ofTree? (maxDepth - 2) member.2).map fun value => (key, parameterText value)

/-- The last of a repeated key stays. -/
def readParameters? : Tree → Option (Table String)
  | .object members => (members.mapM readParameter?).map Table.ofList
  | _ => none

/-- Reads a field that occurs at most once. -/
def readField? {α : Type} (read? : Tree → Option α) (default : α) (field : Field)
    (given : List (Field × Tree)) : Option α :=
  match given.filter (·.1 = field) with
  | [] => some default
  | [occurrence] => read? occurrence.2
  | _ => none

def ofFields? (given : List (Field × Tree)) : Option Config := do
  let driverName ← readField? readString? "" .driverName given
  let descriptor ← readField? readString? "" .descriptor given
  let parameters ← readField? readParameters? Table.empty .parameters given
  let initSql ← readField? readStrings? [] .initSql given
  let maxPoolSize ← readField? readSize? 0 .maxPoolSize given
  let username ← readField? readOptional? none .username given
  let password ← readField? readOptional? none .password given
  return { driverName, descriptor, parameters, initSql, maxPoolSize, username, password }

/-- A member with the text of its key. -/
def namedMember? (member : Option String × Tree) : Option (String × Tree) :=
  member.1.map fun key => (key, member.2)

/-- The field that a member gives a value to. -/
def fieldOfMember? (member : String × Tree) : Option (Field × Tree) :=
  (Field.ofName? member.1).map fun field => (field, member.2)

/-- Every key must have text, also one that names no field. -/
def fieldsOfMembers? (members : List (Option String × Tree)) : Option (List (Field × Tree)) :=
  (members.mapM namedMember?).map (List.filterMap fieldOfMember?)

/-- No more items than fields. -/
def fieldsOfItems? (items : List Tree) : Option (List (Field × Tree)) :=
  if items.length ≤ Field.all.length then some (Field.all.zip items) else none

def ofTree? : Tree → Option Config
  | .object members => (fieldsOfMembers? members).bind ofFields?
  | .array items => (fieldsOfItems? items).bind ofFields?
  | _ => none

/-- Reads a document and checks the result. -/
def ofText (text : String) : Except Error Config :=
  match (Tree.ofText? text.toList).bind ofTree? with
  | none => .error (.config .malformed)
  | some config =>
    match config.validate with
    | .error error => .error error
    | .ok () => .ok config

end Datastore.Config
