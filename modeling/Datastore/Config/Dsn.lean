import Datastore.Config.Basic

/-!
# Data source names

A descriptor is a template: `[name]` stands for the value of a name and everything else for
itself. A placeholder runs from a `[` to the next `]`, whatever is between; a `]` outside of one
is plain. Expansion is one pass from left to right, and brackets in values are not looked at.
-/

namespace Datastore.Config

/-- A piece of a descriptor. -/
inductive Segment
  | plain (c : Char)
  | placeholder (name : List Char)
  /-- A placeholder that the descriptor's end cuts off. -/
  | unterminated
deriving DecidableEq

/-- Cuts a descriptor up; inside a placeholder the name so far is kept, last character first. -/
def segmentsFrom : Option (List Char) → List Char → List Segment
  | none, [] => []
  | some _, [] => [.unterminated]
  | none, c :: rest =>
    if c = '[' then segmentsFrom (some []) rest else .plain c :: segmentsFrom none rest
  | some name, c :: rest =>
    if c = ']' then .placeholder name.reverse :: segmentsFrom none rest
    else segmentsFrom (some (c :: name)) rest

def segments (descriptor : List Char) : List Segment := segmentsFrom none descriptor

/-- The value of a name: a credential where one is set, a parameter otherwise. -/
def placeholder? (c : Config) (name : String) : Option String :=
  match name with
  | "username" => c.username.or (c.text? name)
  | "password" => c.password.or (c.text? name)
  | _ => c.text? name

/-- The text of one segment. -/
def expandSegment (c : Config) : Segment → Except ConfigFault (List Char)
  | .plain char => .ok [char]
  | .placeholder name =>
    match c.placeholder? (String.ofList name) with
    | some value => .ok value.toList
    | none => .error (.unresolved (String.ofList name) c.driverName c.descriptor)
  | .unterminated => .error (.unterminated c.driverName c.descriptor)

/-- The texts in order, or the first fault. -/
def expandSegments (c : Config) : List Segment → Except ConfigFault (List Char)
  | [] => .ok []
  | segment :: rest =>
    match c.expandSegment segment with
    | .error fault => .error fault
    | .ok text =>
      match c.expandSegments rest with
      | .error fault => .error fault
      | .ok more => .ok (text ++ more)

/-- The name that is handed to the driver. -/
def dsn (c : Config) : Except Error String :=
  match c.expandSegments (segments c.descriptor.toList) with
  | .error fault => .error (.config fault)
  | .ok text => .ok (String.ofList text)

end Datastore.Config
