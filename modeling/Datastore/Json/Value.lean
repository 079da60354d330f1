import Datastore.Json.Number
import Datastore.Json.Tree

/-!
# JSON values

A value is a tree with everything read: strings have their text, numbers their value, and objects
list each key once, in ascending order. `Value.ofTree?` reads a tree whose containers are nested
no deeper than a given depth; `Value.render` writes the compact text.
-/

namespace Datastore.Json

inductive Value
  | null
  | bool (value : Bool)
  | number (value : Number)
  | string (text : String)
  | array (items : List Value)
  | object (members : List (String × Value))

namespace Value

/-- Puts a member at its place by key, over an earlier one of the same key. -/
def place (key : String) (value : Value) : List (String × Value) → List (String × Value)
  | [] => [(key, value)]
  | member :: rest =>
    if member.1 = key then (key, value) :: rest
    else if key < member.1 then (key, value) :: member :: rest
    else member :: place key value rest

mutual

/-- Reads a tree with at most `depth` containers around any value in it. -/
def ofTree? (depth : Nat) : Tree → Option Value
  | .null => some .null
  | .bool value => some (.bool value)
  | .number written => (Number.ofNumeral? written).map .number
  | .string text => text.map .string
  | .array items => if depth = 0 then none else (itemsOf? (depth - 1) items).map .array
  | .object members =>
    if depth = 0 then none else (membersOf? (depth - 1) [] members).map .object

def itemsOf? (depth : Nat) : List Tree → Option (List Value)
  | [] => some []
  | item :: rest =>
    (ofTree? depth item).bind fun value => (itemsOf? depth rest).map (value :: ·)

/-- Places the members one after the other, so the last of a repeated key stays. -/
def membersOf? (depth : Nat) (placed : List (String × Value)) :
    List (Option String × Tree) → Option (List (String × Value))
  | [] => some placed
  | (key, tree) :: rest =>
    key.bind fun key =>
      (ofTree? depth tree).bind fun value => membersOf? depth (place key value placed) rest

end

/-- One character inside quotes: only quotes, backslashes and control characters are escaped. -/
def renderChar (c : Char) : List Char :=
  match c with
  | '"' => ['\\', '"']
  | '\\' => ['\\', '\\']
  | '\x08' => ['\\', 'b']
  | '\x0c' => ['\\', 'f']
  | '\n' => ['\\', 'n']
  | '\r' => ['\\', 'r']
  | '\t' => ['\\', 't']
  | c =>
    if c.toNat < 0x20 then
      ['\\', 'u', '0', '0', Nat.digitChar (c.toNat / 16), Nat.digitChar (c.toNat % 16)]
    else [c]

def renderString (s : String) : List Char := '"' :: s.toList.flatMap renderChar ++ ['"']

mutual

/-- The compact text. -/
def render : Value → List Char
  | .null => ['n', 'u', 'l', 'l']
  | .bool true => ['t', 'r', 'u', 'e']
  | .bool false => ['f', 'a', 'l', 's', 'e']
  | .number value => value.render
  | .string text => renderString text
  | .array items => '[' :: renderItems items ++ [']']
  | .object members => '\x7b' :: renderMembers members ++ ['\x7d']

def renderItems : List Value → List Char
  | [] => []
  | [item] => render item
  | item :: next :: rest => render item ++ ',' :: renderItems (next :: rest)

def renderMembers : List (String × Value) → List Char
  | [] => []
  | [(key, value)] => renderString key ++ ':' :: render value
  | (key, value) :: next :: rest =>
    renderString key ++ ':' :: render value ++ ',' :: renderMembers (next :: rest)

end

end Value
end Datastore.Json
