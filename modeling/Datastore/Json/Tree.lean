import Datastore.Json.Token

/-!
# JSON trees

A tree holds a JSON text as written: numbers by their digits, members in order and repeats
included. A machine builds it from tokens, one a step, with the open containers on a stack, so
no depth of nesting is too deep.
-/

namespace Datastore.Json

inductive Tree
  | null
  | bool (value : Bool)
  | number (written : Numeral)
  | string (text : Option String)
  | array (items : List Tree)
  | object (members : List (Option String × Tree))

namespace Tree

/-- A container with a value to come, what precedes it last first. -/
inductive Frame
  | item (before : List Tree)
  | member (before : List (Option String × Tree)) (key : Option String)

/-- What the next token may be. -/
inductive Builder
  | value (stack : List Frame)
  /-- Behind an opened array: an item or the end. -/
  | firstItem (stack : List Frame)
  /-- Behind an opened object: a key or the end. -/
  | firstKey (stack : List Frame)
  | key (before : List (Option String × Tree)) (stack : List Frame)
  | colon (before : List (Option String × Tree)) (key : Option String) (stack : List Frame)
  /-- Behind a complete value. -/
  | after (tree : Tree) (stack : List Frame)

namespace Builder

/-- The first token of a value. -/
def open? (stack : List Frame) : Token → Option Builder
  | .null => some (.after .null stack)
  | .bool b => some (.after (.bool b) stack)
  | .number written => some (.after (.number written) stack)
  | .string text => some (.after (.string text) stack)
  | .openArray => some (.firstItem stack)
  | .openObject => some (.firstKey stack)
  | .closeArray | .closeObject | .comma | .colon => none

/-- One token. -/
def step : Builder → Token → Option Builder
  | .value stack, token => open? stack token
  | .firstItem stack, .closeArray => some (.after (.array []) stack)
  | .firstItem stack, token => open? (.item [] :: stack) token
  | .firstKey stack, .closeObject => some (.after (.object []) stack)
  | .firstKey stack, .string text => some (.colon [] text stack)
  | .key before stack, .string text => some (.colon before text stack)
  | .colon before name stack, .colon => some (.value (.member before name :: stack))
  | .after tree (.item before :: stack), .comma => some (.value (.item (tree :: before) :: stack))
  | .after tree (.item before :: stack), .closeArray =>
    some (.after (.array (tree :: before).reverse) stack)
  | .after tree (.member before name :: stack), .comma => some (.key ((name, tree) :: before) stack)
  | .after tree (.member before name :: stack), .closeObject =>
    some (.after (.object ((name, tree) :: before).reverse) stack)
  | _, _ => none

/-- The tree, if one value is complete and nothing is open. -/
def finish : Builder → Option Tree
  | .after tree [] => some tree
  | _ => none

end Builder

def ofTokens? (tokens : List Token) : Option Tree :=
  (tokens.foldlM Builder.step (.value [])).bind Builder.finish

/-- Reads a text that holds one value between optional spaces. -/
def ofText? (text : List Char) : Option Tree :=
  (tokens? text).bind ofTokens?

end Tree
end Datastore.Json
