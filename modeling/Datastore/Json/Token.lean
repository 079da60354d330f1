import Datastore.Text.Numeral

/-!
# JSON tokens

The words of JSON and the machine that cuts text into them, one character a step. A number ends
where the next character cannot continue it, and that character is then read on its own. Text
between quotes is a sequence of UTF-16 units as far as escapes are concerned: an escaped
surrogate is well formed here, but a string with an unpaired one has no text.
-/

namespace Datastore.Json

/-- A number as it is written. -/
structure Numeral where
  negative : Bool
  whole : List Nat
  /-- Digits behind the point, none if there is no point. -/
  fraction : List Nat
  exponent : Option Int
deriving DecidableEq

inductive Token
  | openArray
  | closeArray
  | openObject
  | closeObject
  | comma
  | colon
  | null
  | bool (value : Bool)
  | number (written : Numeral)
  /-- No text: some surrogate is unpaired. -/
  | string (text : Option String)
deriving DecidableEq

namespace Token

/-- The characters for a sequence of code points and UTF-16 surrogates, where a high surrogate has
to come right before a low one. -/
def characters? : List Nat → Option (List Char)
  | [] => some []
  | [unit] => if 0xd800 ≤ unit ∧ unit < 0xe000 then none else some [Char.ofNat unit]
  | unit :: next :: rest =>
    if 0xd800 ≤ unit ∧ unit < 0xdc00 then
      if 0xdc00 ≤ next ∧ next < 0xe000 then
        let joined := 0x10000 + (unit - 0xd800) * 0x400 + (next - 0xdc00)
        (characters? rest).map (Char.ofNat joined :: ·)
      else none
    else if 0xdc00 ≤ unit ∧ unit < 0xe000 then none
    else (characters? (next :: rest)).map (Char.ofNat unit :: ·)

/-- How far a number has been read. -/
inductive Stage
  | sign
  | zero
  | whole
  | point
  | fraction
  | mark
  | markSign
  | exponent
deriving DecidableEq

/-- A number may end here. -/
def Stage.isComplete : Stage → Bool
  | .zero | .whole | .fraction | .exponent => true
  | .sign | .point | .mark | .markSign => false

/-- A number in the making, its digits last first. -/
structure Draft where
  negative : Bool
  whole : List Nat
  fraction : List Nat
  exponent : Option (Bool × Nat)

def Draft.finish (d : Draft) : Numeral :=
  { negative := d.negative
    whole := d.whole.reverse
    fraction := d.fraction.reverse
    exponent := d.exponent.map fun (negative, value) => if negative then -(value : Int) else value }

def Draft.addWhole (d : Draft) (digit : Nat) : Draft := { d with whole := digit :: d.whole }

def Draft.addFraction (d : Draft) (digit : Nat) : Draft :=
  { d with fraction := digit :: d.fraction }

def Draft.addExponent (d : Draft) (digit : Nat) : Draft :=
  match d.exponent with
  | some (negative, value) => { d with exponent := some (negative, 10 * value + digit) }
  | none => { d with exponent := some (false, digit) }

/-- The number after one more character, if it can continue with it. -/
def Draft.next? (stage : Stage) (d : Draft) (c : Char) : Option (Stage × Draft) :=
  match stage, Text.Numeral.digit? c with
  | .sign, some digit => some (if digit = 0 then .zero else .whole, d.addWhole digit)
  | .whole, some digit => some (.whole, d.addWhole digit)
  | .point, some digit | .fraction, some digit => some (.fraction, d.addFraction digit)
  | .mark, some digit | .markSign, some digit | .exponent, some digit =>
    some (.exponent, d.addExponent digit)
  | .zero, some _ => none
  | .zero, none | .whole, none =>
    if c = '.' then some (.point, d)
    else if c = 'e' ∨ c = 'E' then some (.mark, d)
    else none
  | .fraction, none => if c = 'e' ∨ c = 'E' then some (.mark, d) else none
  | .mark, none =>
    if c = '+' then some (.markSign, { d with exponent := some (false, 0) })
    else if c = '-' then some (.markSign, { d with exponent := some (true, 0) })
    else none
  | .sign, none | .point, none | .markSign, none | .exponent, none => none

/-- What is being read. Units of a string are kept last first. -/
inductive Mode
  | between
  /-- The rest of a word that stands for a token. -/
  | word (rest : List Char) (token : Token)
  | string (units : List Nat)
  | escape (units : List Nat)
  /-- Inside a numbered escape: digits still to come and the value so far. -/
  | hex (units : List Nat) (left value : Nat)
  | number (stage : Stage) (draft : Draft)

/-- The machine's state: the mode and the finished tokens, last first. -/
structure Reader where
  mode : Mode
  tokens : List Token

def Reader.start : Reader := ⟨.between, []⟩

def hexDigit? (c : Char) : Option Nat :=
  if 'a'.toNat ≤ c.toNat ∧ c.toNat ≤ 'f'.toNat then some (c.toNat - 'a'.toNat + 10)
  else if 'A'.toNat ≤ c.toNat ∧ c.toNat ≤ 'F'.toNat then some (c.toNat - 'A'.toNat + 10)
  else Text.Numeral.digit? c

/-- The character that an escape by one letter stands for. -/
def escaped? (c : Char) : Option Char :=
  match c with
  | '"' => some '"'
  | '\\' => some '\\'
  | '/' => some '/'
  | 'b' => some '\x08'
  | 'f' => some '\x0c'
  | 'n' => some '\n'
  | 'r' => some '\r'
  | 't' => some '\t'
  | _ => none

/-- The first character of a token, or space between tokens. -/
def Reader.dispatch (tokens : List Token) (c : Char) : Option Reader :=
  let number (stage : Stage) (negative : Bool) (digits : List Nat) : Option Reader :=
    some ⟨.number stage ⟨negative, digits, [], none⟩, tokens⟩
  match c with
  | ' ' | '\t' | '\n' | '\r' => some ⟨.between, tokens⟩
  | '[' => some ⟨.between, .openArray :: tokens⟩
  | ']' => some ⟨.between, .closeArray :: tokens⟩
  | '\x7b' => some ⟨.between, .openObject :: tokens⟩
  | '\x7d' => some ⟨.between, .closeObject :: tokens⟩
  | ',' => some ⟨.between, .comma :: tokens⟩
  | ':' => some ⟨.between, .colon :: tokens⟩
  | '"' => some ⟨.string [], tokens⟩
  | 'n' => some ⟨.word ['u', 'l', 'l'] .null, tokens⟩
  | 't' => some ⟨.word ['r', 'u', 'e'] (.bool true), tokens⟩
  | 'f' => some ⟨.word ['a', 'l', 's', 'e'] (.bool false), tokens⟩
  | '-' => number .sign true []
  | _ =>
    match Text.Numeral.digit? c with
    | some digit => number (if digit = 0 then .zero else .whole) false [digit]
    | none => none

/-- One character. -/
def Reader.step (r : Reader) (c : Char) : Option Reader :=
  match r.mode with
  | .between => dispatch r.tokens c
  | .word [] _ => none
  | .word (expected :: rest) token =>
    if c = expected then
      match rest with
      | [] => some ⟨.between, token :: r.tokens⟩
      | _ :: _ => some ⟨.word rest token, r.tokens⟩
    else none
  | .string units =>
    if c = '"' then
      some ⟨.between, .string ((characters? units.reverse).map String.ofList) :: r.tokens⟩
    else if c = '\\' then some ⟨.escape units, r.tokens⟩
    else if c.toNat < 0x20 then none
    else some ⟨.string (c.toNat :: units), r.tokens⟩
  | .escape units =>
    if c = 'u' then some ⟨.hex units 4 0, r.tokens⟩
    else (escaped? c).map fun e => ⟨.string (e.toNat :: units), r.tokens⟩
  | .hex units left value =>
    (hexDigit? c).map fun digit =>
      let value := 16 * value + digit
      if left ≤ 1 then ⟨.string (value :: units), r.tokens⟩
      else ⟨.hex units (left - 1) value, r.tokens⟩
  | .number stage draft =>
    match draft.next? stage c with
    | some (stage, draft) => some ⟨.number stage draft, r.tokens⟩
    | none => if stage.isComplete then dispatch (.number draft.finish :: r.tokens) c else none

/-- The tokens, if the text does not end inside one. -/
def Reader.finish (r : Reader) : Option (List Token) :=
  match r.mode with
  | .between => some r.tokens.reverse
  | .number stage draft =>
    if stage.isComplete then some (Token.number draft.finish :: r.tokens).reverse else none
  | _ => none

end Token

/-- Cuts text into tokens. -/
def tokens? (text : List Char) : Option (List Token) :=
  (text.foldlM Token.Reader.step Token.Reader.start).bind Token.Reader.finish

end Datastore.Json
