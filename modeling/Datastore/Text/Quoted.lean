import Datastore.Text.Numeral
import Datastore.Text.Printable

/-!
# Quoted text and described records

How values appear in one-line descriptions: text between double quotes with its special and
unprintable characters escaped, lists between brackets, records with named fields between braces.
-/

namespace Datastore.Text

/-- The hexadecimal digits of a character's number, lower case. -/
def hexNumber (c : Char) : List Char := Nat.toDigits 16 c.toNat

/-- One character inside quotes. A single quote needs no escape. -/
def quotedChar (c : Char) : List Char :=
  if c = '\x00' then ['\\', '0']
  else if c = '\t' then ['\\', 't']
  else if c = '\n' then ['\\', 'n']
  else if c = '\r' then ['\\', 'r']
  else if c = '"' then ['\\', '"']
  else if c = '\\' then ['\\', '\\']
  else if isPrintable c then [c]
  else ['\\', 'u', '\x7b'] ++ hexNumber c ++ ['\x7d']

def quoted (s : String) : String :=
  String.ofList ('"' :: s.toList.flatMap quotedChar ++ ['"'])

/-- `[a, b]`. -/
def listed (items : List String) : String :=
  "[" ++ ", ".intercalate items ++ "]"

/-- A name, then its fields with their values between braces. -/
def record (name : String) (fields : List (String × String)) : String :=
  name ++ " \x7b " ++ ", ".intercalate (fields.map fun f => f.1 ++ ": " ++ f.2) ++ " \x7d"

/-- `Some(value)` or `None`. -/
def optional : Option String → String
  | some value => "Some(" ++ value ++ ")"
  | none => "None"

def flag (b : Bool) : String := if b then "true" else "false"

def count (n : Nat) : String := String.ofList (Numeral.decimal n)

end Datastore.Text
