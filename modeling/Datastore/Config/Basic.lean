import Datastore.Duration
import Datastore.Error
import Datastore.Json.Value
import Datastore.Table
import Datastore.Text.Blank
import Datastore.Text.Quoted

/-!
# Configurations

The description of one datastore: the driver, an endpoint template, parameters, statements for
new connections, the pool size and credentials. Parameters are text; numbers are read from them on
demand, and a parameter that is not a number counts as missing.
-/

namespace Datastore

structure Config where
  driverName : String
  /-- The endpoint, with placeholders such as `[host]`. -/
  descriptor : String
  parameters : Table String
  /-- Statements run in order on every new connection. -/
  initSql : List String
  /-- Connections checked out at most at once; zero stands for one. -/
  maxPoolSize : UInt32
  username : Option String
  password : Option String
deriving DecidableEq

namespace Config

/-- What a parameter may be set to. -/
inductive Scalar
  | text (value : String)
  | integer (value : Int)
  | flag (value : Bool)
deriving DecidableEq

/-- The text that is stored. -/
def Scalar.toText : Scalar → String
  | .text value => value
  | .integer value => String.ofList (Text.Numeral.decimalInt value)
  | .flag value => Text.flag value

/-- A configuration that names nothing. -/
def empty : Config := ⟨"", "", Table.empty, [], 0, none, none⟩

def ofEndpoint (driverName descriptor : String) : Config := { empty with driverName, descriptor }

def addParameter (c : Config) (key : String) (value : Scalar) : Config :=
  { c with parameters := c.parameters.insert key value.toText }

def addInitSql (c : Config) (statement : String) : Config :=
  { c with initSql := c.initSql ++ [statement] }

def withMaxPoolSize (c : Config) (size : UInt32) : Config := { c with maxPoolSize := size }

def withCredentials (c : Config) (username password : String) : Config :=
  { c with username := some username, password := some password }

def has (c : Config) (key : String) : Bool := c.parameters.contains key

def text? (c : Config) (key : String) : Option String := c.parameters.find? key

/-- A parameter without the white space around it. -/
def trimmed? (c : Config) (key : String) : Option (List Char) :=
  (c.text? key).map fun value => Text.trim value.toList

/-- A parameter that is a signed 64-bit integer, or the default. -/
def integer (c : Config) (key : String) (default : Int) : Int :=
  ((c.trimmed? key).bind (Text.Numeral.signed? 64)).getD default

/-- The largest count of units in a duration. -/
def maxCount : Nat := Nat.pow 2 32 - 1

/-- A parameter that counts units, or the default count, as a duration; none if that is too long. -/
def duration? (c : Config) (key : String) (unit : Duration) (default : Nat) : Option Duration :=
  unit.scale? (((c.trimmed? key).bind (Text.Numeral.unsigned? maxCount)).getD default)

/-- Connections checked out at most at once. -/
def effectivePoolSize (c : Config) : Nat := max c.maxPoolSize.toNat 1

/-- The driver name must hold more than white space. -/
def validate (c : Config) : Except Error Unit :=
  if Text.trim c.driverName.toList = [] then .error (.config .unnamedDriver) else .ok ()

/-- The public part as a JSON object; the password stays out. -/
def toJson (c : Config) : Json.Value :=
  .object
    [("driverName", .string c.driverName),
     ("descriptor", .string c.descriptor),
     ("parameters", .object (c.parameters.entries.map fun entry => (entry.1, .string entry.2))),
     ("initSQL", .array (c.initSql.map .string)),
     ("maxPoolSize", .number (.natural c.maxPoolSize.toNat)),
     ("username", match c.username with
       | some name => .string name
       | none => .null)]

end Config
end Datastore
