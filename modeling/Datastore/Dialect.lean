import Datastore.Table

/-!
# Dialects

A dialect says whether a driver's backend has transactions. A registry finds the dialect of a
driver name; a name it does not know gets a generic dialect with transactions, because what a
generic client can reach can begin one. The shared registry is set once.
-/

namespace Datastore

structure Dialect where
  name : String
  /-- Begin, commit and rollback reach the backend. -/
  transactional : Bool
deriving DecidableEq

namespace Dialect

/-- The dialect of an unknown driver. -/
def generic (name : String) : Dialect := ⟨name, true⟩

/-- Drivers whose backends have transactions. -/
def transactionalDrivers : List String :=
  ["pg", "postgres", "mysql", "sqlite3", "sqlite", "mssql", "sqlserver", "oracle", "ora", "godror",
    "vertica", "snowflake"]

/-- Drivers whose backends take transaction calls and do nothing. -/
def plainDrivers : List String :=
  ["csv", "tsv", "json", "ndjson", "bigquery", "aerospike", "mongodb", "dynamodb", "firebase",
    "cassandra"]

end Dialect

/-- Dialects by driver name. -/
structure DialectRegistry where
  dialects : Table Dialect
deriving DecidableEq

namespace DialectRegistry

def empty : DialectRegistry := ⟨Table.empty⟩

/-- Sets the dialect of a driver name. -/
def register (r : DialectRegistry) (driver : String) (dialect : Dialect) : DialectRegistry :=
  ⟨r.dialects.insert driver dialect⟩

/-- The dialects known from the start, each under its own name. -/
def builtin : DialectRegistry :=
  let known := Dialect.transactionalDrivers.map (Dialect.mk · true) ++
    Dialect.plainDrivers.map (Dialect.mk · false)
  known.foldl (fun r dialect => r.register dialect.name dialect) empty

def contains (r : DialectRegistry) (driver : String) : Bool := r.dialects.contains driver

def resolve (r : DialectRegistry) (driver : String) : Dialect :=
  (r.dialects.find? driver).getD (Dialect.generic driver)

/-- Sets the shared registry, or hands the offer back if it is set already. -/
def install (shared : Option DialectRegistry) (offer : DialectRegistry) :
    Except DialectRegistry DialectRegistry :=
  match shared with
  | none => .ok offer
  | some _ => .error offer

@[simp] theorem resolve_register_self (r : DialectRegistry) (driver : String) (dialect : Dialect) :
    (r.register driver dialect).resolve driver = dialect := by
  simp [resolve, register]

theorem resolve_register_of_ne (r : DialectRegistry) {driver other : String} (dialect : Dialect)
    (apart : other ≠ driver) : (r.register driver dialect).resolve other = r.resolve other := by
  simp [resolve, register, Table.find?_insert_of_ne _ _ apart]

end DialectRegistry
end Datastore
