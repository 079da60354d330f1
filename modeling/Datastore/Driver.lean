import Datastore.Table
import Datastore.Text.Quoted

/-!
# Driver registries

Drivers by name. What a driver is, is left open: a registry finds it and lists the names.
-/

namespace Datastore

structure DriverRegistry (δ : Type) where
  drivers : Table δ

namespace DriverRegistry

variable {δ : Type}

def empty : DriverRegistry δ := ⟨Table.empty⟩

/-- Sets the driver of a name. -/
def register (r : DriverRegistry δ) (name : String) (driver : δ) : DriverRegistry δ :=
  ⟨r.drivers.insert name driver⟩

/-- A registry of one driver. -/
def single (name : String) (driver : δ) : DriverRegistry δ := empty.register name driver

def find? (r : DriverRegistry δ) (name : String) : Option δ := r.drivers.find? name

/-- Ascending by code points. -/
def sortedNames (r : DriverRegistry δ) : List String :=
  r.drivers.names.mergeSort fun a b => decide (a ≤ b)

def describe (r : DriverRegistry δ) : String :=
  Text.record "DriverRegistry" [("drivers", Text.listed (r.sortedNames.map Text.quoted))]

end DriverRegistry
end Datastore
