import Db2Client.Failure
import Db2Client.Log
import Db2Client.OrderedMap
import Db2Client.Query.GeneratedKey
import Db2Client.Schema.Catalog
import Db2Client.Text.Case

/-!
# Driver variants

A variant says how one DB2 driver is used: the style of its connection string, the dialect of the
catalog, where generated keys are read, and which connection fields it cannot do without. Variants
are registered under their names in lower case, and the latest registration of a name counts.
-/

namespace Db2Client.Connection

open Query Schema Text

/-- The styles of connection strings. -/
inductive Style where
  /-- For the manager of ODBC drivers. -/
  | odbc
  /-- For the native driver, by the name of a catalogued database. -/
  | catalogued
  /-- For the native driver, by host and port. -/
  | direct
deriving DecidableEq, Repr

structure Variant where
  name : String
  style : Style
  dialect : Dialect
  keySource : KeySource
  /-- The names of the connection fields that must not be empty. -/
  required : List String
  /-- Opened through the manager of ODBC drivers. -/
  odbc : Bool
deriving DecidableEq, Repr

/-! ## The registry -/

abbrev Registry := OrderedMap String Variant

namespace Registry

def register (r : Registry) (v : Variant) : Registry := r.insert (lower v.name) v

/-- The name that a driver is looked up by. A driver that counts as absent has the empty name. -/
def driverKey (driver : Value) : Except Failure String :=
  if !driver.truthy then .ok ""
  else
    match driver with
    | .text s => .ok (lower s)
    | _ => .error .notText

/-- The variant for a driver. A driver without one is reported. -/
def find (r : Registry) (driver : Value) : Except Failure (Option Variant) × Log :=
  match driverKey driver with
  | .error e => (.error e, [])
  | .ok key =>
    match r.get? key with
    | some v => (.ok (some v), [])
    | none => (.ok none, [⟨.warning, "No DB2 variant for driver: " ++ driver.plain⟩])

def supports (r : Registry) (driver : Value) : Except Failure Bool :=
  (driverKey driver).map fun key => r.contains key

/-- The registered names in the order of their first registration. -/
def names (r : Registry) : List String := r.keys

end Registry

/-! ## The variants that are always registered -/

def odbcFields : List String := ["driver_name", "host", "database", "username", "password"]

def directFields : List String := ["driver_name", "database", "host", "port"]

def builtinVariants : List Variant := [
  ⟨"db2_ibmi_odbc", .odbc, .db2, .newTable, odbcFields, true⟩,
  ⟨"db2_ibmi_ibm", .catalogued, .db2, .newTable, ["database"], false⟩,
  ⟨"db2_luw_ibm", .direct, .db2, .newTable, directFields, false⟩,
  ⟨"db2_zos_ibm", .direct, .db2, .finalTable, directFields, false⟩,
  ⟨"db2_zos_odbc", .odbc, .db2, .finalTable, odbcFields, true⟩,
  ⟨"db2_expressc_odbc", .odbc, .expressC, .newTable, odbcFields, true⟩]

def Registry.builtin : Registry := builtinVariants.foldl Registry.register OrderedMap.empty

end Db2Client.Connection
