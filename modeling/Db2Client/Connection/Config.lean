import Db2Client.Connection.Variant
import Db2Client.Value.Integer
import Db2Client.Value.Key
import Db2Client.Value.Text

/-!
# Connection configurations

A configuration is read from settings by name. Names that are no connection field are ignored. The
port becomes an integer, the extra keywords a map in their order, and the driver has to be one that
a variant is registered for. Faults are looked for in that order, after a missing driver.
-/

namespace Db2Client.Connection

open Number

/-- Extra keywords of a connection string, in order. -/
abbrev Keywords := OrderedMap Key Value

structure Config where
  driver : String
  driverName : Value := .text ""
  host : Value := .text ""
  port : Option Int := none
  database : Value := .text ""
  username : Value := .text ""
  password : Value := .text ""
  schema : Value := .text ""
  dateFormat : Value := .null
  /-- The server cannot skip rows. -/
  offsetCompatibility : Bool := false
  keywords : Keywords := OrderedMap.empty
  /-- The name that credentials are stored under. -/
  connectionId : Value := .text ""

/-! ## Settings -/

/-- Values by name; the last of a repeated name counts. -/
abbrev Settings := List (String × Value)

def Settings.value? (m : Settings) (name : String) : Option Value := m.reverse.lookup name

/-- The value of a setting, or null when it is missing. -/
def Settings.value (m : Settings) (name : String) : Value := (m.value? name).getD .null

/-! ## Ports -/

/-- A port is an integer, or anything that can be made one. Null and the empty text mean none. What
is no port is shown, unless it holds an integer that is too long to be written. -/
def readPort (v : Value) : Except Failure (Option Int) :=
  if v.isBlank then .ok none
  else
    match v.toInteger with
    | .ok n => .ok (some n)
    | .error .infinite => .error (.number .infinite)
    | .error _ =>
      if v.writable then .error (.configuration (.invalidPort v.shown))
      else .error (.number .tooLongToWrite)

/-! ## Keywords -/

/-- A pair out of a sequence of pairs. -/
def readPair (index : Nat) (v : Value) : Except KeywordError (Key × Value) :=
  match v.items? with
  | none => .error .notPairs
  | some [k, w] => if k.keyForm?.isSome then .ok (⟨k⟩, w) else .error .unusableKey
  | some items => .error (.wrongLength index items.length)

/-- The pairs from `index` on, up to the first that is none. -/
def readPairs (index : Nat) : List Value → Except KeywordError (List (Key × Value))
  | [] => .ok []
  | v :: rest => do
    let p ← readPair index v
    let more ← readPairs (index + 1) rest
    return p :: more

/-- Keywords are given as a mapping or as pairs. What counts as absent gives none. -/
def readKeywords (v : Value) : Except KeywordError Keywords :=
  if !v.truthy then .ok OrderedMap.empty
  else
    match v with
    | .mapping entries => .ok (OrderedMap.ofList (entries.map fun e => (⟨e.1⟩, e.2)))
    | v =>
      match v.items? with
      | none => .error .notPairs
      | some items => (readPairs 0 items).map OrderedMap.ofList

/-! ## Reading a configuration -/

/-- The configuration in the settings, the driver not being looked up yet. -/
def Config.read (m : Settings) (driver : String) : Except Failure Config := do
  let port ← readPort (m.value "port")
  let keywords ← (readKeywords (m.value "odbc_keywords")).mapError .keywords
  let field := fun name => (m.value? name).getD (.text "")
  return {
    driver
    driverName := field "driver_name"
    host := field "host"
    port
    database := field "database"
    username := field "username"
    password := field "password"
    schema := field "schema"
    dateFormat := m.value "date_format"
    offsetCompatibility := (m.value "offset_compatibility_mode").truthy
    keywords
    connectionId := field "connection_id" }

/-- The variant for a driver; a driver without one is an error. -/
def requireVariant (r : Registry) (driver : Value) : Except Failure Variant × Log :=
  match r.find driver with
  | (.error e, log) => (.error e, log)
  | (.ok (some v), log) => (.ok v, log)
  | (.ok none, log) =>
    (.error (.configuration (.unsupportedDriver driver.plain r.names)), log)

def Config.variant (r : Registry) (c : Config) : Except Failure Variant × Log :=
  requireVariant r (.text c.driver)

/-- The configuration in the settings, with what is reported on the way. -/
def Config.ofSettings (r : Registry) (m : Settings) : Except Failure Config × Log :=
  let driver := m.value "driver"
  if !driver.truthy then (.error (.configuration .missingDriver), [])
  else
    match Config.read m driver.plain with
    | .error e => (.error e, [])
    | .ok c =>
      let (v, log) := requireVariant r driver
      (v.map fun _ => c, log)

/-! ## Fields by name -/

def Config.portValue (c : Config) : Value := (c.port.map .integer).getD .null

/-- The value of a field by its name. -/
def Config.field (c : Config) (name : String) : Except Failure Value :=
  match name with
  | "driver" => .ok (.text c.driver)
  | "driver_name" => .ok c.driverName
  | "host" => .ok c.host
  | "port" => .ok c.portValue
  | "database" => .ok c.database
  | "username" => .ok c.username
  | "password" => .ok c.password
  | "schema" => .ok c.schema
  | "date_format" => .ok c.dateFormat
  | "offset_compatibility_mode" => .ok (.flag c.offsetCompatibility)
  | "odbc_keywords" => .ok (.mapping (c.keywords.entries.map fun e => (e.1.value, e.2)))
  | "connection_id" => .ok c.connectionId
  | name => .error (.unknownField name)

/-- The names of the fields, in order. -/
def fieldNames : List String := [
  "driver", "driver_name", "host", "port", "database", "username", "password", "schema",
  "date_format", "offset_compatibility_mode", "odbc_keywords", "connection_id"]

/-- Names besides the fields that a configuration answers to with something that is never null or
empty. -/
def answeredNames : List String := [
  "from_dict", "missing_fields", "validate", "variant", "__annotations__", "__class__",
  "__dataclass_fields__", "__dataclass_params__", "__delattr__", "__dict__", "__dir__", "__doc__",
  "__eq__", "__format__", "__ge__", "__getattribute__", "__getstate__", "__gt__", "__hash__",
  "__init__", "__init_subclass__", "__le__", "__lt__", "__match_args__", "__module__", "__ne__",
  "__new__", "__reduce__", "__reduce_ex__", "__repr__", "__setattr__", "__sizeof__", "__str__",
  "__subclasshook__"]

/-- The one name besides the fields that a configuration answers to with null. It stands for what
refers to the configuration without keeping it, and nothing does. -/
def unheldName : String := "__weakref__"

/-- Whether a required name is null or empty. -/
def Config.lacks (c : Config) (name : String) : Except Failure Bool :=
  if name = unheldName then .ok true
  else if name ∈ answeredNames then .ok false
  else (c.field name).map Value.isBlank

/-- Which of the required fields are null or empty. -/
def Config.missing (c : Config) : List String → Except Failure (List String)
  | [] => .ok []
  | name :: rest => do
    let lacking ← c.lacks name
    let more ← c.missing rest
    return if lacking then name :: more else more

/-- Checks that the variant has all the fields it cannot do without. -/
def Config.validate (c : Config) (v : Variant) : Except Failure Unit := do
  let missing ← c.missing v.required
  if missing.isEmpty then return ()
  else throw (.configuration (.missingFields c.driver missing))

end Db2Client.Connection
