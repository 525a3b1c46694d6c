import Db2Client.Connection.Config
import Db2Client.Date.Format
import Db2Client.Log
import Db2Client.Query.GeneratedKey
import Db2Client.Query.Select
import Db2Client.Schema.Compile
import Db2Client.Session.Database

/-!
# Sessions

A session is a link to a database together with what it remembers: the configuration and its
variant, the default schema, and the current schema, by which unqualified tables are understood.
-/

namespace Db2Client

open Connection Date Query Schema Text

/-- The date format that is used unless another one is given. -/
def defaultDateFormat : String := "%Y-%m-%d %H:%M:%S"

structure Session (σ : Type) where
  config : Config
  variant : Variant
  defaultSchema : String
  currentSchema : String
  link : Link σ
  log : Log := []

namespace Session

variable {σ α : Type}

/-- The name of the default schema, in upper case; empty when none is configured. -/
def schemaName (schema : Value) : Except Failure String :=
  if !schema.truthy then .ok ""
  else
    match schema with
    | .text s => .ok (upper s)
    | _ => .error .notText

/-- The session of a configuration on a link. -/
def start (v : Variant) (c : Config) (link : Link σ) : Except Failure (Session σ) :=
  (schemaName c.schema).map fun schema =>
    { config := c, variant := v, defaultSchema := schema, currentSchema := schema, link }

/-- An action on the session's link. -/
def onLink (a : Action (Link σ) α) : Action (Session σ) α :=
  a.onPart Session.link fun s link => { s with link }

def modify (f : Session σ → Session σ) : Action (Session σ) Unit := .of fun s => (.ok (), f s)

def now : Action (Session σ) (Session σ) := .of fun s => (.ok s, s)

/-! ## Statements -/

def statement (db : Database σ) (text : String) (bindings : List Value) :
    Action (Session σ) Unit :=
  onLink (Link.statement db text bindings)

def select (db : Database σ) (text : String) (bindings : List Value) :
    Action (Session σ) (List Row) :=
  onLink (Link.select db text bindings)

def selectOne (db : Database σ) (text : String) (bindings : List Value) :
    Action (Session σ) (Option Row) :=
  onLink (Link.selectOne db text bindings)

/-- Runs an IBM i system command. -/
def systemCommand (db : Database σ) (command : Value) : Action (Session σ) Unit :=
  statement db "CALL QSYS2.QCMDEXC(?)" [command]

/-- Runs an insert and returns its key. -/
def insertGetKey (db : Database σ) (insert : String) (bindings : List Value) (key : KeyColumns) :
    Action (Session σ) Value := do
  let s ← now
  onLink (Query.insertGetKey db s.variant.keySource insert bindings key)

/-! ## The current schema -/

/-- Makes a schema the current one, in upper case. It is remembered once the database accepts it. -/
def setSchema (db : Database σ) (schema : String) : Action (Session σ) Unit := do
  let name := upper schema
  statement db "set schema ?" [.text name]
  modify fun s =>
    { s with
      currentSchema := name
      log := s.log ++ [⟨.info, "Current schema set to " ++ name⟩] }

/-- Makes the default schema the current one again. -/
def resetSchema (db : Database σ) : Action (Session σ) Unit := do
  let s ← now
  setSchema db s.defaultSchema

/-- A table in the current schema, unless it is qualified: a point among its items qualifies it. -/
def qualify (s : Session σ) (table : Value) : Except Failure Value :=
  match table.items? with
  | none => .error .noItems
  | some items =>
    if items.any (fun v => v.text? = some ".") || s.currentSchema = "" then .ok table
    else .ok (.text (s.currentSchema ++ "." ++ table.plain))

/-- The schema and the table that the catalog is searched for. -/
def catalogNames (s : Session σ) (table : String) : List Value :=
  match cut '.' table with
  | schema :: _ :: _ => [.text schema, .text (baseName table)]
  | _ => [.text s.currentSchema, .text table]

/-- Whether the catalog has a table. -/
def hasTable (db : Database σ) (table : String) : Action (Session σ) Bool := do
  let s ← now
  let rows ← select db s.variant.dialect.tableQuery (s.catalogNames table)
  return !rows.isEmpty

/-- The names of a table's columns in the catalog. -/
def columnNames (db : Database σ) (table : String) : Action (Session σ) (List Value) := do
  let s ← now
  let rows ← select db s.variant.dialect.columnQuery (s.catalogNames table)
  Action.ofExcept (rows.mapM fun row => row.cell "column_name")

/-! ## Blueprints -/

/-- Compiles a blueprint over the session's link. -/
def compile (db : Database σ) (bp : Blueprint) : Action (Session σ) (List String) :=
  .of fun s =>
    let (r, c) := (bp.toSql db).runOn { link := some s.link }
    (r, { s with link := c.link.getD s.link })

/-- Runs statements one after another. -/
def runAll (db : Database σ) : List String → Action (Session σ) Unit
  | [] => return ()
  | text :: rest => do
    statement db text []
    runAll db rest

/-- Compiles a blueprint and then runs its statements. -/
def runBlueprint (db : Database σ) (bp : Blueprint) : Action (Session σ) (List String) := do
  let statements ← compile db bp
  runAll db statements
  return statements

/-! ## Queries and dates -/

/-- The select query for a request, in the way that the server supports. -/
def selectQuery (s : Session σ) (r : Request) : Except Failure String :=
  (r.text s.config.offsetCompatibility).mapError .number

/-- A moment in a date format; the default one stands in for one that counts as absent. -/
def formatDate (dateFormat : Value) (m : Moment) : Except Failure String :=
  match dateFormat.orElse (.text defaultDateFormat) with
  | .text f => .ok (format m f)
  | _ => .error .dateFormatNotText

end Session

end Db2Client
