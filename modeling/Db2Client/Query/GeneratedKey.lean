import Db2Client.Query.Key
import Db2Client.Session.Database
import Db2Client.Sql.Identifier

/-!
# Generated keys

DB2 has no query for the last generated key. An insert is wrapped in a table reference for the
changed rows and run as a select of its key columns. A single key is cast to an integer where it is
numeric; the values of a composite key come back as they are.
-/

namespace Db2Client.Query

open Sql Text

/-- The table reference by which a product gives out the rows that an insert made. -/
inductive KeySource where
  | newTable
  | finalTable
deriving DecidableEq, Repr

def KeySource.text : KeySource → String
  | .newTable => "new table"
  | .finalTable => "final table"

/-- The key columns of an insert. -/
inductive KeyColumns where
  /-- One column; `id` when no name is given. -/
  | single (name : String)
  | composite (names : List String)
deriving DecidableEq

/-- The key columns for a name that may be missing or empty. -/
def KeyColumns.ofName (name : Option String) : KeyColumns :=
  match name with
  | some "" | none => .single "id"
  | some n => .single n

def KeyColumns.names : KeyColumns → List String
  | .single name => [name]
  | .composite names => names

/-- The select that runs an insert and gives out its key columns. -/
def keySelect (source : KeySource) (insert : String) (key : KeyColumns) : String :=
  "select " ++ columnList key.names ++ " from " ++ source.text ++ " (" ++ insert ++ ")"

/-- The key in the rows that the select gave out. -/
def keyOf (statement : String) (key : KeyColumns) (rows : List Row) : Except Failure Value :=
  match rows with
  | [] => .error (.generatedKey (.noRow statement))
  | row :: _ =>
    match key with
    | .composite _ => .ok (.list row.values)
    | .single name =>
      match row.cell? name with
      | none => .error (.generatedKey (.noColumn name row.keys))
      | some v => (castKey v).mapError .number

variable {σ : Type}

/-- Runs an insert and returns its key. -/
def insertGetKey (db : Database σ) (source : KeySource) (insert : String) (bindings : List Value)
    (key : KeyColumns) : Action (Link σ) Value := do
  let statement := keySelect source insert key
  let rows ← Link.select db statement bindings
  Action.ofExcept (keyOf statement key rows)

end Db2Client.Query
