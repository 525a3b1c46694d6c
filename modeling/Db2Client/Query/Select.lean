import Db2Client.Query.Window
import Db2Client.Sql.Identifier
import Db2Client.Value.Integer

/-!
# Select queries

A request names a table, columns and a range of rows. It is planned as a selection, whose window
says which rows are kept, and a selection is written out. Servers that cannot skip rows are given a
condition on row numbers when rows are to be skipped.
-/

namespace Db2Client.Query

open Number Sql

/-- A request for rows. A limit or an offset counts when it is truthy. -/
structure Request where
  table : String
  schema : Option String := none
  columns : Option Columns := none
  limit : Value := .null
  offset : Value := .null

/-- A planned query: the columns as they are written, the table by its qualified name, and the rows
that are kept. -/
structure Selection where
  columns : String
  table : String
  window : Window

/-! ## Planning -/

/-- A number that counts, as an integer. -/
def counted (v : Value) : Except IntegerError (Option Int) :=
  if v.truthy then v.toInteger.map some else .ok none

/-- The window for servers that skip rows. An offset that cannot be written is reported before a
limit that is no number. -/
def clauseWindow (limit offset : Value) : Except IntegerError Window := do
  let skip ← counted offset
  let _ ← Window.clause "" "" skip
  let take ← counted limit
  return .clauses skip take

/-- The window for servers that number rows, with an offset that counts. -/
def numberWindow (limit offset : Value) : Except IntegerError Window := do
  let n ← offset.toInteger
  if limit.truthy then
    let _ ← writeInteger (n + 1)
    return .between (n + 1) (n + (← limit.toInteger))
  else return .above n

def window (compatible : Bool) (limit offset : Value) : Except IntegerError Window :=
  if offset.truthy && compatible then numberWindow limit offset else clauseWindow limit offset

def Request.qualifiedTable (r : Request) : String :=
  match r.schema with
  | some "" | none => r.table
  | some schema => schema ++ "." ++ r.table

/-- All columns when none is chosen. -/
def Request.columnText (r : Request) : String :=
  match r.columns with
  | some columns => if columns.isChosen then columns.text else "*"
  | none => "*"

def Request.plan (compatible : Bool) (r : Request) : Except IntegerError Selection :=
  (window compatible r.limit r.offset).map fun w => ⟨r.columnText, r.qualifiedTable, w⟩

/-! ## Writing -/

/-- The select that numbers the rows. All columns are named through the table there. -/
def numberedSelect (columns table : String) : String :=
  "select " ++ (if columns = "*" then tableName table ++ ".*" else columns) ++
    ", row_number() over () as row_num from " ++ tableName table

def Selection.text (s : Selection) : Except IntegerError String :=
  s.window.text.map fun w =>
    match s.window with
    | .clauses .. => "select " ++ s.columns ++ " from " ++ tableName s.table ++ w
    | _ => "select * from (" ++ numberedSelect s.columns s.table ++ ") as temp_table where " ++ w

/-- The query for a request. -/
def Request.text (compatible : Bool) (r : Request) : Except IntegerError String := do
  (← r.plan compatible).text

end Db2Client.Query
