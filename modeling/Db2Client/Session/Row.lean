import Db2Client.Failure
import Db2Client.OrderedMap
import Db2Client.Text.Case
import Db2Client.Value.Key

/-!
# Result rows

A row maps the column names that the database reports to the cells. DB2 reports unquoted names in
upper case, so a column is also found under the upper-case form of its name.

A record maps keys of any kind to values and is searched in the same way.
-/

namespace Db2Client

open Text

abbrev Row := OrderedMap String Value

namespace Row

/-- The cells under the names; the shorter list decides, and the last cell of a repeated name. -/
def ofCells (names : List String) (cells : List Value) : Row := OrderedMap.ofList (names.zip cells)

/-- The cell of a column, under its own name or else under the upper-case one. -/
def cell? (row : Row) (column : String) : Option Value :=
  match row.get? column with
  | some v => some v
  | none => row.get? (upper column)

def cell (row : Row) (column : String) : Except Failure Value :=
  match row.cell? column with
  | some v => .ok v
  | none => .error (.absentColumn column)

end Row

/-! ## Records -/

abbrev Record := OrderedMap Key Value

/-- The value under a key, or else under its upper-case form, which only text has. -/
def Record.value (r : Record) (key : Value) : Except Failure Value :=
  match r.get? ⟨key⟩, key with
  | some v, _ => .ok v
  | none, .text name =>
    match r.get? ⟨.text (upper name)⟩ with
    | some v => .ok v
    | none => .error (.absentColumn name)
  | none, _ => .error .notText

end Db2Client
