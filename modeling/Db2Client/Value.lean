import Db2Client.Number.Binary64
import Db2Client.Number.Decimal

/-!
# Values

The values that pass through a client: bindings, cells of result rows, defaults of columns, and
connection settings. Raw SQL is a value of its own, so that it is never taken for text.
-/

namespace Db2Client

open Number

inductive Value where
  | null
  | flag (b : Bool)
  | integer (n : Int)
  | float (x : Binary64)
  | decimal (d : Decimal)
  | text (s : String)
  /-- A fragment of SQL that is never quoted. -/
  | rawSql (fragment : String)
  | list (items : List Value)
  | mapping (entries : List (Value × Value))

namespace Value

instance : Inhabited Value := ⟨.null⟩

/-! ## Truth -/

/-- Null, false, zero, and the empty text, list and mapping count as absent. -/
def truthy : Value → Bool
  | .null => false
  | .flag b => b
  | .integer n => n != 0
  | .float x => !x.isZero
  | .decimal d => !d.isZero
  | .text s => s != ""
  | .rawSql _ => true
  | .list items => !items.isEmpty
  | .mapping entries => !entries.isEmpty

/-- The value itself when it counts as present, otherwise the other one. -/
def orElse (v other : Value) : Value := if v.truthy then v else other

/-- The other value when this one counts as present, otherwise this one. -/
def andThen (v other : Value) : Value := if v.truthy then other else v

def isNull : Value → Bool
  | .null => true
  | _ => false

/-- The text, if the value is one. -/
def text? : Value → Option String
  | .text s => some s
  | _ => none

/-- Null or the empty text. -/
def isBlank : Value → Bool
  | .null => true
  | .text s => s == ""
  | _ => false

/-- The items of a value that has items: those of a list, the characters of a text and the keys of a
mapping. -/
def items? : Value → Option (List Value)
  | .list items => some items
  | .text s => some (s.toList.map fun c => .text (String.ofList [c]))
  | .mapping entries => some (entries.map Prod.fst)
  | _ => none

end Value

end Db2Client
