import Db2Client.Value
import Db2Client.Number.Binary64.Shortest
import Db2Client.Text.Pieces
import Db2Client.Text.Quoted

/-!
# The text of a value

A value is written in two ways. Its *shown* form can be told apart from that of other kinds: text
stands in quotes, and raw SQL and decimals carry their kind. Its *plain* form is the text that
takes its place in a statement; it differs for text, raw SQL and decimals, but not inside lists
and mappings.
-/

namespace Db2Client.Value

open Number Text

mutual

/-- The form that tells the kind. -/
def shown : Value → String
  | .null => "None"
  | .flag b => if b then "True" else "False"
  | .integer n => integerText n
  | .float x => x.text
  | .decimal d => "Decimal('" ++ d.text ++ "')"
  | .text s => quoted s
  | .rawSql fragment => "Expression(" ++ quoted fragment ++ ")"
  | .list items => "[" ++ join ", " (shownItems items) ++ "]"
  | .mapping entries => "\x7b" ++ join ", " (shownEntries entries) ++ "\x7d"

def shownItems : List Value → List String
  | [] => []
  | v :: rest => shown v :: shownItems rest

def shownEntries : List (Value × Value) → List String
  | [] => []
  | (k, v) :: rest => (shown k ++ ": " ++ shown v) :: shownEntries rest

end

/-- The form that takes the value's place in a text. -/
def plain : Value → String
  | .decimal d => d.text
  | .text s => s
  | .rawSql fragment => fragment
  | v => v.shown

/-! ## What can be written -/

mutual

/-- No integer in the value has too many digits to be written. -/
def writable : Value → Bool
  | .integer n => n.natAbs < Nat.pow 10 digitLimit
  | .list items => writableItems items
  | .mapping entries => writableEntries entries
  | _ => true

def writableItems : List Value → Bool
  | [] => true
  | v :: rest => writable v && writableItems rest

def writableEntries : List (Value × Value) → Bool
  | [] => true
  | (k, v) :: rest => writable k && writable v && writableEntries rest

end

end Db2Client.Value
