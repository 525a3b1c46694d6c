import Db2Client.Text.Pieces
import Db2Client.Value.Text

/-!
# String literals

Text stands between single quotes, and a single quote inside it is written twice.
-/

namespace Db2Client.Sql

open Text

/-- The literal of a text. -/
def literalChars (cs : List Char) : List Char := '\'' :: doubled '\'' cs ++ ['\'']

def literal (s : String) : String := String.ofList (literalChars s.toList)

/-- A value in a default clause: a flag as a quoted 0 or 1, raw SQL as it is, and everything else as
the literal of its text. -/
def defaultLiteral : Value → String
  | .rawSql fragment => fragment
  | .flag b => if b then "'1'" else "'0'"
  | v => literal v.plain

end Db2Client.Sql
