import Db2Client.Number.Decimal
import Db2Client.Value
import Db2Client.Value.Integer

/-!
# Casting keys

A generated key that is a number, or text that is a numeral, becomes an integer, any fraction being
cut off. Everything else stays as it is. Numerals without a point or a power of ten are read as
integers and share their limits; the others are read as decimals and share theirs.
-/

namespace Db2Client.Query

open Number Text

/-- The integer of a numeral that was found in a text. -/
def castNumeral (s : String) (n : Numeral) : Except IntegerError Value :=
  if n.isWhole then (readInteger s).map .integer
  else
    match Decimal.ofNumeral? n with
    | some d => d.truncate.map .integer
    | none => .error .exponentOutOfRange

def castText (s : String) : Except IntegerError Value :=
  match Numeral.ofText? (trim s.toList) with
  | some n => castNumeral s n
  | none => .ok (.text s)

/-- The key as an integer where it is numeric. -/
def castKey (v : Value) : Except IntegerError Value :=
  match v with
  | .float x =>
    match x with
    | .finite .. => x.truncate.map .integer
    | _ => .ok v
  | .decimal d => if d.isFinite then d.truncate.map .integer else .ok v
  | .text s => castText s
  | v => .ok v

end Db2Client.Query
