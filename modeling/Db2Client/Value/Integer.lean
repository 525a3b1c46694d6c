import Db2Client.Value
import Db2Client.Number.Integer

/-!
# The integer of a value

Flags count as 0 and 1, fractions are cut off towards zero, and text is read as an integer.
-/

namespace Db2Client.Value

open Number

def toInteger : Value → Except IntegerError Int
  | .flag b => .ok (if b then 1 else 0)
  | .integer n => .ok n
  | .float x => x.truncate
  | .decimal d => d.truncate
  | .text s => readInteger s
  | _ => .error .notNumeric

end Db2Client.Value
