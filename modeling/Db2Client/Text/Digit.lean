/-!
# Decimal digits

The decimal digits of every script come in runs of ten consecutive code points, so the zeros say
which characters are digits and what each is worth.
-/

namespace Db2Client.Text

/-- The zero of every script in Unicode 14. -/
def zeroDigits : List Nat := [
  48, 1632, 1776, 1984, 2406, 2534, 2662, 2790, 2918, 3046, 3174, 3302, 3430, 3558, 3664, 3792,
  3872, 4160, 4240, 6112, 6160, 6470, 6608, 6784, 6800, 6992, 7088, 7232, 7248, 42528, 43216,
  43264, 43472, 43504, 43600, 44016, 65296, 66720, 68912, 69734, 69872, 69942, 70096, 70384, 70736,
  70864, 71248, 71360, 71472, 71904, 72016, 72784, 73040, 73120, 92768, 92864, 93008, 120782,
  120792, 120802, 120812, 120822, 123200, 123632, 125264, 130032]

/-- The worth of code point `n` among the runs of ten that start at the given zeros. -/
def digitFrom (n : Nat) : List Nat → Option Nat
  | [] => none
  | z :: rest => if n < z then none else if n < z + 10 then some (n - z) else digitFrom n rest

/-- The worth of a decimal digit of any script. -/
def digitValue? (c : Char) : Option Nat := digitFrom c.toNat zeroDigits

def isDigit (c : Char) : Bool := (digitValue? c).isSome

/-- The number that decimal digits write, the first being the most significant. -/
def ofDigits (ds : List Nat) : Nat := ds.foldl (fun n d => 10 * n + d) 0

/-- The least number of digits that write `n`. -/
def digitCount (n : Nat) : Nat := (Nat.toDigits 10 n).length

end Db2Client.Text
