/-!
# Sets of characters

A set of characters is written as the increasing list of the code points at which membership
turns over: outside before the first, inside from the first up to the second, and so on.
-/

namespace Db2Client.Text

/-- A set of characters, by the code points at which membership turns over. -/
structure CharSet where
  turns : List Nat

/-- Whether `n` lies after an odd number of the turns. -/
def afterTurns (n : Nat) : List Nat → Bool
  | [] => false
  | t :: rest => if n < t then false else !afterTurns n rest

def CharSet.contains (s : CharSet) (c : Char) : Bool := afterTurns c.toNat s.turns

end Db2Client.Text
