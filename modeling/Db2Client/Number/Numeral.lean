import Db2Client.Text.Blank
import Db2Client.Text.Digit
import Db2Client.Number.Integer

/-!
# Numerals

A numeral is an optional sign, digits with an optional point and fraction (or a point followed by
digits), and an optional power of ten. It denotes `coefficient * 10 ^ power` exactly. The reader
takes the longest numeral at the front of a text and returns what follows.
-/

namespace Db2Client.Number

open Text

/-- The parts of a numeral, digits by their worth. -/
structure Numeral where
  negative : Bool
  whole : List Nat
  /-- The digits after the point, when there is a point. -/
  fraction : Option (List Nat)
  /-- The sign and the digits of the power of ten, when one is written. -/
  power : Option (Bool × List Nat)
deriving DecidableEq

namespace Numeral

/-- No point and no power of ten. -/
def isWhole (n : Numeral) : Bool := n.fraction.isNone && n.power.isNone

def digits (n : Numeral) : List Nat := n.whole ++ n.fraction.getD []

/-- The number that the digits write when the point is left out. -/
def coefficient (n : Numeral) : Nat := ofDigits n.digits

/-- The power of ten that the coefficient is multiplied by. -/
def exponent (n : Numeral) : Int :=
  (match n.power with
    | some (negative, ds) => applySign negative (ofDigits ds)
    | none => 0) - ((n.fraction.getD []).length : Int)

/-! ## Reading -/

/-- The digits at the front of a text, and the rest. -/
def takeDigits (cs : List Char) : List Nat × List Char :=
  ((cs.takeWhile isDigit).filterMap digitValue?, cs.dropWhile isDigit)

/-- A point and the digits after it. -/
def takeFraction : List Char → Option (List Nat) × List Char
  | '.' :: rest => let (ds, after) := takeDigits rest; (some ds, after)
  | cs => (none, cs)

/-- A power of ten; without digits there is none. -/
def takePower : List Char → Option (Bool × List Nat) × List Char
  | [] => (none, [])
  | c :: rest =>
    if c = 'e' ∨ c = 'E' then
      let (negative, cs) := takeSign rest
      let (ds, after) := takeDigits cs
      if ds.isEmpty then (none, c :: rest) else (some (negative, ds), after)
    else (none, c :: rest)

/-- The longest numeral at the front of a text, and what follows it. -/
def take? (cs : List Char) : Option (Numeral × List Char) :=
  let (negative, cs) := takeSign cs
  let (whole, cs) := takeDigits cs
  let (fraction, cs) := takeFraction cs
  let (power, rest) := takePower cs
  if whole.isEmpty && (fraction.getD []).isEmpty then none
  else some (⟨negative, whole, fraction, power⟩, rest)

/-- The numeral that makes up the whole of a text. -/
def ofText? (cs : List Char) : Option Numeral :=
  match take? cs with
  | some (n, []) => some n
  | _ => none

end Numeral

end Db2Client.Number
