import Db2Client.Number.Numeral

/-!
# Decimal numbers

Decimal numbers keep the digits they were written with: a finite one is
`coefficient * 10 ^ exponent` with a sign, so that `8.00` and `8` are different decimals of the same
worth.
-/

namespace Db2Client.Number

open Text

inductive Decimal where
  | finite (negative : Bool) (coefficient : Nat) (exponent : Int)
  | infinity (negative : Bool)
  /-- Not a number, with the digits that were written after it. -/
  | notANumber (negative signaling : Bool) (payload : String)
deriving DecidableEq

namespace Decimal

/-- The largest power of ten of a leading digit. -/
def maxLeading : Int := 999999999999999999

/-- The least power of ten of a last digit. -/
def minLast : Int := -1999999999999999997

/-- The decimal of a coefficient and a power of ten, when both ends are in range. -/
def make? (negative : Bool) (coefficient : Nat) (exponent : Int) : Option Decimal :=
  if exponent + digitCount coefficient - 1 > maxLeading ∨ exponent < minLast then none
  else some (.finite negative coefficient exponent)

def ofNumeral? (n : Numeral) : Option Decimal := make? n.negative n.coefficient n.exponent

/-! ## Reading -/

def asciiLower (cs : List Char) : List Char := cs.map Char.toLower

/-- The digits after the word for not a number, in ASCII and without zeros in front. -/
def payload (ds : List Char) : String :=
  let worths := (ds.filterMap digitValue?).dropWhile (· == 0)
  String.ofList (worths.map Nat.digitChar)

/-- What the words for infinity and for not a number stand for. -/
def ofWord? (negative : Bool) (word : List Char) : Option Decimal :=
  let w := asciiLower word
  if w = "inf".toList ∨ w = "infinity".toList then some (.infinity negative)
  else
    let (signaling, w) := if w.head? = some 's' then (true, w.tail) else (false, w)
    if "nan".toList.isPrefixOf w then
      let ds := w.drop 3
      if ds.all isDigit then
        some (.notANumber negative signaling (payload ds))
      else none
    else none

/-- Reads a decimal; blanks around it and underscores in it do not count. -/
def read? (s : String) : Option Decimal :=
  let cs := (trim s.toList).filter (· != '_')
  match Numeral.ofText? cs with
  | some n => ofNumeral? n
  | none => let (negative, word) := takeSign cs; ofWord? negative word

/-! ## Writing -/

def signText (negative : Bool) : String := if negative then "-" else ""

def zeros (n : Nat) : String := String.ofList (List.replicate n '0')

/-- Digits with a point after the first `place` of them; zeros fill the gap on either side. -/
def pointed (ds : List Char) (place : Int) : String :=
  if place ≤ 0 then "0." ++ zeros (-place).toNat ++ String.ofList ds
  else if (ds.length : Int) ≤ place then String.ofList ds ++ zeros (place - ds.length).toNat
  else String.ofList (ds.take place.toNat) ++ "." ++ String.ofList (ds.drop place.toNat)

/-- Positional when the last digit is no more than a unit and the value is not below a millionth;
otherwise one digit before the point and a power of ten. -/
def text : Decimal → String
  | .finite negative c e =>
    let ds := Nat.toDigits 10 c
    let leading : Int := e + ds.length
    signText negative ++
      (if e ≤ 0 ∧ -6 < leading then pointed ds leading
      else
        let p := leading - 1
        pointed ds 1 ++
          (if p = 0 then "" else "E" ++ (if p < 0 then "" else "+") ++ integerText p))
  | .infinity negative => signText negative ++ "Infinity"
  | .notANumber negative signaling payload =>
    signText negative ++ (if signaling then "s" else "") ++ "NaN" ++ payload

/-! ## Whole part -/

/-- The integer between zero and the number that is nearest to the number. -/
def truncate : Decimal → Except IntegerError Int
  | .finite negative c e =>
    .ok (applySign negative (
      if c = 0 then 0
      else if e < 0 then
        if (digitCount c : Int) ≤ -e then 0 else c / Nat.pow 10 (-e).toNat
      else c * Nat.pow 10 e.toNat))
  | .infinity _ => .error .infinite
  | .notANumber .. => .error .decimalNotANumber

def isFinite : Decimal → Bool
  | .finite .. => true
  | _ => false

def isZero : Decimal → Bool
  | .finite _ c _ => c == 0
  | _ => false

end Decimal

end Db2Client.Number
