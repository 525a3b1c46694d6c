import Db2Client.Number.Numeral

/-!
# Binary floating-point numbers

The numbers of 64-bit binary floating point as exact values: a finite one is
`mantissa * 2 ^ exponent` with a sign. Reading rounds a decimal to the nearest such number, a tie
going to the even mantissa.
-/

namespace Db2Client.Number

open Text

inductive Binary64 where
  | finite (negative : Bool) (mantissa : Nat) (exponent : Int)
  | infinity (negative : Bool)
  | notANumber
deriving DecidableEq

namespace Binary64

/-- The exponent of the smallest numbers. -/
def minExponent : Int := -1074

/-- The exponent of the largest numbers. -/
def maxExponent : Int := 971

/-- One past the largest mantissa. -/
def mantissaBound : Nat := Nat.pow 2 53

def zero (negative : Bool) : Binary64 := .finite negative 0 minExponent

/-! ## Rounding -/

/-- The quotient to the nearest integer, a tie going to the even one. -/
def roundDiv (num den : Nat) : Nat :=
  let q := num / den
  let r := num % den
  if 2 * r < den then q
  else if den < 2 * r then q + 1
  else if q % 2 = 0 then q else q + 1

/-- `num / den / 2 ^ e` as a quotient of natural numbers. -/
def scaled (num den : Nat) (e : Int) : Nat × Nat :=
  if e < 0 then (num * Nat.pow 2 (-e).toNat, den) else (num, den * Nat.pow 2 e.toNat)

/-- The least exponent at which `num / den` has no more than 53 bits before the point. -/
def fitExponent (num den : Nat) : Int :=
  let guess : Int := max minExponent ((num.log2 : Int) - den.log2 - 53)
  let fits := fun e => let (n, d) := scaled num den e; n < d * mantissaBound
  if fits guess then guess else guess + 1

/-- The number nearest to `num / den`. -/
def ofRatio (negative : Bool) (num den : Nat) : Binary64 :=
  let e := fitExponent num den
  let (n, d) := scaled num den e
  let m := roundDiv n d
  let (m, e) := if m = mantissaBound then (m / 2, e + 1) else (m, e)
  if e > maxExponent then .infinity negative else .finite negative m e

/-- The number nearest to `coefficient * 10 ^ exponent`. -/
def ofDecimal (negative : Bool) (coefficient : Nat) (exponent : Int) : Binary64 :=
  let size : Int := exponent + digitCount coefficient
  if coefficient = 0 || size < -400 then zero negative
  else if size > 400 then .infinity negative
  else if exponent < 0 then ofRatio negative coefficient (Nat.pow 10 (-exponent).toNat)
  else ofRatio negative (coefficient * Nat.pow 10 exponent.toNat) 1

/-! ## Reading -/

/-- Underscores are left out where they stand between digits. -/
def withoutUnderscores? (cs : List Char) : Option (List Char) :=
  let rec go (last : Option Char) : List Char → Option (List Char)
    | [] => some []
    | c :: rest =>
      if c = '_' then
        if (last.map isDigit).getD false && (rest.head?.map isDigit).getD false then
          go (some c) rest
        else none
      else (go (some c) rest).map (c :: ·)
  go none cs

/-- Reads a number: a numeral or one of the words for infinity and not a number. -/
def read? (s : String) : Option Binary64 :=
  let margins := ((s.toList.dropWhile isMargin).reverse.dropWhile isMargin).reverse
  match withoutUnderscores? margins with
  | none => none
  | some cs =>
    match Numeral.ofText? cs with
    | some n => some (ofDecimal n.negative n.coefficient n.exponent)
    | none =>
      let (negative, word) := takeSign cs
      let w := word.map Char.toLower
      if w = "inf".toList ∨ w = "infinity".toList then some (.infinity negative)
      else if w = "nan".toList then some .notANumber
      else none

/-! ## Whole part -/

/-- The integer between zero and the number that is nearest to the number. -/
def truncate : Binary64 → Except IntegerError Int
  | .finite negative m e =>
    .ok (applySign negative (if e < 0 then m / Nat.pow 2 (-e).toNat else m * Nat.pow 2 e.toNat))
  | .infinity _ => .error .infinite
  | .notANumber => .error .floatNotANumber

def isZero : Binary64 → Bool
  | .finite _ m _ => m == 0
  | _ => false

end Binary64

end Db2Client.Number
