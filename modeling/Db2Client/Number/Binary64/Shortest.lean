import Db2Client.Number.Binary64

/-!
# Shortest decimal text

A binary floating-point number is written with the fewest decimal digits that read back as the same
number. Among the decimals with that many digits it is the nearest one, an exact tie going to the
even last digit.
-/

namespace Db2Client.Number.Binary64

open Text

/-! ## The interval that reads back -/

/-- The decimals that round to a number: those from `low` to `high` over `den`. The ends belong to
it when the mantissa is even. -/
structure Interval where
  low : Nat
  mid : Nat
  high : Nat
  den : Nat
  closed : Bool

/-- The half-way points below and above `m * 2 ^ e`. The gap below a power of two is half as
wide. -/
def interval (m : Nat) (e : Int) : Interval :=
  let below := if m = mantissaBound / 2 ∧ minExponent < e then 1 else 2
  let q := e - 2
  let scale := if q < 0 then 1 else Nat.pow 2 q.toNat
  { low := (4 * m - below) * scale
    mid := 4 * m * scale
    high := (4 * m + 2) * scale
    den := if q < 0 then Nat.pow 2 (-q).toNat else 1
    closed := m % 2 = 0 }

/-- Whether `n / d` reads back. -/
def Interval.holds (i : Interval) (n d : Nat) : Bool :=
  if i.closed then i.low * d ≤ n * i.den && n * i.den ≤ i.high * d
  else i.low * d < n * i.den && n * i.den < i.high * d

/-! ## The fewest digits -/

/-- The `p` with `10 ^ (p - 1) ≤ num / den < 10 ^ p`. -/
def magnitude (num den : Nat) : Int :=
  if den ≤ num then digitCount (num / den)
  else
    let k := digitCount (den / num) - 1
    if den ≤ num * Nat.pow 10 k then 1 - (k : Int) else -(k : Int)

/-- The nearer of the two neighbours with unit `10 ^ u` that read back. -/
def onGrid (i : Interval) (u : Int) : Option Nat :=
  let up := if u < 0 then Nat.pow 10 (-u).toNat else 1
  let unit := if u < 0 then 1 else Nat.pow 10 u.toNat
  let num := i.mid * up
  let den := i.den * unit
  let q := num / den
  let r := num % den
  let holds := fun n => i.holds (n * unit) up
  match holds q, holds (q + 1) with
  | false, false => none
  | true, false => some q
  | false, true => some (q + 1)
  | true, true =>
    if 2 * r < den ∨ (2 * r = den ∧ q % 2 = 0) then some q else some (q + 1)

/-- The shortest digits of a positive number and the power of ten of the last one. -/
def shortest (m : Nat) (e : Int) : Nat × Int :=
  let i := interval m e
  let p := magnitude i.mid i.den
  let found := (List.range 17).findSome? fun k =>
    let u : Int := p - (k + 1 : Nat)
    (onGrid i u).map fun n => (n, u)
  found.getD (m, e)

/-! ## The written form -/

/-- Digits without the zeros at their end, and how many there were. -/
def dropZeros (ds : List Char) : List Char := (ds.reverse.dropWhile (· == '0')).reverse

/-- Positional from a ten-thousandth up to below `10 ^ 16`, with at least one digit after the
point; otherwise a power of ten with a sign and at least two digits. -/
def digitsText (ds : List Char) (place : Int) : String :=
  if -4 < place ∧ place ≤ 16 then
    if place ≤ 0 then "0." ++ String.ofList (List.replicate (-place).toNat '0' ++ ds)
    else if (ds.length : Int) ≤ place then
      String.ofList (ds ++ List.replicate (place - ds.length).toNat '0') ++ ".0"
    else String.ofList (ds.take place.toNat) ++ "." ++ String.ofList (ds.drop place.toNat)
  else
    let p := place - 1
    let power := Nat.toDigits 10 p.natAbs
    String.ofList (ds.take 1) ++ (if ds.length ≤ 1 then "" else "." ++ String.ofList (ds.drop 1)) ++
      "e" ++ (if p < 0 then "-" else "+") ++
      String.ofList (List.replicate (2 - power.length) '0' ++ power)

def text : Binary64 → String
  | .finite negative m e =>
    (if negative then "-" else "") ++
      (if m = 0 then "0.0"
      else
        let (n, u) := shortest m e
        let ds := Nat.toDigits 10 n
        digitsText (dropZeros ds) (u + ds.length))
  | .infinity negative => if negative then "-inf" else "inf"
  | .notANumber => "nan"

end Db2Client.Number.Binary64
