import Db2Client.Text.Blank
import Db2Client.Text.Digit
import Db2Client.Text.Quoted

/-!
# Written integers

An integer is written as an optional sign and decimal digits of any script. Single underscores may
stand between digits, and margins around the whole. Both reading and writing stop at 4300 digits.
-/

namespace Db2Client.Number

open Text

/-- The most digits an integer may have when it is read or written. -/
def digitLimit : Nat := 4300

/-! ## Errors -/

/-- Why something is not an integer, or cannot be written as one. -/
inductive IntegerError where
  | malformed (text : String)
  | tooManyDigits (count : Nat)
  | tooLongToWrite
  | floatNotANumber
  | decimalNotANumber
  | infinite
  | exponentOutOfRange
  | notNumeric
deriving DecidableEq

def IntegerError.message : IntegerError → String
  | .malformed text =>
    "invalid literal for int() with base 10: " ++ String.ofList ((quoted text).toList.take 200)
  | .tooManyDigits count =>
    "Exceeds the limit (4300 digits) for integer string conversion: value has " ++
      toString count ++ " digits; use sys.set_int_max_str_digits() to increase the limit"
  | .tooLongToWrite =>
    "Exceeds the limit (4300 digits) for integer string conversion; " ++
      "use sys.set_int_max_str_digits() to increase the limit"
  | .floatNotANumber => "cannot convert float NaN to integer"
  | .decimalNotANumber => "cannot convert NaN to integer"
  | .infinite => "cannot convert infinity to integer"
  | .exponentOutOfRange => "the exponent is out of range"
  | .notNumeric => "not a number"

/-! ## Reading -/

/-- A sign and what follows it. -/
def takeSign : List Char → Bool × List Char
  | '+' :: rest => (false, rest)
  | '-' :: rest => (true, rest)
  | cs => (false, cs)

def applySign (negative : Bool) (n : Nat) : Int := if negative then -(n : Int) else n

/-- Underscores stand singly and between digits. -/
def wellSpaced : List Char → Bool
  | [] => true
  | '_' :: _ => false
  | [_] => true
  | _ :: '_' :: rest => !rest.isEmpty && wellSpaced rest
  | _ :: rest => wellSpaced rest

/-- Reads an integer. A bad placing of underscores counts before the number of digits, and that
before what follows them. -/
def readInteger (s : String) : Except IntegerError Int :=
  let (negative, cs) := takeSign (s.toList.dropWhile isMargin)
  let inNumber := fun c => isDigit c || c == '_'
  let body := cs.takeWhile inNumber
  let digits := body.filterMap digitValue?
  if !wellSpaced body then .error (.malformed s)
  else if digits.length > digitLimit then .error (.tooManyDigits digits.length)
  else if digits.isEmpty || !(cs.dropWhile inNumber).all isMargin then .error (.malformed s)
  else .ok (applySign negative (ofDigits digits))

/-! ## Writing -/

/-- An integer in decimal. -/
def integerText (n : Int) : String :=
  let ds := String.ofList (Nat.toDigits 10 n.natAbs)
  if n < 0 then "-" ++ ds else ds

/-- An integer in decimal, unless it has too many digits. -/
def writeInteger (n : Int) : Except IntegerError String :=
  if n.natAbs < Nat.pow 10 digitLimit then .ok (integerText n) else .error .tooLongToWrite

/-- The integer has no more digits than can be written. -/
def IsWritable (n : Int) : Prop := n.natAbs < Nat.pow 10 digitLimit

/-- Integers of four digits, such as the numbers of reply list entries, can be written. -/
theorem isWritable_of_natAbs_le {n : Int} (h : n.natAbs ≤ 9999) : IsWritable n := by
  have hpow : ∀ d, 4 ≤ d → 9999 < Nat.pow 10 d := fun d hd =>
    Nat.lt_of_lt_of_le (by decide : 9999 < Nat.pow 10 4) (Nat.pow_le_pow_right (by decide) hd)
  exact Nat.lt_of_le_of_lt h (hpow digitLimit (by decide))

theorem integerText_eq_toString (n : Int) : integerText n = toString n := by
  cases n with
  | ofNat m =>
    have hm : ¬ Int.ofNat m < 0 := by simp
    rw [integerText, if_neg hm]
    rfl
  | negSucc m =>
    rw [integerText, if_pos (Int.negSucc_lt_zero m)]
    rfl

theorem notMem_toString {c : Char} (hsign : c ≠ '-') (hdigit : c.isDigit = false) (n : Int) :
    c ∉ (toString n).toList := by
  have hdigits : c ∉ Nat.toDigits 10 n.natAbs := by
    intro hc
    have hc := Nat.isDigit_of_mem_toDigits (by decide) (by decide) hc
    rw [hdigit] at hc
    cases hc
  rw [← integerText_eq_toString, integerText]
  split
  · simp [hsign, hdigits]
  · simp [hdigits]

theorem writeInteger_of_isWritable {n : Int} (h : IsWritable n) :
    writeInteger n = .ok (integerText n) := if_pos h

theorem writeInteger_of_not_isWritable {n : Int} (h : ¬ IsWritable n) :
    writeInteger n = .error .tooLongToWrite := if_neg h

end Db2Client.Number
