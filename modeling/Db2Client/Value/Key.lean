import Db2Client.Value
import Db2Client.OrderedMap

/-!
# Values as keys

Numbers of equal worth are the same key, whatever their kind. Text, raw SQL and null are keys of
their own. Something that is not a number equals no key, not even itself. Lists, mappings and
signaling decimals cannot be keys.
-/

namespace Db2Client

open Number Text

/-! ## The worth of a number -/

/-- A decimal whose last digit is not zero, of the same worth; `fuel` bounds the zeros dropped. -/
def stripTens (c : Nat) (e : Int) : Nat → Nat × Int
  | 0 => (c, e)
  | fuel + 1 => if c % 10 = 0 then stripTens (c / 10) (e + 1) fuel else (c, e)

/-- The one written form that all finite numbers of the same worth share. -/
def worth (negative : Bool) (c : Nat) (e : Int) : Decimal :=
  if c = 0 then .finite false 0 0
  else let (c, e) := stripTens c e (digitCount c); .finite negative c e

def Number.Binary64.worth : Binary64 → Decimal
  | .finite negative m e =>
    if e < 0 then Db2Client.worth negative (m * Nat.pow 5 (-e).toNat) e
    else Db2Client.worth negative (m * Nat.pow 2 e.toNat) 0
  | .infinity negative => .infinity negative
  | .notANumber => .notANumber false false ""

/-! ## Keys -/

/-- What decides whether two keys are the same. -/
inductive KeyForm where
  | null
  | number (worth : Decimal)
  | text (s : String)
  | rawSql (fragment : String)
deriving DecidableEq

def KeyForm.same (a b : KeyForm) : Bool :=
  match a with
  | .number (.notANumber ..) => false
  | _ => a = b

def Value.keyForm? : Value → Option KeyForm
  | .null => some .null
  | .flag b => some (.number (worth false (if b then 1 else 0) 0))
  | .integer n => some (.number (worth (n < 0) n.natAbs 0))
  | .float x => some (.number x.worth)
  | .decimal (.finite negative c e) => some (.number (worth negative c e))
  | .decimal (.notANumber negative signaling payload) =>
    if signaling then none else some (.number (.notANumber negative false payload))
  | .decimal d => some (.number d)
  | .text s => some (.text s)
  | .rawSql fragment => some (.rawSql fragment)
  | .list _ => none
  | .mapping _ => none

/-- A value in its role as a key. -/
structure Key where
  value : Value

instance : BEq Key where
  beq a b :=
    match a.value.keyForm?, b.value.keyForm? with
    | some x, some y => x.same y
    | _, _ => false

end Db2Client
