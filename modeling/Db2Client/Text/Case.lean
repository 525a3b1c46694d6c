import Db2Client.Text.CharSet
import Db2Client.Text.CaseTable
import Db2Client.Text.CaseContext

/-!
# Lower and upper case

The full case mappings of Unicode: a character may become several, and a capital sigma becomes the
final form at the end of a word.
-/

namespace Db2Client.Text

/-! ## Single characters -/

def shifted (runs : List CaseRun) (c : Char) : Char :=
  Char.ofNat (c.toNat + shiftOf c.toNat runs).toNat

/-- The lower-case form of a character on its own. -/
def lowerChar (c : Char) : List Char :=
  if c.toNat = 304 then [Char.ofNat 105, Char.ofNat 775] else [shifted lowerRuns c]

/-- The upper-case form of a character. -/
def upperChar (c : Char) : List Char :=
  match upperExpansions.lookup c.toNat with
  | some form => form.map Char.ofNat
  | none => [shifted upperRuns c]

/-- The upper-case form of a character where there is room for one character only. -/
def simpleUpper (c : Char) : Char :=
  match upperExpansions.lookup c.toNat with
  | some _ => shifted narrowUpperRuns c
  | none => shifted upperRuns c

/-! ## Whole texts -/

/-- Whether the nearest character that is not passed over is a letter with case. -/
def meetsCased (cs : List Char) : Bool :=
  match cs.dropWhile caseIgnorableSet.contains with
  | [] => false
  | c :: _ => casedSet.contains c

/-- Lower case of `cs`, where `before` is what precedes it, nearest first. -/
def lowerAfter (before : List Char) : List Char → List Char
  | [] => []
  | c :: rest =>
    (if c.toNat = 931 then
      [Char.ofNat (if meetsCased before && !meetsCased rest then 962 else 963)]
    else lowerChar c) ++ lowerAfter (c :: before) rest

def lower (s : String) : String := String.ofList (lowerAfter [] s.toList)

def upper (s : String) : String := String.ofList (s.toList.flatMap upperChar)

end Db2Client.Text
