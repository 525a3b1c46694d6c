import Db2Client.Date.Calendar
import Db2Client.Text.Case
import Db2Client.Value

/-!
# Date formats

A format is text with directives. A directive is a percent sign, flags, a width, a modifier and a
conversion character. The flags choose the padding (`_` spaces, `0` zeros, `-` none) and the case
(`^` upper, `#` the other one). A directive that is not known is copied. Microseconds and the zone
are filled in first, and only where their conversion character follows the percent sign directly.
-/

namespace Db2Client.Date

open Text

/-! ## Directives -/

structure Directive where
  /-- The last of the padding flags. -/
  pad : Option Char := none
  upperCase : Bool := false
  otherCase : Bool := false
  width : Nat := 0
  /-- An `E` or an `O` before the conversion character. -/
  modifier : Option Char := none
  /-- The conversion character, missing at the end of the format. -/
  conversion : Option Char
  /-- The directive as it is written. -/
  written : List Char

def isFlag (c : Char) : Bool := c ∈ ['_', '-', '0', '^', '#']

/-- A directive with one more flag. -/
def Directive.withFlag (d : Directive) (c : Char) : Directive :=
  if c = '^' then { d with upperCase := true }
  else if c = '#' then { d with otherCase := true }
  else { d with pad := some c }

/-- The number that decimal digits write. -/
def widthOf (digits : List Char) : Nat := digits.foldl (fun n c => 10 * n + (c.toNat - 48)) 0

def takeModifier : List Char → Option Char × List Char
  | [] => (none, [])
  | c :: rest => if c = 'E' ∨ c = 'O' then (some c, rest) else (none, c :: rest)

/-- The directive after a percent sign, and what follows it. -/
def directive (cs : List Char) : Directive × List Char :=
  let flags := cs.takeWhile isFlag
  let afterFlags := cs.dropWhile isFlag
  let digits := afterFlags.takeWhile Char.isDigit
  let (modifier, afterModifier) := takeModifier (afterFlags.dropWhile Char.isDigit)
  let conversion := afterModifier.head?
  let written := '%' :: flags ++ digits ++ modifier.toList ++ conversion.toList
  (flags.foldl Directive.withFlag { width := widthOf digits, modifier, conversion, written },
    afterModifier.drop 1)

/-! ## Fields -/

/-- Spaces or zeros in front of a text up to a width. -/
def padded (d : Directive) (width : Nat) (cs : List Char) : List Char :=
  List.replicate (width - cs.length) (if d.pad = some '0' then '0' else ' ') ++ cs

/-- A text at the directive's width. -/
def textField (d : Directive) (s : String) : List Char :=
  padded d d.width (if d.upperCase then s.toList.map simpleUpper else s.toList)

/-- A name, which the other-case flag puts in upper case. -/
def nameField (d : Directive) (s : String) : List Char :=
  textField { d with upperCase := d.upperCase || d.otherCase } s

/-- A number with at least `digits` digits, or as many as the width says. -/
def numberField (d : Directive) (digits : Nat) (n : Int) : List Char :=
  let ds := Nat.toDigits 10 n.natAbs
  let sign := if n < 0 then ['-'] else []
  let gap := max digits d.width - (sign ++ ds).length
  if d.pad = some '-' then padded d d.width (sign ++ ds)
  else if d.pad = some '_' then List.replicate gap ' ' ++ sign ++ ds
  else sign ++ List.replicate gap '0' ++ ds

/-- A number that is padded with spaces unless a flag says otherwise. -/
def spacedField (d : Directive) (digits : Nat) (n : Int) : List Char :=
  numberField (if d.pad = some '0' ∨ d.pad = some '-' then d else { d with pad := some '_' })
    digits n

/-! ## Names -/

def weekdayNames : List String :=
  ["Sunday", "Monday", "Tuesday", "Wednesday", "Thursday", "Friday", "Saturday"]

def monthNames : List String :=
  ["January", "February", "March", "April", "May", "June", "July", "August", "September",
    "October", "November", "December"]

def shortName (s : String) : String := String.ofList (s.toList.take 3)

def Moment.weekdayName (m : Moment) : String := weekdayNames.getD m.weekday ""

def Moment.monthName (m : Moment) : String := monthNames.getD (m.month - 1) ""

/-! ## Simple conversions -/

/-- Whether a conversion takes a modifier. -/
def takesModifier (conversion modifier : Char) : Bool :=
  if modifier = 'E' then conversion ∉ "aAbhBDdeFHIkljMmSUVgGWw".toList
  else conversion ∉ "aADFcxXY".toList

/-- The number of a conversion that gives one, and its least number of digits. -/
def Moment.number? (m : Moment) : Char → Option (Nat × Int)
  | 'C' => some (1, (m.year / 100 : Nat))
  | 'd' => some (2, m.day)
  | 'H' => some (2, m.hour)
  | 'I' => some (2, m.hour12)
  | 'j' => some (3, (m.yearDay + 1 : Nat))
  | 'M' => some (2, m.minute)
  | 'm' => some (2, m.month)
  | 'S' => some (2, m.second)
  | 'u' => some (1, ((m.weekday + 6) % 7 + 1 : Nat))
  | 'U' => some (2, m.sundayWeek)
  | 'V' => some (2, m.isoWeek.2)
  | 'g' => some (2, m.isoWeek.1 % 100)
  | 'G' => some (1, m.isoWeek.1)
  | 'W' => some (2, m.mondayWeek)
  | 'w' => some (1, m.weekday)
  | 'Y' => some (1, m.year)
  | 'y' => some (2, (m.year % 100 : Nat))
  | _ => none

/-- The number of a conversion that is padded with spaces. -/
def Moment.spacedNumber? (m : Moment) : Char → Option Nat
  | 'e' => some m.day
  | 'k' => some m.hour
  | 'l' => some m.hour12
  | _ => none

/-- The half of the day; the other-case flag and the conversion `P` put it in lower case. -/
def dayHalf (m : Moment) (d : Directive) (lowerCase : Bool) : List Char :=
  let pm := m.hour > 11
  if lowerCase || d.otherCase then
    textField { d with upperCase := false } (if pm then "pm" else "am")
  else textField d (if pm then "PM" else "AM")

/-- A directive as it is written. -/
def copied (d : Directive) : List Char := textField d (String.ofList d.written)

/-- A directive whose conversion does not take its modifier, as it is written. The other-case flag
puts it in upper case when the conversion gives a month's name. -/
def refused (d : Directive) (c : Char) : List Char :=
  copied { d with upperCase := d.upperCase || (d.otherCase && c ∈ ['b', 'h', 'B']) }

/-- The field of a directive with a simple conversion. The zone is not known here. -/
def simpleField (m : Moment) (d : Directive) (c : Char) : List Char :=
  match m.number? c with
  | some (digits, n) => numberField d digits n
  | none =>
    match m.spacedNumber? c with
    | some n => spacedField d 2 n
    | none =>
      match c with
      | '%' => padded d d.width ['%']
      | 'n' => padded d d.width ['\n']
      | 't' => padded d d.width ['\t']
      | 'a' => nameField d (shortName m.weekdayName)
      | 'A' => nameField d m.weekdayName
      | 'b' | 'h' => nameField d (shortName m.monthName)
      | 'B' => nameField d m.monthName
      | 'p' => dayHalf m d false
      | 'P' => dayHalf m d true
      | 's' =>
        let n := m.epochSeconds
        padded d d.width ((if n < 0 then ['-'] else []) ++ Nat.toDigits 10 n.natAbs)
      | 'Z' => padded d d.width []
      | 'z' => []
      | _ => copied d

/-! ## Compound conversions -/

/-- The format that a compound conversion stands for. -/
def compound? : Char → Option String
  | 'c' => some "%a %b %e %H:%M:%S %Y"
  | 'D' | 'x' => some "%m/%d/%y"
  | 'F' => some "%Y-%m-%d"
  | 'R' => some "%H:%M"
  | 'r' => some "%I:%M:%S %p"
  | 'T' | 'X' => some "%H:%M:%S"
  | _ => none

/-- A format of simple conversions without flags. -/
def simpleFormat (m : Moment) : List Char → List Char
  | '%' :: c :: rest =>
    simpleField m { conversion := some c, written := ['%', c] } c ++ simpleFormat m rest
  | c :: rest => c :: simpleFormat m rest
  | [] => []

/-- The field of any directive. -/
def field (m : Moment) (d : Directive) : List Char :=
  match d.conversion with
  | none => copied d
  | some c =>
    if d.modifier.any fun e => !takesModifier c e then refused d c
    else
      match compound? c with
      | some format => textField d (String.ofList (simpleFormat m format.toList))
      | none => simpleField m d c

/-! ## Formats -/

/-- Six digits. -/
def microseconds (n : Nat) : List Char :=
  let ds := Nat.toDigits 10 n
  List.replicate (6 - ds.length) '0' ++ ds

/-- The format with microseconds and the zone filled in. -/
def filledIn (m : Moment) : List Char → List Char
  | '%' :: c :: rest =>
    (match c with
      | 'z' => (m.offset.map (offsetText "")).getD "" |>.toList
      | 'Z' => (m.offset.map zoneName).getD "" |>.toList
      | 'f' => microseconds m.microsecond
      | c => ['%', c]) ++ filledIn m rest
  | c :: rest => c :: filledIn m rest
  | [] => []

/-- The text of a format if it is shorter than `room`; `fuel` bounds the directives. -/
def expand (m : Moment) (room : Nat) : Nat → List Char → Option (List Char)
  | 0, _ => some []
  | _, [] => some []
  | fuel + 1, '%' :: rest =>
    let (d, after) := directive rest
    let text := field m { d with width := min d.width room }
    if text.length < room then (expand m (room - text.length) fuel after).map (text ++ ·) else none
  | fuel + 1, c :: rest =>
    if 1 < room then (expand m (room - 1) fuel rest).map (c :: ·) else none

/-- The least doubling of 1024 that is at least `n`; `fuel` bounds the doublings. -/
def capacity (n : Nat) : Nat → Nat → Nat
  | size, 0 => size
  | size, fuel + 1 => if n ≤ size then size else capacity n (2 * size) fuel

/-- A moment in a format. A result that is more than about 256 times as long as the format comes
out empty. -/
def format (m : Moment) (f : String) : String :=
  let cs := filledIn m (f.toList.takeWhile (· ≠ '\x00'))
  let room := capacity (256 * cs.length) 1024 cs.length
  ((expand m room cs.length cs).map String.ofList).getD ""

end Db2Client.Date
