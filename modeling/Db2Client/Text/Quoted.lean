import Db2Client.Text.Printable

/-!
# Quoted text

A text between quotes as an error message shows it. Single quotes are used unless the text holds
one and no double quote. The quote in use, the backslash and everything without a printed form are
written as escapes.
-/

namespace Db2Client.Text

/-- The hexadecimal digits of `n`, at least `width` of them. -/
def hex (width n : Nat) : List Char :=
  let ds := Nat.toDigits 16 n
  List.replicate (width - ds.length) '0' ++ ds

/-- One character inside quotes `q`. -/
def escaped (q c : Char) : List Char :=
  if c = q ∨ c = '\\' then ['\\', c]
  else if c = '\t' then ['\\', 't']
  else if c = '\n' then ['\\', 'n']
  else if c = '\r' then ['\\', 'r']
  else if unprintableSet.contains c then
    if c.toNat < 0x100 then '\\' :: 'x' :: hex 2 c.toNat
    else if c.toNat < 0x10000 then '\\' :: 'u' :: hex 4 c.toNat
    else '\\' :: 'U' :: hex 8 c.toNat
  else [c]

/-- The quote that a text is shown between. -/
def quoteFor (cs : List Char) : Char := if '\'' ∈ cs ∧ '"' ∉ cs then '"' else '\''

def quoted (s : String) : String :=
  let cs := s.toList
  let q := quoteFor cs
  String.ofList (q :: cs.flatMap (escaped q) ++ [q])

end Db2Client.Text
