/-!
# Ignoring case

Texts that are looked for ignoring case are made of ASCII letters. Besides its capital, the long s
counts as an s, the Kelvin sign as a k, and the dotless and the dotted capital i as an i.
-/

namespace Db2Client.Text

/-- The character that stands for all those that count as the same. -/
def foldChar (c : Char) : Char :=
  if 65 ≤ c.toNat ∧ c.toNat ≤ 90 then Char.ofNat (c.toNat + 32)
  else if c.toNat = 383 then 's'
  else if c.toNat = 8490 then 'k'
  else if c.toNat = 304 ∨ c.toNat = 305 then 'i'
  else c

def sameFolded (a b : Char) : Bool := foldChar a == foldChar b

/-- What follows `word` at the front of a text, ignoring case. -/
def afterFolded? : List Char → List Char → Option (List Char)
  | [], cs => some cs
  | _ :: _, [] => none
  | w :: word, c :: cs => if sameFolded w c then afterFolded? word cs else none

end Db2Client.Text
