import Db2Client.Text.CharSet

/-!
# Blank characters

White space in two readings. *Blank* characters are the white space of Unicode together with the
four information separators U+001C to U+001F. *Margin* characters are those that may surround a
written integer, and exclude the separators.
-/

namespace Db2Client.Text

def blankSet : CharSet where
  turns := [9, 14, 28, 33, 133, 134, 160, 161, 5760, 5761, 8192, 8203, 8232, 8234, 8239, 8240,
    8287, 8288, 12288, 12289]

/-- White space, the information separators included. -/
def isBlank (c : Char) : Bool := blankSet.contains c

/-- White space that may surround a written integer. -/
def isMargin (c : Char) : Bool := isBlank c && !(28 ≤ c.toNat && c.toNat ≤ 31)

/-- A text without the blanks at its two ends. -/
def trim (cs : List Char) : List Char :=
  ((cs.dropWhile isBlank).reverse.dropWhile isBlank).reverse

end Db2Client.Text
