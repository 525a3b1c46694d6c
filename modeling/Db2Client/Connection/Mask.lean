import Db2Client.Text.Fold

/-!
# Masking passwords

A connection string is masked before it is logged. What follows a password keyword, up to the next
semicolon, is replaced by three stars. Keywords are found anywhere and in any case.
-/

namespace Db2Client.Connection

open Text

/-- The keywords, with the sign that their value follows. -/
def passwordMarkers : List (List Char) := ["Password=".toList, "PWD=".toList]

/-- The length of the marker at the front of a text. -/
def markerLength? (cs : List Char) : Option Nat :=
  (passwordMarkers.find? fun m => (afterFolded? m cs).isSome).map List.length

/-- What masking is in the middle of. -/
inductive MaskMode where
  | plain
  /-- A marker, with so many characters left. -/
  | marker (left : Nat)
  /-- A value that is left out. -/
  | hidden
deriving DecidableEq

def maskFrom : MaskMode → List Char → List Char
  | _, [] => []
  | .hidden, c :: rest => if c = ';' then c :: maskFrom .plain rest else maskFrom .hidden rest
  | .marker left, c :: rest =>
    if left ≤ 1 then c :: '*' :: '*' :: '*' :: maskFrom .hidden rest
    else c :: maskFrom (.marker (left - 1)) rest
  | .plain, c :: rest =>
    match markerLength? (c :: rest) with
    | some n => c :: maskFrom (.marker (n - 1)) rest
    | none => c :: maskFrom .plain rest

/-- A connection string without its passwords. -/
def maskPassword (s : String) : String := String.ofList (maskFrom .plain s.toList)

end Db2Client.Connection
