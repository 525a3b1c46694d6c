import Db2Client.Text.Blank
import Db2Client.Text.Fold
import Db2Client.Text.Word

/-!
# Error patterns

The shapes of text by which driver errors are told apart. Matching lists every way in which a
pattern fits the front of a text, the preferred way first: the first of two alternatives, something
optional rather than nothing, and long runs before short ones. Searching takes the preferred way at
the first place where there is one.
-/

namespace Db2Client.Diagnosis

open Text

inductive CharClass where
  | word
  | nonWord
  | nonBlank
  | notNewline
  | asciiDigit
  | oneOf (cs : List Char)
deriving DecidableEq, Repr

def CharClass.holds : CharClass → Char → Bool
  | .word, c => wordSet.contains c
  | .nonWord, c => !wordSet.contains c
  | .nonBlank, c => !isBlank c
  | .notNewline, c => c != '\n'
  | .asciiDigit, c => c.isDigit
  | .oneOf cs, c => c ∈ cs

inductive Pattern where
  /-- A text, ignoring case. -/
  | literal (cs : List Char)
  | char (p : CharClass)
  /-- At least so many characters of a class. -/
  | run (p : CharClass) (least : Nat)
  | cat (a b : Pattern)
  | either (a b : Pattern)
  | optional (a : Pattern)
  /-- The part of the text that a match reports. -/
  | group (a : Pattern)
deriving Repr

namespace Pattern

def words (s : String) : Pattern := .literal s.toList

/-- The patterns one after another. -/
def sequence : List Pattern → Pattern
  | [] => .literal []
  | [p] => p
  | p :: q :: rest => .cat p (sequence (q :: rest))

/-- The patterns as alternatives, the preferred one first. -/
def anyOf : List Pattern → Pattern
  | [] => .literal []
  | [p] => p
  | p :: q :: rest => .either p (anyOf (q :: rest))

/-! ## Matching -/

/-- One way in which a pattern fits the front of a text. -/
structure Fit where
  /-- The text from where the reported part begins, and what follows that part. -/
  mark : Option (List Char × List Char) := none
  rest : List Char

/-- The reported part. -/
def Fit.found (f : Fit) : Option (List Char) :=
  f.mark.map fun (start, rest) => start.take (start.length - rest.length)

/-- What is left of a text after zero, one, and so on, characters of a class. -/
def restsAfter (p : CharClass) : List Char → List (List Char)
  | [] => [[]]
  | c :: rest => (c :: rest) :: (if p.holds c then restsAfter p rest else [])

def fits : Pattern → List Char → List Fit
  | .literal word, cs => ((afterFolded? word cs).map fun rest => { rest }).toList
  | .char _, [] => []
  | .char p, c :: rest => if p.holds c then [{ rest }] else []
  | .run p least, cs => (((restsAfter p cs).drop least).reverse).map fun rest => { rest }
  | .cat a b, cs =>
    (fits a cs).flatMap fun f =>
      (fits b f.rest).map fun g => { mark := f.mark.or g.mark, rest := g.rest }
  | .either a b, cs => fits a cs ++ fits b cs
  | .optional a, cs => fits a cs ++ [{ rest := cs }]
  | .group a, cs => (fits a cs).map fun f => { f with mark := some (cs, f.rest) }

/-- The preferred fit at the first place where there is one. -/
def search (p : Pattern) : List Char → Option Fit
  | [] => (p.fits []).head?
  | c :: rest =>
    match (p.fits (c :: rest)).head? with
    | some f => some f
    | none => search p rest

end Pattern

end Db2Client.Diagnosis
