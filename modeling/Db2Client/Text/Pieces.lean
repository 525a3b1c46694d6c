/-!
# Cutting and joining text

A text is cut at every occurrence of a separator and put together again with one. A quote inside
a quoted text is written twice.
-/

namespace Db2Client.Text

/-- The pieces between occurrences of `sep`. A text without one is a single piece. -/
def pieces (sep : Char) : List Char → List (List Char)
  | [] => [[]]
  | c :: rest =>
    if c = sep then [] :: pieces sep rest
    else match pieces sep rest with
      | [] => [[c]]
      | p :: more => (c :: p) :: more

/-- The pieces of a text between occurrences of `sep`. -/
def cut (sep : Char) (s : String) : List String := (pieces sep s.toList).map String.ofList

/-- The texts one after another with `sep` between neighbours. -/
def join (sep : String) : List String → String
  | [] => ""
  | [s] => s
  | s :: t :: rest => s ++ sep ++ join sep (t :: rest)

/-- Every occurrence of `q` written twice. -/
def doubled (q : Char) : List Char → List Char
  | [] => []
  | c :: rest => if c = q then q :: q :: doubled q rest else c :: doubled q rest

/-- Every occurrence of one of `olds` replaced by `new`. -/
def replaceAll (olds : List Char) (new : Char) (cs : List Char) : List Char :=
  cs.map fun c => if c ∈ olds then new else c

/-- Whether `part` occurs in the text. -/
def occursIn (part : List Char) : List Char → Bool
  | [] => part.isEmpty
  | c :: rest => part.isPrefixOf (c :: rest) || occursIn part rest

end Db2Client.Text
