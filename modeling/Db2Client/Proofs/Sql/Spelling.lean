import Db2Client.Proofs.Text.Pieces
import Db2Client.Sql.Identifier
import Db2Client.Sql.Literal

/-!
# How names and texts are spelled

Names and texts are spelled here by the list functions of the library alone: a name is cut at its
points, its segments are spelled one by one, and a quote is written twice. What writes statements
agrees with the spelling (`columnName_eq`, `tableName_eq`, `columnList_eq`, `literal_eq`). So a
theorem can say what a statement is, character by character, and not name what writes it.
-/

namespace Db2Client.Sql

open Text

namespace Spelling

/-- Every `q` twice and everything else once. -/
def twice (q : Char) (cs : List Char) : List Char :=
  cs.flatMap fun c => if c = q then [q, q] else [c]

/-- The segments of a name, each spelled by itself, with the points between them. A star stands
for everything and is left alone. -/
def segments (spell : List Char → List Char) (name : String) : String :=
  String.ofList (['.'].intercalate
    ((name.toList.splitOn '.').map fun s => if s = ['*'] then s else spell s))

/-- A column name stands bare. -/
def column (name : String) : String := segments (twice '"') name

/-- A table name stands between quotes, segment by segment. -/
def table (name : String) : String := segments (fun s => '"' :: twice '"' s ++ ['"']) name

def columns (names : List String) : String := ", ".intercalate (names.map column)

/-- A text stands between single quotes. -/
def text (s : String) : String := "'" ++ String.ofList (twice '\'' s.toList) ++ "'"

theorem twice_cons (q c : Char) (cs : List Char) :
    twice q (c :: cs) = (if c = q then [q, q] else [c]) ++ twice q cs :=
  List.flatMap_cons

theorem twice_append (q : Char) (cs ds : List Char) :
    twice q (cs ++ ds) = twice q cs ++ twice q ds :=
  List.flatMap_append

theorem twice_of_notMem {q : Char} {cs : List Char} (h : q ∉ cs) : twice q cs = cs := by
  induction cs with
  | nil => rfl
  | cons c cs ih =>
    obtain ⟨hc, hcs⟩ : q ≠ c ∧ q ∉ cs := by simpa using h
    rw [twice_cons, if_neg (Ne.symm hc), ih hcs, List.singleton_append]

theorem text_eq_of_twice {s t : String} (h : twice '\'' s.toList = t.toList) :
    text s = "'" ++ t ++ "'" := by
  rw [text, h, String.ofList_toList]

end Spelling

theorem doubled_eq_twice (q : Char) (cs : List Char) : doubled q cs = Spelling.twice q cs := by
  induction cs with
  | nil => rfl
  | cons c cs ih =>
    rw [doubled, Spelling.twice_cons, ih]
    split <;> rfl

theorem columnName_eq (s : String) : columnName s = Spelling.column s := by
  have hbare : bareSegment = fun s => if s = ['*'] then s else Spelling.twice '"' s := by
    funext s
    rw [bareSegment, doubled_eq_twice]
  rw [columnName, hbare, pieces_eq_splitOn, Spelling.column, Spelling.segments]

theorem tableName_eq (s : String) : tableName s = Spelling.table s := by
  have hquoted : quotedSegment =
      fun s => if s = ['*'] then s else '"' :: Spelling.twice '"' s ++ ['"'] := by
    funext s
    rw [quotedSegment, doubled_eq_twice]
  rw [tableName, hquoted, pieces_eq_splitOn, Spelling.table, Spelling.segments]

theorem columnList_eq (names : List String) : columnList names = Spelling.columns names := by
  have hcolumn : columnName = Spelling.column := funext columnName_eq
  rw [columnList, join_eq_intercalate, hcolumn, Spelling.columns]

theorem literal_eq (s : String) : literal s = Spelling.text s := by
  rw [← String.toList_inj, literal, literalChars, doubled_eq_twice]
  simp [Spelling.text]

/-- A name that looks like several, and a star that is none. -/
example : Spelling.columns ["app.a\"b", "t.*"] = "app.a\"\"b, t.*" ∧
    Spelling.table "app.a\"b" = "\"app\".\"a\"\"b\"" := by decide +kernel

end Db2Client.Sql
