import Db2Client.Proofs.Text.Pieces
import Db2Client.Proofs.Text.QuoteReading
import Db2Client.Sql.Identifier

/-!
# Reading table names

A name is read from the front of a text: a star is a name by itself, and any other name stands
between quotes, where two quotes in a row stand for one. Names with points between them make a path.
The reader knows nothing of how names are written.

The text of a table name is a path, and it is read as the segments of the name, with what follows
it left over (`readPath?_tableName`). So no table name ends before its last segment does, whatever
quotes, points and stars it holds, and different names have different texts.

Main result: `tableName_reads_back`.
-/

namespace Db2Client.Sql

open Text

/-! ## One name -/

/-- The name at the front of a text, and what follows it. -/
def readName? : List Char → Option (List Char × List Char)
  | '*' :: rest => some (['*'], rest)
  | '"' :: rest => readQuoted? '"' rest
  | _ => none

/-- A segment is read as it was, in front of anything but a quote. -/
theorem readName?_quotedSegment (name : List Char) {after : List Char}
    (h : after.head? ≠ some '"') :
    readName? (quotedSegment name ++ after) = some (name, after) := by
  unfold quotedSegment
  split
  · rename_i hstar
    rw [hstar]
    rfl
  · have hread := readQuoted?_doubled name h
    simpa [readName?] using hread

theorem length_lt_of_readName? {cs name after : List Char}
    (h : readName? cs = some (name, after)) : after.length < cs.length := by
  unfold readName? at h
  split at h
  · cases h
    exact Nat.lt_succ_self _
  · obtain ⟨rfl, -⟩ := readQuoted?_eq_some_iff.1 h
    simp only [List.length_append, List.length_cons]
    omega
  · cases h

/-! ## Names with points between them -/

/-- The names of a path at the front of a text, and what follows the last of them. -/
def readPath? (cs : List Char) : Option (List (List Char) × List Char) :=
  match _hread : readName? cs with
  | some (name, '.' :: more) =>
    (readPath? more).map fun (names, after) => (name :: names, after)
  | some (name, after) => some ([name], after)
  | none => none
termination_by cs.length
decreasing_by
  have hlength := length_lt_of_readName? _hread
  simp only [List.length_cons] at hlength
  omega

theorem readPath?_eq (cs : List Char) :
    readPath? cs =
      match readName? cs with
      | some (name, '.' :: more) =>
        (readPath? more).map fun (names, after) => (name :: names, after)
      | some (name, after) => some ([name], after)
      | none => none := by
  rw [readPath?]
  split <;> simp [*]

theorem readPath?_last {cs name after : List Char} (h : readName? cs = some (name, after))
    (hafter : after.head? ≠ some '.') : readPath? cs = some ([name], after) := by
  rw [readPath?_eq, h]
  cases after with
  | nil => rfl
  | cons c after =>
    have hc : c ≠ '.' := by simpa using hafter
    simp [hc]

theorem readPath?_more {cs name more : List Char} (h : readName? cs = some (name, '.' :: more)) :
    readPath? cs = (readPath? more).map fun (names, after) => (name :: names, after) := by
  rw [readPath?_eq, h]
  rfl

/-- The text goes on with neither a quote nor a point. -/
def EndsPath (after : List Char) : Prop := after.head? ≠ some '"' ∧ after.head? ≠ some '.'

theorem readPath?_intercalate (name : List Char) (names : List (List Char)) {after : List Char}
    (h : EndsPath after) :
    readPath? (['.'].intercalate ((name :: names).map quotedSegment) ++ after) =
      some (name :: names, after) := by
  induction names generalizing name with
  | nil => simpa using readPath?_last (readName?_quotedSegment name h.1) h.2
  | cons next names ih =>
    have hpoint : ('.' :: (['.'].intercalate ((next :: names).map quotedSegment) ++ after)).head? ≠
        some '"' := by simp
    have hread := readPath?_more (readName?_quotedSegment name hpoint)
    rw [ih next] at hread
    simpa using hread

/-! ## Table names -/

theorem tableName_toList (t : String) :
    (tableName t).toList = ['.'].intercalate ((t.toList.splitOn '.').map quotedSegment) := by
  rw [tableName, String.toList_ofList, pieces_eq_splitOn]

/-- **A table name is read as its segments**, and it ends where they end. -/
theorem readPath?_tableName (t : String) {after : List Char} (h : EndsPath after) :
    readPath? ((tableName t).toList ++ after) = some (t.toList.splitOn '.', after) := by
  rw [tableName_toList]
  obtain ⟨name, names, hnames⟩ := List.exists_cons_of_ne_nil (List.splitOn_ne_nil '.' t.toList)
  rw [hnames]
  exact readPath?_intercalate name names h

theorem tableName_injective : Function.Injective tableName := by
  intro t u h
  have hend : EndsPath [] := ⟨by simp, by simp⟩
  have hread := readPath?_tableName t hend
  rw [h, readPath?_tableName u hend] at hread
  have hsegments : t.toList.splitOn '.' = u.toList.splitOn '.' := by
    simpa using hread.symm
  have hjoined := congrArg (['.'].intercalate ·) hsegments
  simp only [List.intercalate_splitOn] at hjoined
  exact String.toList_injective hjoined

/-- **Table names read back.** The text of a table name is read to its end, and the names that are
read are the segments between the points of the table name. In front of any text that goes on with
neither a quote nor a point nothing more is read and nothing less. So different table names have
different texts. -/
theorem tableName_reads_back (t : String) :
    readPath? (tableName t).toList = some (t.toList.splitOn '.', []) ∧
    (∀ after, EndsPath after →
      readPath? ((tableName t).toList ++ after) = some (t.toList.splitOn '.', after)) ∧
    ∀ u, tableName t = tableName u ↔ t = u := by
  refine ⟨?_, fun after => readPath?_tableName t, fun u => tableName_injective.eq_iff⟩
  have hend : EndsPath [] := ⟨by simp, by simp⟩
  simpa using readPath?_tableName t hend

/-- A table name with quotes at its points, a star and a segment of quotes. -/
theorem tableName_reads_back_traps :
    EndsPath " where 1 = 1".toList ∧
    readPath? ((tableName "app\".\"; drop.*.\"\".").toList ++ " where 1 = 1".toList) =
      some (["app\"".toList, "\"; drop".toList, ['*'], "\"\"".toList, []],
        " where 1 = 1".toList) := by
  have hend : EndsPath " where 1 = 1".toList := ⟨by decide, by decide⟩
  have hsegments : "app\".\"; drop.*.\"\".".toList.splitOn '.' =
      ["app\"".toList, "\"; drop".toList, ['*'], "\"\"".toList, []] := by decide
  refine ⟨hend, ?_⟩
  rw [(tableName_reads_back _).2.1 _ hend, hsegments]

/-- The text of such a name. -/
example : tableName "app\".\"; drop.*" = "\"app\"\"\".\"\"\"; drop\".*" := by decide

end Db2Client.Sql
