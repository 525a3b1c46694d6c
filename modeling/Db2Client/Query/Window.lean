import Db2Client.Value
import Db2Client.Number.Integer

/-!
# Row windows

A window says which rows of a result are kept, by their positions counted from one. It is written
either as clauses that skip rows and then take some, or as a condition on row numbers for servers
that cannot skip.
-/

namespace Db2Client.Query

open Number

inductive Window where
  /-- Rows to skip and rows to take of those that follow. -/
  | clauses (offset limit : Option Int)
  /-- Rows numbered from `first` to `last`. -/
  | between (first last : Int)
  /-- Rows numbered above `bound`. -/
  | above (bound : Int)
deriving DecidableEq, Repr

namespace Window

/-- Whether the row at a position is kept. -/
def Keeps (w : Window) (i : Int) : Prop :=
  match w with
  | .clauses offset limit =>
    offset.getD 0 < i ∧ ∀ n, limit = some n → i ≤ offset.getD 0 + n
  | .between first last => first ≤ i ∧ i ≤ last
  | .above bound => bound < i

instance (w : Window) (i : Int) : Decidable (w.Keeps i) :=
  match w with
  | .clauses offset none => decidable_of_iff (offset.getD 0 < i) (by simp [Keeps])
  | .clauses offset (some n) =>
    decidable_of_iff (offset.getD 0 < i ∧ i ≤ offset.getD 0 + n) (by simp [Keeps])
  | .between first last => inferInstanceAs (Decidable (first ≤ i ∧ i ≤ last))
  | .above bound => inferInstanceAs (Decidable (bound < i))

/-- A number in a clause that is there when the number is. -/
def clause (before after : String) : Option Int → Except IntegerError String
  | none => .ok ""
  | some n => (writeInteger n).map fun t => before ++ t ++ after

/-- The clauses, or the condition on row numbers. -/
def text : Window → Except IntegerError String
  | .clauses offset limit => do
    let skip ← clause " offset " " rows" offset
    let take ← clause " fetch first " " rows only" limit
    return skip ++ take
  | .between first last => do
    return "row_num between " ++ (← writeInteger first) ++ " and " ++ (← writeInteger last)
  | .above bound => do
    return "row_num > " ++ (← writeInteger bound)

end Window

end Db2Client.Query
