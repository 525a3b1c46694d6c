import Db2Client.Text.Pieces

/-!
# Reading quoted text

Inside quotes two quotes in a row stand for one, and a quote that stands alone ends the text. The
reader knows nothing of how a text is written, and `readQuoted?_eq_some_iff` says that it accepts
what is written with every quote doubled, up to a closing quote, and nothing else.
-/

namespace Db2Client.Text

variable {q : Char}

/-- What stands between quotes behind the opening one, and what follows the closing one. -/
def readQuoted? (q : Char) : List Char → Option (List Char × List Char)
  | [] => none
  | [c] => if c = q then some ([], []) else none
  | c :: d :: rest =>
    if c = q then
      if d = q then (readQuoted? q rest).map fun (cs, after) => (q :: cs, after)
      else some ([], d :: rest)
    else (readQuoted? q (d :: rest)).map fun (cs, after) => (c :: cs, after)

theorem readQuoted?_of_ne {c : Char} (h : c ≠ q) (rest : List Char) :
    readQuoted? q (c :: rest) = (readQuoted? q rest).map fun (cs, after) => (c :: cs, after) := by
  cases rest with
  | nil => simp [readQuoted?, h]
  | cons d rest => rw [readQuoted?, if_neg h]

theorem readQuoted?_pair (q : Char) (rest : List Char) :
    readQuoted? q (q :: q :: rest) =
      (readQuoted? q rest).map fun (cs, after) => (q :: cs, after) := by
  rw [readQuoted?, if_pos rfl, if_pos rfl]

theorem readQuoted?_closing {after : List Char} (h : after.head? ≠ some q) :
    readQuoted? q (q :: after) = some ([], after) := by
  cases after with
  | nil => rw [readQuoted?, if_pos rfl]
  | cons d after => rw [readQuoted?, if_pos rfl, if_neg (by simpa using h)]

/-- What is written inside quotes is read back, up to the closing quote. -/
theorem readQuoted?_doubled (cs : List Char) {after : List Char} (h : after.head? ≠ some q) :
    readQuoted? q (doubled q cs ++ q :: after) = some (cs, after) := by
  induction cs with
  | nil => exact readQuoted?_closing h
  | cons c cs ih =>
    rw [doubled]
    by_cases hc : c = q
    · subst hc
      rw [if_pos rfl, List.cons_append, List.cons_append, readQuoted?_pair, ih]
      rfl
    · rw [if_neg hc, List.cons_append, readQuoted?_of_ne hc, ih]
      rfl

theorem eq_of_readQuoted? {cs text after : List Char} (h : readQuoted? q cs = some (text, after)) :
    cs = doubled q text ++ q :: after ∧ after.head? ≠ some q := by
  fun_induction readQuoted? q cs generalizing text with
  | case1 => cases h
  | case2 =>
    cases h
    exact ⟨rfl, by simp⟩
  | case3 => cases h
  | case4 rest ih =>
    obtain ⟨⟨inner, after'⟩, hinner, heq⟩ := Option.map_eq_some_iff.1 h
    cases heq
    obtain ⟨rfl, hafter⟩ := ih hinner
    exact ⟨by simp [doubled], hafter⟩
  | case5 d rest hd =>
    cases h
    exact ⟨by simp [doubled], by simpa using hd⟩
  | case6 c d rest hc ih =>
    obtain ⟨⟨inner, after'⟩, hinner, heq⟩ := Option.map_eq_some_iff.1 h
    cases heq
    obtain ⟨hrest, hafter⟩ := ih hinner
    exact ⟨by simp [doubled, hc, hrest], hafter⟩

/-- **A quoted text is read exactly as it is written.** -/
theorem readQuoted?_eq_some_iff {cs text after : List Char} :
    readQuoted? q cs = some (text, after) ↔
      cs = doubled q text ++ q :: after ∧ after.head? ≠ some q := by
  constructor
  · exact eq_of_readQuoted?
  · rintro ⟨rfl, hafter⟩
    exact readQuoted?_doubled text hafter

end Db2Client.Text
