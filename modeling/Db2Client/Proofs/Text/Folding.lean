import Mathlib.Tactic.SplitIfs
import Db2Client.Text.Fold

/-!
# Texts that are the same but for case

A word is found at the front of a text exactly when the text starts with as many characters that
fold to the same ones (`afterFolded?_eq_some_iff`). Only letters fold to letters, so what is no
letter stands for itself (`eq_of_foldChar`).
-/

namespace Db2Client.Text

theorem afterFolded?_eq_some_iff {word cs rest : List Char} :
    afterFolded? word cs = some rest ↔
      ∃ m, word.map foldChar = m.map foldChar ∧ cs = m ++ rest := by
  induction word generalizing cs with
  | nil =>
    constructor
    · intro h
      exact ⟨[], rfl, Option.some.inj h⟩
    · rintro ⟨m, hm, rfl⟩
      obtain rfl : m = [] := by simpa using hm
      rfl
  | cons w word ih =>
    cases cs with
    | nil =>
      simp only [afterFolded?, reduceCtorEq, false_iff]
      rintro ⟨m, hm, hcs⟩
      obtain rfl : m = [] := (List.append_eq_nil_iff.1 hcs.symm).1
      cases hm
    | cons c cs =>
      rw [afterFolded?]
      -- Both sides go on exactly when the two first characters are folded alike.
      constructor
      · intro h
        split at h
        · rename_i hsame
          obtain ⟨m, hm, rfl⟩ := ih.1 h
          have hfold : foldChar w = foldChar c := eq_of_beq hsame
          exact ⟨c :: m, by rw [List.map_cons, List.map_cons, hfold, hm], rfl⟩
        · cases h
      · rintro ⟨m, hm, hcs⟩
        cases m with
        | nil => cases hm
        | cons c' m =>
          rw [List.cons_append] at hcs
          obtain ⟨rfl, rfl⟩ := List.cons.inj hcs
          obtain ⟨hfold, htail⟩ := List.cons.inj hm
          have hsame : sameFolded w c = true := beq_iff_eq.2 hfold
          rw [if_pos hsame]
          exact ih.2 ⟨m, htail, rfl⟩

/-- What is no small letter is folded from itself alone. -/
theorem eq_of_foldChar {c d : Char} (h : foldChar c = d) (hd : d.toNat < 97 ∨ 122 < d.toNat) :
    c = d := by
  unfold foldChar at h
  split_ifs at h with hcapital
  · have hvalid : (c.toNat + 32).isValidChar := Or.inl (by omega)
    have hnat : d.toNat = c.toNat + 32 := by
      rw [← h, Char.ofNat, dif_pos hvalid]
      rfl
    omega
  -- The other characters that are folded stand for small letters.
  · subst h
    exact absurd hd (by decide)
  · subst h
    exact absurd hd (by decide)
  · subst h
    exact absurd hd (by decide)
  · exact h

end Db2Client.Text
