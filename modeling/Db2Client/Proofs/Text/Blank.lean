import Mathlib.Data.List.TakeWhile
import Db2Client.Text.Blank
import Db2Client.Text.Digit

/-!
# Blanks around a text

A text is what remains of it when it is trimmed, with blanks on either side (`trim_split`), and
trimming takes off all blanks that were put around a text that has none (`trim_surrounded`).

Digits are no blanks: the code points of the former come in runs of ten and those of the latter in
ranges, and no run meets a range (`isBlank_eq_false_of_isDigit`).
-/

namespace Db2Client.Text

/-! ## Blanks and digits -/

theorem ne_of_test {p : Char → Bool} {c other : Char} (h : p c = true) (hother : p other = false) :
    c ≠ other := by
  rintro rfl
  exact absurd (h.symm.trans hother) (by decide)

/-- The ranges between one turn and the next, the first inside and the second outside. -/
def ranges : List Nat → List (Nat × Nat)
  | first :: past :: rest => (first, past) :: ranges rest
  | _ => []

theorem exists_range_of_afterTurns {n : Nat} {turns : List Nat} (heven : turns.length % 2 = 0)
    (h : afterTurns n turns = true) : ∃ r ∈ ranges turns, r.1 ≤ n ∧ n < r.2 := by
  induction turns using ranges.induct with
  | case1 first past rest ih =>
    rw [ranges]
    by_cases hin : first ≤ n ∧ n < past
    · exact ⟨(first, past), List.mem_cons_self, hin⟩
    · have hrest : afterTurns n rest = true := by
        simp only [afterTurns] at h
        split at h
        · cases h
        · split at h
          · omega
          · simpa using h
      have hlength : rest.length % 2 = 0 := by simp only [List.length_cons] at heven; omega
      obtain ⟨r, hr, hbounds⟩ := ih hlength hrest
      exact ⟨r, List.mem_cons_of_mem _ hr, hbounds⟩
  | case2 turns hshort =>
    match turns with
    | [] => cases h
    | [_] => cases heven
    | first :: past :: rest => exact absurd rfl (hshort first past rest)

theorem exists_zero_of_digitFrom {n d : Nat} {zeros : List Nat} (h : digitFrom n zeros = some d) :
    ∃ z ∈ zeros, z ≤ n ∧ n < z + 10 := by
  induction zeros with
  | nil => cases h
  | cons z rest ih =>
    rw [digitFrom] at h
    split at h
    · cases h
    · split at h
      · exact ⟨z, List.mem_cons_self, by omega⟩
      · obtain ⟨z', hz', hbounds⟩ := ih h
        exact ⟨z', List.mem_cons_of_mem _ hz', hbounds⟩

theorem isBlank_eq_false_of_isDigit {c : Char} (h : isDigit c = true) : isBlank c = false := by
  have hapart : ∀ z ∈ zeroDigits, ∀ r ∈ ranges blankSet.turns, z + 10 ≤ r.1 ∨ r.2 ≤ z := by decide
  obtain ⟨d, hd⟩ := Option.isSome_iff_exists.1 h
  obtain ⟨z, hz, hfrom, hto⟩ := exists_zero_of_digitFrom hd
  rw [← Bool.not_eq_true]
  intro hblank
  obtain ⟨r, hr, hfirst, hpast⟩ := exists_range_of_afterTurns (by decide) hblank
  have := hapart z hz r hr
  omega

theorem isDigit_eq_false_of_isBlank {c : Char} (h : isBlank c = true) : isDigit c = false := by
  rw [← Bool.not_eq_true]
  intro hdigit
  exact absurd (h.symm.trans (isBlank_eq_false_of_isDigit hdigit)) (by decide)

/-! ## What stands in front -/

section Front

variable {p : Char → Bool} {front rest : List Char}

theorem takeWhile_append_of_head? (hfront : ∀ c ∈ front, p c = true)
    (hrest : ∀ c ∈ rest.head?, p c = false) : (front ++ rest).takeWhile p = front := by
  rw [List.takeWhile_append_of_pos hfront]
  cases rest with
  | nil => exact List.append_nil front
  | cons c rest => rw [List.takeWhile_cons_of_neg (by simp [hrest c rfl]), List.append_nil]

theorem dropWhile_of_head? (hrest : ∀ c ∈ rest.head?, p c = false) : rest.dropWhile p = rest := by
  cases rest with
  | nil => rfl
  | cons c rest => exact List.dropWhile_cons_of_neg (by simp [hrest c rfl])

theorem dropWhile_append_of_head? (hfront : ∀ c ∈ front, p c = true)
    (hrest : ∀ c ∈ rest.head?, p c = false) : (front ++ rest).dropWhile p = rest := by
  rw [List.dropWhile_append_of_pos hfront, dropWhile_of_head? hrest]

end Front

/-! ## Trimming -/

/-- All characters are blanks. -/
def AllBlank (cs : List Char) : Prop := ∀ c ∈ cs, isBlank c = true

theorem trim_split (cs : List Char) :
    ∃ left right, AllBlank left ∧ AllBlank right ∧ cs = left ++ (trim cs ++ right) := by
  have hblank : ∀ cs : List Char, AllBlank (cs.takeWhile isBlank) :=
    fun cs c hc => List.mem_takeWhile_imp hc
  let body := cs.dropWhile isBlank
  refine ⟨cs.takeWhile isBlank, (body.reverse.takeWhile isBlank).reverse, hblank cs,
    fun c hc => hblank _ c (List.mem_reverse.1 hc), ?_⟩
  have hbody : trim cs ++ (body.reverse.takeWhile isBlank).reverse = body := by
    rw [trim, ← List.reverse_append, List.takeWhile_append_dropWhile, List.reverse_reverse]
  rw [hbody, List.takeWhile_append_dropWhile]

theorem trim_surrounded {left body right : List Char} (hleft : AllBlank left)
    (hright : AllBlank right) (hbody : ∀ c ∈ body, isBlank c = false) :
    trim (left ++ (body ++ right)) = body := by
  have hrear : ((body ++ right).reverse.dropWhile isBlank).reverse = body := by
    rw [List.reverse_append, dropWhile_append_of_head?, List.reverse_reverse]
    · exact fun c hc => hright c (List.mem_reverse.1 hc)
    · exact fun c hc => hbody c (List.mem_reverse.1 (List.mem_of_mem_head? hc))
  rw [trim, List.dropWhile_append_of_pos hleft]
  cases body with
  | nil =>
    rw [List.nil_append, List.dropWhile_eq_nil_iff.2 hright]
    rfl
  | cons c body =>
    have hfront : (c :: body ++ right).dropWhile isBlank = c :: body ++ right :=
      List.dropWhile_cons_of_neg (by simp [hbody c List.mem_cons_self])
    rw [hfront, hrear]

end Db2Client.Text
