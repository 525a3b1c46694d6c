import Db2Client.Text.Case
import Db2Client.Text.Pieces

/-!
# Lower case, part by part

A capital sigma is the one character whose lower-case form depends on its surroundings. It looks
back past marks, but not past an underscore, so what follows an underscore does not depend on what
stands before it (`lowerAfter_underscore`). ASCII names are lowered character by character
(`lowerAfter_name`), and however a text is lowered, its length is the sum over its characters
(`length_lowerAfter_append`).
-/

namespace Db2Client.Text

/-! ## Lengths -/

theorem length_lowerChar {c : Char} (h : c.toNat ≠ 304) : (lowerChar c).length = 1 := by
  rw [lowerChar, if_neg h, List.length_singleton]

theorem length_lowerAfter (before cs : List Char) :
    (lowerAfter before cs).length = (cs.flatMap lowerChar).length := by
  induction cs generalizing before with
  | nil => rfl
  | cons c cs ih =>
    rw [lowerAfter, List.flatMap_cons, List.length_append, List.length_append, ih]
    split
    · rename_i hsigma
      rw [List.length_singleton, length_lowerChar (by omega)]
    · rfl

theorem length_lowerAfter_append (before xs ys : List Char) :
    (lowerAfter before (xs ++ ys)).length =
      (lowerAfter [] xs).length + (lowerAfter [] ys).length := by
  simp only [length_lowerAfter, List.flatMap_append, List.length_append]

/-! ## Names -/

/-- The characters of plain names: ASCII letters and digits, the underscore and the dash. -/
def IsNameChar (c : Char) : Prop := c.isAlphanum = true ∨ c = '_' ∨ c = '-'

instance (c : Char) : Decidable (IsNameChar c) := inferInstanceAs (Decidable (_ ∨ _))

/-- A plain name, or one that is qualified. -/
def IsNameText (cs : List Char) : Prop := ∀ c ∈ cs, IsNameChar c ∨ c = '.'

theorem IsNameText.append {xs ys : List Char} (hx : IsNameText xs) (hy : IsNameText ys) :
    IsNameText (xs ++ ys) := by
  intro c hc
  obtain hc | hc := List.mem_append.1 hc
  · exact hx c hc
  · exact hy c hc

/-- A statement about ASCII characters is one about the numbers below 128. -/
theorem ascii_forall {P : Char → Prop} (h : ∀ n, n < 128 → P (Char.ofNat n)) {c : Char}
    (hc : c.toNat < 128) : P c := by
  have hofNat := h c.toNat hc
  rwa [Char.ofNat_toNat] at hofNat

theorem toNat_lt_of_isNameChar {c : Char} (h : IsNameChar c ∨ c = '.') : c.toNat < 128 := by
  obtain (halnum | rfl | rfl) | rfl := h
  · have hranges : ((decide (65 ≤ c.val ∧ c.val ≤ 90) || (97 ≤ c.val && c.val ≤ 122)) ||
        (48 ≤ c.val && c.val ≤ 57)) = true := halnum
    have hval : c.toNat = c.val.toNat := rfl
    simp only [Bool.or_eq_true, Bool.and_eq_true, decide_eq_true_eq, UInt32.le_iff_toNat_le,
      UInt32.reduceToNat] at hranges
    omega
  · decide
  · decide
  · decide

theorem lowerChar_name {c : Char} (h : IsNameChar c ∨ c = '.') :
    c.toNat ≠ 931 ∧ lowerChar c = [c.toLower] := by
  have hascii : c.toNat < 128 := toNat_lt_of_isNameChar h
  refine ⟨by omega, ?_⟩
  refine ascii_forall (P := fun c => lowerChar c = [c.toLower]) ?_ hascii
  decide +kernel

theorem lowerAfter_name {xs : List Char} (h : IsNameText xs) (before ys : List Char) :
    lowerAfter before (xs ++ ys) =
      xs.map Char.toLower ++ lowerAfter (xs.reverse ++ before) ys := by
  induction xs generalizing before with
  | nil => rfl
  | cons x xs ih =>
    obtain ⟨hx, hxs⟩ := List.forall_mem_cons.1 h
    obtain ⟨hsigma, hlower⟩ := lowerChar_name hx
    rw [List.cons_append, lowerAfter, if_neg hsigma, hlower, ih hxs]
    simp

/-! ## Underscores -/

/-- A look back for a letter with case ends at an underscore. -/
theorem meetsCased_underscore (near far : List Char) :
    meetsCased (near ++ '_' :: far) = meetsCased (near ++ ['_']) := by
  induction near with
  | nil => rfl
  | cons c near ih =>
    unfold meetsCased at ih ⊢
    by_cases hc : caseIgnorableSet.contains c = true
    · simpa [hc] using ih
    · simp [hc]

theorem lowerAfter_behind_underscore (near far cs : List Char) :
    lowerAfter (near ++ '_' :: far) cs = lowerAfter (near ++ ['_']) cs := by
  induction cs generalizing near with
  | nil => rfl
  | cons c cs ih =>
    have hrest := ih (c :: near)
    rw [List.cons_append, List.cons_append] at hrest
    rw [lowerAfter, lowerAfter, meetsCased_underscore near far, hrest]

/-- **What stands before an underscore does not show in what follows it.** -/
theorem lowerAfter_underscore (before cs : List Char) :
    lowerAfter before ('_' :: cs) = '_' :: lowerAfter ['_'] cs := by
  have hsigma : '_'.toNat ≠ 931 := by decide
  have hlower : lowerChar '_' = ['_'] := by decide
  have hbehind : lowerAfter ('_' :: before) cs = lowerAfter ['_'] cs :=
    lowerAfter_behind_underscore [] before cs
  rw [lowerAfter, if_neg hsigma, hlower, hbehind]
  rfl

/-! ## Pieces -/

theorem pieces_of_notMem {sep : Char} {cs : List Char} (h : sep ∉ cs) : pieces sep cs = [cs] := by
  induction cs with
  | nil => rfl
  | cons c cs ih =>
    rw [List.mem_cons, not_or] at h
    rw [pieces, if_neg (Ne.symm h.1), ih h.2]

theorem pieces_append {sep : Char} {cs : List Char} (h : sep ∉ cs) (rest : List Char) :
    pieces sep (cs ++ sep :: rest) = cs :: pieces sep rest := by
  induction cs with
  | nil => rw [List.nil_append, pieces, if_pos rfl]
  | cons c cs ih =>
    rw [List.mem_cons, not_or] at h
    rw [List.cons_append, pieces, if_neg (Ne.symm h.1), ih h.2]

theorem pieces_ne_nil (sep : Char) (cs : List Char) : pieces sep cs ≠ [] := by
  cases cs with
  | nil => simp [pieces]
  | cons c cs =>
    rw [pieces]
    split
    · simp
    · split <;> simp

end Db2Client.Text
