import Db2Client.Proofs.Number.NumeralText

/-!
# Reading an integer among blanks

The reader of integers skips margins and not the other blanks, and it has a limit on the number of
digits. What it makes of a sign and digits is therefore decided by the blanks around them and by how
many digits there are.

* `readInteger_of_not_margins`: a blank in front that is no margin is refused.
* `readInteger_of_margins`: behind margins, the three ways in which reading ends.
* `readInteger_of_whole`: what reading makes of a whole numeral among blanks.
-/

namespace Db2Client.Number

open Text

theorem wellSpaced_of_notMem {cs : List Char} (h : '_' ∉ cs) : wellSpaced cs = true := by
  fun_induction wellSpaced cs with
  | case1 => rfl
  | case2 => simp at h
  | case3 => rfl
  | case4 => simp at h
  | case5 c rest _ _ _ ih => exact ih fun hmem => h (List.mem_cons_of_mem _ hmem)

variable {s : String} {left sign front right : List Char} {negative : Bool} {ds : List Nat}

theorem readInteger_of_dropWhile {rest : List Char}
    (hs : s.toList.dropWhile isMargin = sign ++ (front ++ rest))
    (hsign : SpellsSign sign negative) (hfront : SpellsDigits front ds)
    (hhead : ∀ c ∈ (front ++ rest).head?, c ≠ '+' ∧ c ≠ '-')
    (hrest : ∀ c ∈ rest.head?, isDigit c = false ∧ c ≠ '_') :
    readInteger s =
      if ds.length > digitLimit then .error (.tooManyDigits ds.length)
      else if ds.isEmpty || !rest.all isMargin then .error (.malformed s)
      else .ok (applySign negative (ofDigits ds)) := by
  have hin : ∀ c ∈ front, (isDigit c || c == '_') = true := by
    intro c hc
    rw [hfront.isDigit c hc, Bool.true_or]
  have hout : ∀ c ∈ rest.head?, (isDigit c || c == '_') = false := by
    intro c hc
    simpa using hrest c hc
  have hspaced : wellSpaced front = true :=
    wellSpaced_of_notMem fun hmem => ne_of_test (hfront.isDigit _ hmem) (by decide) rfl
  simp only [readInteger, hs, Numeral.takeSign_append hsign hhead,
    takeWhile_append_of_head? hin hout, dropWhile_append_of_head? hin hout, hspaced,
    hfront.filterMap, Bool.not_true, Bool.false_eq_true, if_false]

/-- An integer starts with a sign or a digit. -/
theorem readInteger_of_not_margins {rest : List Char} (hs : s.toList = left ++ rest)
    (hleft : AllBlank left) (hmargins : ¬ ∀ c ∈ left, isMargin c = true) :
    readInteger s = .error (.malformed s) := by
  have hskip : s.toList.dropWhile isMargin = left.dropWhile isMargin ++ rest := by
    rw [hs, List.dropWhile_append, if_neg]
    rwa [List.isEmpty_iff, List.dropWhile_eq_nil_iff]
  obtain ⟨c, more, hmore⟩ :=
    List.exists_cons_of_ne_nil (mt List.dropWhile_eq_nil_iff.1 hmargins)
  have hblank : isBlank c = true := by
    refine hleft c ((List.dropWhile_suffix isMargin).subset ?_)
    rw [hmore]
    exact List.mem_cons_self
  have hmargin : isMargin c = false := by
    have := List.head?_dropWhile_not isMargin left
    rwa [hmore] at this
  have hskip' : s.toList.dropWhile isMargin = [] ++ ([] ++ (c :: more ++ rest)) := by
    rw [hskip, hmore]
    rfl
  rw [readInteger_of_dropWhile hskip' .unsigned .nil]
  · simp [hmargin]
  · rintro c' ⟨⟩
    exact ⟨ne_of_test hblank (by decide), ne_of_test hblank (by decide)⟩
  · rintro c' ⟨⟩
    exact ⟨isDigit_eq_false_of_isBlank hblank, ne_of_test hblank (by decide)⟩

theorem readInteger_of_margins (hs : s.toList = left ++ (sign ++ (front ++ right)))
    (hmargins : ∀ c ∈ left, isMargin c = true) (hright : AllBlank right)
    (hsign : SpellsSign sign negative) (hfront : SpellsDigits front ds) (hds : ds ≠ []) :
    readInteger s =
      if ds.length > digitLimit then .error (.tooManyDigits ds.length)
      else if right.all isMargin then .ok (applySign negative (ofDigits ds))
      else .error (.malformed s) := by
  have hne : front ≠ [] := hfront.ne_nil hds
  have hskip : s.toList.dropWhile isMargin = sign ++ (front ++ right) := by
    rw [hs]
    refine dropWhile_append_of_head? hmargins fun c hc => ?_
    rw [← List.append_assoc, List.head?_append_of_ne_nil _ (by simp [hne])] at hc
    have hblank : isBlank c = false :=
      List.forall_mem_append.2 ⟨hsign.isBlank, hfront.isBlank⟩ c (List.mem_of_mem_head? hc)
    rw [isMargin, hblank, Bool.false_and]
  rw [readInteger_of_dropWhile hskip hsign hfront]
  · cases ds with
    | nil => exact absurd rfl hds
    | cons => cases right.all isMargin <;> rfl
  · intro c hc
    rw [List.head?_append_of_ne_nil _ hne] at hc
    have hdigit : isDigit c = true := hfront.isDigit c (List.mem_of_mem_head? hc)
    exact ⟨ne_of_test hdigit (by decide), ne_of_test hdigit (by decide)⟩
  · intro c hc
    have hblank : isBlank c = true := hright c (List.mem_of_mem_head? hc)
    exact ⟨isDigit_eq_false_of_isBlank hblank, ne_of_test hblank (by decide)⟩

theorem readInteger_of_whole {body : List Char} {n : Numeral}
    (hs : s.toList = left ++ (body ++ right)) (hleft : AllBlank left) (hright : AllBlank right)
    (hbody : Spells body n) (hwhole : n.isWhole = true) :
    readInteger s =
      if !left.all isMargin then .error (.malformed s)
      else if n.whole.length > digitLimit then .error (.tooManyDigits n.whole.length)
      else if right.all isMargin then .ok (applySign n.negative (ofDigits n.whole))
      else .error (.malformed s) := by
  by_cases hmargins : left.all isMargin = true
  · cases hbody with
    | @parts sign front behind letters negative whole fraction power
        hsign hfront hbehind hletters hne =>
      obtain ⟨rfl, rfl⟩ : fraction = none ∧ power = none := by
        simpa [Numeral.isWhole] using hwhole
      cases hbehind
      cases hletters
      simp only [List.append_nil, List.append_assoc, Option.getD_none] at hs hne
      rw [readInteger_of_margins hs (List.all_eq_true.1 hmargins) hright hsign hfront hne,
        hmargins]
      rfl
  · have hsome : ¬ ∀ c ∈ left, isMargin c = true := mt List.all_eq_true.2 hmargins
    rw [readInteger_of_not_margins hs hleft hsome, if_pos (by simpa using hmargins)]

end Db2Client.Number
