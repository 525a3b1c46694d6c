import Db2Client.Proofs.Query.Pagination

/-!
# How many rows a limit leaves

A limit that counts bounds the rows: those that are kept follow the rows that are skipped, and there
are no more of them than the limit says. A limit of zero does not count. It is planned as if there
were none, so every row behind the skipped ones is kept.

This holds for servers that skip rows and for servers that number them.

* `Skips`: an offset, and how many rows it asks to skip.
* `Window.ofCounts_keeps_iff`, `Window.rowsOf_ofCounts`: the positions and the rows that are left
  for natural numbers of rows to skip and to take.
* `Request.text_of_writable`: a query is written when the number of the last row in it can be.

Main result: `limit_bounds_rows`.
-/

namespace Db2Client.Query

open Number

variable {m n : Nat} {offset : Value}

/-! ## Natural numbers as counts -/

/-- An offset and the number of rows that it asks to skip. -/
inductive Skips : Value → Nat → Prop
  | nothing : Skips .null 0
  | rows (m : Nat) : Skips (.integer m) m

/-- A natural number counts when it is not zero. -/
def natCount (n : Nat) : Option Int := if n = 0 then none else some n

@[simp] theorem natCount_zero : natCount 0 = none := rfl

@[simp] theorem natCount_of_ne (h : n ≠ 0) : natCount n = some (n : Int) := if_neg h

theorem mem_natCount {k : Int} : k ∈ natCount n ↔ n ≠ 0 ∧ k = n := by
  by_cases hn : n = 0
  · simp [hn]
  · simp [hn, eq_comm]

theorem natCount_nonneg (n : Nat) : ∀ k ∈ natCount n, 0 ≤ k := by
  intro k hk
  obtain ⟨-, rfl⟩ := mem_natCount.1 hk
  exact Int.natCast_nonneg n

theorem getD_natCount (n : Nat) : (natCount n).getD 0 = n := by
  cases n <;> rfl

theorem counted_natural (n : Nat) : counted (.integer n) = .ok (natCount n) := by
  cases n <;> rfl

theorem Skips.counted (h : Skips offset m) : counted offset = .ok (natCount m) := by
  cases h with
  | nothing => rfl
  | rows m => exact counted_natural m

theorem Skips.isCount (h : Skips offset m) : IsCount offset := by
  cases h with
  | nothing => exact .inl rfl
  | rows m => exact isCount_integer (Int.natCast_nonneg m)

theorem Skips.truthy_iff (h : Skips offset m) : offset.truthy = true ↔ m ≠ 0 := by
  cases h with
  | nothing => simp [Value.truthy]
  | rows m => simp [Value.truthy]

/-! ## What is left -/

namespace Window

theorem ofCounts_keeps_iff (compatible : Bool) (m n : Nat) (i : Int) :
    (ofCounts compatible (natCount m) (natCount n)).Keeps i ↔ m < i ∧ (n ≠ 0 → i ≤ m + n) := by
  have hclauses : (ofCounts false (natCount m) (natCount n)).Keeps i ↔
      m < i ∧ (n ≠ 0 → i ≤ m + n) := by
    by_cases hn : n = 0
    · simp [ofCounts, Keeps, getD_natCount, hn]
    · simp [ofCounts, Keeps, getD_natCount, hn]
  cases compatible with
  | false => exact hclauses
  | true => exact (ofCounts_keeps (natCount m) (natCount n) i).symm.trans hclauses

theorem rowsOf_ofCounts {α : Type} (compatible : Bool) (m n : Nat) (rows : List α) :
    (ofCounts compatible (natCount m) (natCount n)).rowsOf rows =
      if n = 0 then rows.drop m else (rows.drop m).take n := by
  have hclauses : (ofCounts false (natCount m) (natCount n)).rowsOf rows =
      if n = 0 then rows.drop m else (rows.drop m).take n := by
    by_cases hn : n = 0
    · simp [ofCounts, rowsOf, getD_natCount, hn]
    · simp [ofCounts, rowsOf, getD_natCount, hn]
  cases compatible with
  | false => exact hclauses
  | true =>
    have hskip := natCount_nonneg m
    have htake := natCount_nonneg n
    rw [← hclauses]
    exact rowsOf_congr (ofCounts_counts true hskip htake) (ofCounts_counts false hskip htake)
      (fun i _ => (ofCounts_keeps _ _ i).symm) rows

end Window

/-! ## Numbers that can be written -/

theorem clause_of_writable (before after : String) {k : Option Int} (h : ∀ n ∈ k, IsWritable n) :
    Window.clause before after k = .ok (clauseText before after k) := by
  cases k with
  | none => rfl
  | some n =>
    rw [Window.clause, writeInteger_of_isWritable (h n rfl), integerText_eq_toString]
    rfl

theorem writable_of_natAbs_le {j k : Int} (h : IsWritable j) (hle : k.natAbs ≤ j.natAbs) :
    IsWritable k :=
  Nat.lt_of_le_of_lt hle h

theorem natCount_writable {j : Int} (h : IsWritable j) (hle : n ≤ j) :
    ∀ k ∈ natCount n, IsWritable k := by
  intro k hk
  obtain ⟨-, rfl⟩ := mem_natCount.1 hk
  exact writable_of_natAbs_le h (by omega)

theorem clauseWindow_of_writable (hoffset : Skips offset m) (hw : IsWritable (m + n)) :
    clauseWindow (.integer n) offset = .ok (.clauses (natCount m) (natCount n)) := by
  have hskip : ∀ k ∈ natCount m, IsWritable k := natCount_writable hw (by omega)
  simp [clauseWindow, hoffset.counted, counted_natural, clause_of_writable "" "" hskip, bind,
    Except.bind, pure, Except.pure]

theorem numberWindow_of_writable (m n : Nat) (hw : IsWritable (m + n)) :
    numberWindow (.integer n) (.integer m) = .ok (.ofCounts true (some m) (natCount n)) := by
  by_cases hn : n = 0
  · simp [numberWindow, Value.toInteger, Value.truthy, Window.ofCounts, hn, bind, Except.bind, pure,
      Except.pure]
  · have hfirst : writeInteger (m + 1) = .ok (integerText (m + 1)) :=
      writeInteger_of_isWritable (writable_of_natAbs_le hw (by omega))
    simp [numberWindow, Value.toInteger, Value.truthy, Window.ofCounts, hn, hfirst, bind,
      Except.bind, pure, Except.pure]

/-- **Planning without refusal.** The window is planned when the number of its last row can be
written. -/
theorem window_of_writable (hoffset : Skips offset m) (hw : IsWritable (m + n))
    (compatible : Bool) :
    window compatible (.integer n) offset =
      .ok (.ofCounts compatible (natCount m) (natCount n)) := by
  have hclauses := clauseWindow_of_writable hoffset hw
  by_cases hm : m = 0
  · have habsent : offset.truthy = false := by simpa [hm] using hoffset.truthy_iff
    rw [window, habsent, Bool.false_and, if_neg Bool.false_ne_true, hclauses, hm, natCount_zero,
      Window.ofCounts_none]
  · have hpresent : offset.truthy = true := hoffset.truthy_iff.2 hm
    rw [window, hpresent, Bool.true_and]
    cases compatible with
    | false => exact hclauses
    | true =>
      cases hoffset with
      | nothing => exact absurd rfl hm
      | rows m =>
        rw [natCount_of_ne hm]
        exact numberWindow_of_writable m n hw

/-- **Writing without refusal.** -/
theorem Window.text_of_writable (hw : IsWritable (m + n)) (compatible : Bool) :
    ∃ t, (ofCounts compatible (natCount m) (natCount n)).text = .ok t := by
  have hclauses : ∃ t, (clauses (natCount m) (natCount n)).text = .ok t := by
    have hskip : ∀ k ∈ natCount m, IsWritable k := natCount_writable hw (by omega)
    have htake : ∀ k ∈ natCount n, IsWritable k := natCount_writable hw (by omega)
    simp [text, clause_of_writable _ _ hskip, clause_of_writable _ _ htake, bind, Except.bind, pure,
      Except.pure]
  by_cases hm : m = 0
  · rw [hm, natCount_zero, ofCounts_none]
    simpa [hm] using hclauses
  · cases compatible with
    | false => exact hclauses
    | true =>
      by_cases hn : n = 0
      · have hbound : writeInteger m = .ok (integerText m) :=
          writeInteger_of_isWritable (writable_of_natAbs_le hw (by omega))
        simp [hm, hn, ofCounts, text, hbound, bind, Except.bind, pure, Except.pure]
      · have hfirst : writeInteger (m + 1) = .ok (integerText (m + 1)) :=
          writeInteger_of_isWritable (writable_of_natAbs_le hw (by omega))
        have hlast : writeInteger (m + n) = .ok (integerText (m + n)) :=
          writeInteger_of_isWritable hw
        simp [hm, hn, ofCounts, text, hfirst, hlast, bind, Except.bind, pure, Except.pure]

theorem Request.text_of_writable {r : Request} (hoffset : Skips r.offset m)
    (hlimit : r.limit = .integer n) (hw : IsWritable (m + n)) (compatible : Bool) :
    ∃ t, r.text compatible = .ok t := by
  obtain ⟨t, ht⟩ := Window.text_of_writable hw compatible
  simp [Request.text, Request.plan, hlimit, window_of_writable hoffset hw compatible,
    Selection.text, ht, Except.map, bind, Except.bind]

/-! ## Limits -/

/-- **A limit that counts is an upper bound.** An offset asks to skip `m` rows and a limit asks for
`n` of those that follow. Servers of both kinds get a query that keeps these rows, unless a number
in it is too long to write. But a limit of zero does not count: the query then keeps all rows that
follow, and that is the only limit that does not bound the rows. -/
theorem limit_bounds_rows (r : Request) (hoffset : Skips r.offset m) (hlimit : r.limit = .integer n)
    (compatible : Bool) :
    (∃ w t, r.text compatible = .ok t ∧ Reads r.columnText r.qualifiedTable w t ∧
      (∀ i, w.Keeps i ↔ m < i ∧ (n ≠ 0 → i ≤ m + n)) ∧
      (∀ (α : Type) (rows : List α),
        w.rowsOf rows = if n = 0 then rows.drop m else (rows.drop m).take n) ∧
      ((∀ (α : Type) (rows : List α), (w.rowsOf rows).length ≤ n) ↔ n ≠ 0)) ∨
    r.text compatible = .error .tooLongToWrite ∧ ¬ IsWritable (m + n) := by
  have hcount : IsCount r.limit := by
    rw [hlimit]
    exact isCount_integer (Int.natCast_nonneg n)
  have htake : counted r.limit = .ok (natCount n) := by
    rw [hlimit]
    exact counted_natural n
  have hwindow := window_of_counted hoffset.isCount hcount hoffset.counted htake compatible
  obtain ⟨t, ht, hreads⟩ | hlong := r.text_cases hwindow
  · left
    have hrows := fun (α : Type) (rows : List α) => Window.rowsOf_ofCounts compatible m n rows
    refine ⟨_, t, ht, hreads, Window.ofCounts_keeps_iff compatible m n, hrows, ?_⟩
    constructor
    · intro hbound hn
      -- One row behind the skipped ones is enough to exceed a limit of zero.
      have hone := hbound Unit (List.replicate (m + 1) ())
      rw [hrows, if_pos hn] at hone
      simp [hn] at hone
    · intro hn α rows
      rw [hrows, if_neg hn]
      exact List.length_take_le n (rows.drop m)
  · refine .inr ⟨hlong, fun hw => ?_⟩
    obtain ⟨t, ht⟩ := Request.text_of_writable hoffset hlimit hw compatible
    rw [hlong] at ht
    cases ht

/-- The third page of ten users on a server that numbers rows. -/
theorem limit_bounds_rows_third :
    ∃ (r : Request) (w : Window) (t : String),
      r.limit = .integer 10 ∧ Skips r.offset 20 ∧ r.text true = .ok t ∧
      Reads r.columnText r.qualifiedTable w t ∧
      (∀ i, w.Keeps i ↔ 20 < i ∧ i ≤ 30) ∧
      ∀ (α : Type) (rows : List α), (w.rowsOf rows).length ≤ 10 := by
  let r : Request := { table := "users", limit := .integer 10, offset := .integer 20 }
  have hoffset : Skips r.offset 20 := .rows 20
  obtain ⟨w, t, ht, hreads, hkeeps, -, hbound⟩ | ⟨-, hlong⟩ :=
    limit_bounds_rows (n := 10) r hoffset rfl true
  · exact ⟨r, w, t, rfl, hoffset, ht, hreads, fun i => by simp [hkeeps], hbound.2 (by decide)⟩
  · exact absurd (isWritable_of_natAbs_le (by decide)) hlong

/-- A limit of zero leaves a row. -/
theorem zero_limit_leaves_row :
    let r : Request := { table := "users", limit := .integer 0 }
    let w : Window := .clauses none none
    (∀ compatible, r.text compatible = .ok "select * from \"users\"") ∧
      Reads r.columnText r.qualifiedTable w "select * from \"users\"" ∧
      w.Keeps 1 ∧ (w.rowsOf ["first"]).length = 1 := by
  refine ⟨?_, ?_, by decide, rfl⟩
  · intro compatible
    cases compatible <;> rfl
  · exact Reads.clauses none none

end Db2Client.Query
