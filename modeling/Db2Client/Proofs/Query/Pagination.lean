import Db2Client.Proofs.Sql.Spelling
import Db2Client.Query.Select

/-!
# The two ways to turn a page

A page is asked for by an offset and a limit. Servers that can skip rows are given clauses, and
servers that cannot are given a condition on row numbers. The two windows differ, and so do the
texts, but they keep the same rows.

* `Window.rowsOf`: the rows that are left of a result, by skipping and taking or by numbering.
* `Window.rowsOf_eq_rowsAt`: those rows are the ones at the positions that the window keeps.
* `Request.text_cases`: a request for counted rows gives the planned window, or holds an integer
  that is too long to write.

`pages_agree` is the main statement.
-/

namespace Db2Client.Query

open Number Sql

variable {α : Type}

/-! ## Rows -/

namespace Window

/-- The rows that are left of a result. Clauses skip rows and take some of those that follow; a
condition is tested on the number of each row. -/
def rowsOf (w : Window) (rows : List α) : List α :=
  match w with
  | .clauses offset none => rows.drop (offset.getD 0).toNat
  | .clauses offset (some n) => (rows.drop (offset.getD 0).toNat).take n.toNat
  | .between first last =>
    ((rows.zipIdx 1).filter fun p => first ≤ p.2 ∧ p.2 ≤ last).map Prod.fst
  | .above bound => ((rows.zipIdx 1).filter fun p => bound < p.2).map Prod.fst

/-- The rows at the positions that a window keeps. -/
def rowsAt (w : Window) (rows : List α) : List α :=
  ((rows.zipIdx 1).filter fun p => w.Keeps p.2).map Prod.fst

/-- No number of rows is negative. -/
def Counts : Window → Prop
  | .clauses offset limit => (∀ n ∈ offset, 0 ≤ n) ∧ ∀ n ∈ limit, 0 ≤ n
  | _ => True

end Window

/-- Skipping `n` rows keeps the rows numbered above `n`, where `k` rows went before. -/
theorem filter_above (n k : Nat) (rows : List α) :
    ((rows.zipIdx (k + 1)).filter fun p => n < p.2).map Prod.fst = rows.drop (n - k) := by
  induction rows generalizing k with
  | nil => simp
  | cons row rest ih =>
    rw [List.zipIdx_cons, List.filter_cons]
    by_cases hrow : n < k + 1
    · have hskip : n - k = 0 := by omega
      have hrest : n - (k + 1) = 0 := by omega
      simp [hrow, ih, hskip, hrest]
    · have hskip : n - k = (n - (k + 1)) + 1 := by omega
      simp only [hrow, decide_false, Bool.false_eq_true, if_false, ih, hskip, List.drop_succ_cons]

/-- Taking `m` rows keeps the rows numbered up to `m`, where `k` rows went before. -/
theorem filter_upTo (m k : Nat) (rows : List α) :
    (rows.zipIdx (k + 1)).filter (fun p => p.2 ≤ m) = (rows.take (m - k)).zipIdx (k + 1) := by
  induction rows generalizing k with
  | nil => simp
  | cons row rest ih =>
    rw [List.zipIdx_cons, List.filter_cons, ih]
    by_cases hrow : k + 1 ≤ m
    · have htake : m - k = (m - (k + 1)) + 1 := by omega
      simp [hrow, htake]
    · have htake : m - k = 0 := by omega
      have hrest : m - (k + 1) = 0 := by omega
      simp [hrow, htake, hrest]

/-- Skipping and then taking keeps the rows numbered between the two bounds. -/
theorem filter_between (n m : Nat) (rows : List α) :
    ((rows.zipIdx 1).filter fun p => n < p.2 ∧ p.2 ≤ n + m).map Prod.fst =
      (rows.drop n).take m := by
  -- First the rows behind the window are left out, and then those before it.
  have hboth : ((rows.zipIdx 1).filter fun p => n < p.2 ∧ p.2 ≤ n + m) =
      ((rows.zipIdx 1).filter fun p => p.2 ≤ n + m).filter fun p => n < p.2 := by
    rw [List.filter_filter]
    simp
  have hupTo : (rows.zipIdx 1).filter (fun p => p.2 ≤ n + m) = (rows.take (n + m)).zipIdx 1 :=
    filter_upTo (n + m) 0 rows
  have habove : (((rows.take (n + m)).zipIdx 1).filter fun p => n < p.2).map Prod.fst =
      (rows.take (n + m)).drop n := filter_above n 0 (rows.take (n + m))
  rw [hboth, hupTo, habove, List.drop_take, Nat.add_sub_cancel_left]

namespace Window

/-- **The rows of a window are those at its positions.** -/
theorem rowsOf_eq_rowsAt {w : Window} (h : w.Counts) (rows : List α) :
    w.rowsOf rows = w.rowsAt rows := by
  cases w with
  | between first last => rfl
  | above bound => rfl
  | clauses offset limit =>
    obtain ⟨hoffset, hlimit⟩ := h
    have hskip : 0 ≤ offset.getD 0 := by
      cases offset with
      | none => exact Int.le_refl 0
      | some n => exact hoffset n rfl
    obtain ⟨n, hn⟩ := Int.eq_ofNat_of_zero_le hskip
    cases limit with
    | none =>
      have habove : ((rows.zipIdx 1).filter fun p => n < p.2).map Prod.fst = rows.drop n :=
        filter_above n 0 rows
      simp [rowsOf, rowsAt, Keeps, hn, habove]
    | some m =>
      obtain ⟨m, rfl⟩ := Int.eq_ofNat_of_zero_le (hlimit m rfl)
      have hkept : ∀ i : Nat, ((n : Int) < i ∧ (i : Int) ≤ n + m) ↔ (n < i ∧ i ≤ n + m) := by
        intro i
        omega
      have hbetween := filter_between n m rows
      simp only [rowsOf, rowsAt, Keeps, hn, Option.some.injEq, forall_eq', hkept,
        Int.toNat_natCast, hbetween]

theorem rowsOf_congr {v w : Window} (hv : v.Counts) (hw : w.Counts)
    (h : ∀ i, 1 ≤ i → (v.Keeps i ↔ w.Keeps i)) (rows : List α) : v.rowsOf rows = w.rowsOf rows := by
  rw [rowsOf_eq_rowsAt hv, rowsOf_eq_rowsAt hw, rowsAt, rowsAt]
  congr 1
  apply List.filter_congr
  intro p hp
  have hpos : 1 ≤ p.2 := List.le_snd_of_mem_zipIdx hp
  exact decide_eq_decide.2 (h p.2 (by omega))

end Window

/-! ## Counts -/

/-- A count of rows, as an offset or a limit gives one: nothing, or a value whose integer is not
negative. -/
def IsCount (v : Value) : Prop := v.truthy = false ∨ ∃ n : Int, 0 ≤ n ∧ v.toInteger = .ok n

theorem isCount_integer {n : Int} (h : 0 ≤ n) : IsCount (.integer n) := .inr ⟨n, h, rfl⟩

theorem counted_of_absent {v : Value} (h : v.truthy = false) : counted v = .ok none := by
  simp [counted, h]

theorem counted_of_present {v : Value} (h : v.truthy = true) {n : Int} (hn : v.toInteger = .ok n) :
    counted v = .ok (some n) := by
  simp [counted, h, hn, Except.map]

theorem counted_of_isCount {v : Value} (h : IsCount v) :
    (v.truthy = false ∧ counted v = .ok none) ∨
      ∃ n, 0 ≤ n ∧ v.truthy = true ∧ v.toInteger = .ok n ∧ counted v = .ok (some n) := by
  cases hv : v.truthy with
  | false => exact .inl ⟨rfl, counted_of_absent hv⟩
  | true =>
    obtain habsent | ⟨n, hn, hint⟩ := h
    · rw [hv] at habsent
      cases habsent
    · exact .inr ⟨n, hn, rfl, hint, counted_of_present hv hint⟩

theorem counted_nonneg {v : Value} (h : IsCount v) :
    ∃ k, counted v = .ok k ∧ ∀ n ∈ k, 0 ≤ n := by
  obtain ⟨-, hnone⟩ | ⟨n, hn, -, -, hsome⟩ := counted_of_isCount h
  · exact ⟨none, hnone, nofun⟩
  · exact ⟨some n, hsome, by simpa using hn⟩

/-! ## Numbers in a query -/

/-- A clause as it stands in a query. -/
def clauseText (before after : String) : Option Int → String
  | none => ""
  | some n => before ++ toString n ++ after

theorem writeInteger_cases (n : Int) :
    writeInteger n = .ok (toString n) ∨ writeInteger n = .error .tooLongToWrite := by
  by_cases hn : IsWritable n
  · left
    rw [writeInteger_of_isWritable hn, integerText_eq_toString]
  · exact .inr (writeInteger_of_not_isWritable hn)

theorem clause_cases (before after : String) (k : Option Int) :
    Window.clause before after k = .ok (clauseText before after k) ∨
      Window.clause before after k = .error .tooLongToWrite := by
  cases k with
  | none => exact .inl rfl
  | some n =>
    obtain hn | hn := writeInteger_cases n
    · left
      simp [Window.clause, clauseText, hn, Except.map]
    · right
      simp [Window.clause, hn, Except.map]

/-! ## Planning -/

/-- The window for rows to skip and rows to take. -/
def Window.ofCounts (compatible : Bool) (skip take : Option Int) : Window :=
  match compatible, skip, take with
  | true, some n, some m => .between (n + 1) (n + m)
  | true, some n, none => .above n
  | _, skip, take => .clauses skip take

/-- **Skipping and taking against numbering.** Row `n + 1` is the first after `n` rows are skipped,
and row `n + m` the last of the `m` that are taken. -/
theorem Window.ofCounts_keeps (skip take : Option Int) (i : Int) :
    (ofCounts false skip take).Keeps i ↔ (ofCounts true skip take).Keeps i := by
  cases skip with
  | none => rfl
  | some n =>
    cases take with
    | none => simp [ofCounts, Keeps]
    | some m =>
      simp only [ofCounts, Keeps, Option.getD_some, Option.some.injEq, forall_eq']
      omega

theorem Window.ofCounts_counts (compatible : Bool) {skip take : Option Int}
    (hskip : ∀ n ∈ skip, 0 ≤ n) (htake : ∀ n ∈ take, 0 ≤ n) :
    (ofCounts compatible skip take).Counts := by
  unfold ofCounts
  split
  · trivial
  · trivial
  · exact ⟨hskip, htake⟩

theorem Window.ofCounts_none (compatible : Bool) (take : Option Int) :
    ofCounts compatible none take = .clauses none take := by
  cases compatible <;> rfl

theorem clauseWindow_cases {limit offset : Value} {skip take : Option Int}
    (hskip : counted offset = .ok skip) (htake : counted limit = .ok take) :
    clauseWindow limit offset = .ok (.clauses skip take) ∨
      clauseWindow limit offset = .error .tooLongToWrite := by
  obtain hclause | hclause := clause_cases "" "" skip
  · left
    simp [clauseWindow, hskip, htake, hclause, bind, Except.bind, pure, Except.pure]
  · right
    simp [clauseWindow, hskip, hclause, bind, Except.bind]

/-- For an offset of `n` rows a condition is planned, or its lower bound is too long. -/
theorem numberWindow_cases {limit offset : Value} {n : Int} (hoffset : offset.toInteger = .ok n)
    (hlimit : IsCount limit) {take : Option Int} (htake : counted limit = .ok take) :
    numberWindow limit offset = .ok (.ofCounts true (some n) take) ∨
      numberWindow limit offset = .error .tooLongToWrite := by
  obtain ⟨habsent, hnone⟩ | ⟨m, -, hpresent, hm, hsome⟩ := counted_of_isCount hlimit
  · left
    rw [hnone] at htake
    cases htake
    simp [numberWindow, hoffset, habsent, bind, Except.bind, pure, Except.pure, Window.ofCounts]
  · rw [hsome] at htake
    cases htake
    by_cases hfirst : IsWritable (n + 1)
    · left
      simp [numberWindow, hoffset, hpresent, hm, writeInteger_of_isWritable hfirst, bind,
        Except.bind, pure, Except.pure, Window.ofCounts]
    · right
      simp [numberWindow, hoffset, hpresent, writeInteger_of_not_isWritable hfirst, bind,
        Except.bind]

theorem window_of_counted {limit offset : Value} {skip take : Option Int} (hoffset : IsCount offset)
    (hlimit : IsCount limit) (hskip : counted offset = .ok skip) (htake : counted limit = .ok take)
    (compatible : Bool) :
    window compatible limit offset = .ok (.ofCounts compatible skip take) ∨
      window compatible limit offset = .error .tooLongToWrite := by
  obtain ⟨habsent, hnone⟩ | ⟨n, -, hpresent, hint, hsome⟩ := counted_of_isCount hoffset
  · rw [hnone] at hskip
    cases hskip
    rw [window, habsent, Bool.false_and, if_neg Bool.false_ne_true, Window.ofCounts_none]
    exact clauseWindow_cases hnone htake
  · rw [hsome] at hskip
    cases hskip
    rw [window, hpresent, Bool.true_and]
    cases compatible with
    | false => exact clauseWindow_cases hsome htake
    | true => exact numberWindow_cases hint hlimit htake

/-- **Planning.** For counts each kind of server gets its window, or a number in it is too long. -/
theorem window_cases {limit offset : Value} (hoffset : IsCount offset) (hlimit : IsCount limit) :
    ∃ skip take : Option Int, (∀ n ∈ skip, 0 ≤ n) ∧ (∀ n ∈ take, 0 ≤ n) ∧
      ∀ compatible, window compatible limit offset = .ok (.ofCounts compatible skip take) ∨
        window compatible limit offset = .error .tooLongToWrite := by
  obtain ⟨skip, hskip, hskipped⟩ := counted_nonneg hoffset
  obtain ⟨take, htake, htaken⟩ := counted_nonneg hlimit
  exact ⟨skip, take, hskipped, htaken, window_of_counted hoffset hlimit hskip htake⟩

/-! ## Writing -/

/-- The columns of a select that numbers the rows of a table. A star is named through the table
there. -/
def numberedColumns (columns table : String) : String :=
  if columns = "*" then Spelling.table table ++ ".*" else columns

/-- How a query says which rows of a table are kept. Clauses stand behind the table. A condition
stands behind a query that numbers the rows of the table. -/
inductive Reads (columns table : String) : Window → String → Prop
  | clauses (offset limit : Option Int) :
      Reads columns table (.clauses offset limit)
        ("select " ++ columns ++ " from " ++ Spelling.table table ++
          (clauseText " offset " " rows" offset ++
            clauseText " fetch first " " rows only" limit))
  | between (first last : Int) :
      Reads columns table (.between first last)
        ("select * from (select " ++ numberedColumns columns table ++
          ", row_number() over () as row_num from " ++ Spelling.table table ++
          ") as temp_table where row_num between " ++ toString first ++ " and " ++ toString last)
  | above (bound : Int) :
      Reads columns table (.above bound)
        ("select * from (select " ++ numberedColumns columns table ++
          ", row_number() over () as row_num from " ++ Spelling.table table ++
          ") as temp_table where row_num > " ++ toString bound)

theorem numberedSelect_eq (columns table : String) {condition words : String}
    (hwords : ") as temp_table where " ++ condition = words) :
    "select * from (" ++ numberedSelect columns table ++ ") as temp_table where " ++ condition =
      "select * from (select " ++ numberedColumns columns table ++
        ", row_number() over () as row_num from " ++ Spelling.table table ++ words := by
  have hopen : "select * from (" ++ "select " = "select * from (select " := by simp
  have hcolumns : (if columns = "*" then tableName table ++ ".*" else columns) =
      numberedColumns columns table := by
    rw [tableName_eq, numberedColumns]
  unfold numberedSelect
  rw [hcolumns, tableName_eq, ← hwords, ← hopen]
  simp only [String.append_assoc]

/-- **Writing.** A selection is written as a query with its window, or a number in the window is
too long. -/
theorem Selection.text_cases (s : Selection) :
    (∃ t, s.text = .ok t ∧ Reads s.columns s.table s.window t) ∨
      s.text = .error .tooLongToWrite := by
  obtain ⟨columns, table, w⟩ := s
  -- The numbers are written from left to right, and the first one too long ends the query.
  cases w with
  | clauses offset limit =>
    obtain hskip | hskip := clause_cases " offset " " rows" offset
    · obtain htake | htake := clause_cases " fetch first " " rows only" limit
      · refine .inl ⟨_, ?_, .clauses offset limit⟩
        simp only [Selection.text, Window.text, hskip, htake]
        rw [← tableName_eq]
        rfl
      · right
        simp only [Selection.text, Window.text, hskip, htake]
        rfl
    · right
      simp only [Selection.text, Window.text, hskip]
      rfl
  | between first last =>
    obtain hfirst | hfirst := writeInteger_cases first
    · obtain hlast | hlast := writeInteger_cases last
      · refine .inl ⟨_, ?_, .between first last⟩
        have hwords : ") as temp_table where " ++ "row_num between " =
            ") as temp_table where row_num between " := by simp
        have hopen := numberedSelect_eq columns table hwords
        simp only [Selection.text, Window.text, hfirst, hlast]
        rw [← hopen]
        simp only [String.append_assoc]
        rfl
      · right
        simp only [Selection.text, Window.text, hfirst, hlast]
        rfl
    · right
      simp only [Selection.text, Window.text, hfirst]
      rfl
  | above bound =>
    obtain hbound | hbound := writeInteger_cases bound
    · refine .inl ⟨_, ?_, .above bound⟩
      have hwords : ") as temp_table where " ++ "row_num > " =
          ") as temp_table where row_num > " := by simp
      have hopen := numberedSelect_eq columns table hwords
      simp only [Selection.text, Window.text, hbound]
      rw [← hopen]
      simp only [String.append_assoc]
      rfl
    · right
      simp only [Selection.text, Window.text, hbound]
      rfl

theorem Request.text_cases (r : Request) {compatible : Bool} {w : Window}
    (h : window compatible r.limit r.offset = .ok w ∨
      window compatible r.limit r.offset = .error .tooLongToWrite) :
    (∃ t, r.text compatible = .ok t ∧ Reads r.columnText r.qualifiedTable w t) ∨
      r.text compatible = .error .tooLongToWrite := by
  obtain hwindow | hwindow := h
  · have htext : r.text compatible = Selection.text ⟨r.columnText, r.qualifiedTable, w⟩ := by
      simp only [Request.text, Request.plan, hwindow]
      rfl
    rw [htext]
    exact Selection.text_cases ⟨r.columnText, r.qualifiedTable, w⟩
  · right
    simp only [Request.text, Request.plan, hwindow]
    rfl

/-! ## Columns and table -/

/-- The columns of a select for a choice of columns. A choice without a name means all of them. -/
inductive Chooses : Option Columns → String → Prop
  | nothing : Chooses none "*"
  | noName : Chooses (some (.one "")) "*"
  | noNames : Chooses (some (.many [])) "*"
  | one {name : String} : name ≠ "" → Chooses (some (.one name)) (Spelling.column name)
  | many {names : List Value} : names ≠ [] →
      Chooses (some (.many names)) (Spelling.columns (names.map Value.plain))

/-- The name of a table within a schema, if one is given. -/
inductive Qualifies (table : String) : Option String → String → Prop
  | nothing : Qualifies table none table
  | empty : Qualifies table (some "") table
  | schema {name : String} : name ≠ "" → Qualifies table (some name) (name ++ "." ++ table)

theorem Request.chooses_columnText (r : Request) : Chooses r.columns r.columnText := by
  unfold Request.columnText
  rcases r.columns with _ | ⟨name⟩ | ⟨names⟩
  · exact .nothing
  · by_cases hname : name = ""
    · subst hname
      exact .noName
    · have hchosen : (Columns.one name).isChosen = true := by simp [Columns.isChosen, hname]
      dsimp only
      rw [if_pos hchosen, Columns.text, columnName_eq]
      exact .one hname
  · by_cases hnames : names = []
    · subst hnames
      exact .noNames
    · have hchosen : (Columns.many names).isChosen = true := by simp [Columns.isChosen, hnames]
      dsimp only
      rw [if_pos hchosen, Columns.text, columnList_eq]
      exact .many hnames

theorem Request.qualifies_qualifiedTable (r : Request) :
    Qualifies r.table r.schema r.qualifiedTable := by
  unfold Request.qualifiedTable
  cases r.schema with
  | none => exact .nothing
  | some name =>
    by_cases hname : name = ""
    · subst hname
      exact .empty
    · simpa using Qualifies.schema hname

/-! ## Pages -/

/-- **Both kinds of servers turn to the same page.** A request for counted rows, none of whose
numbers is too long to write, gets a query for each. Both queries read the chosen columns of the
same table and keep the same rows, and without an offset they are the same text. -/
theorem pages_agree (r : Request) (hoffset : IsCount r.offset) (hlimit : IsCount r.limit)
    (hwritten : ∀ compatible, r.text compatible ≠ .error .tooLongToWrite) :
    ∃ (columns table : String) (skipping numbering : Window)
        (skippingText numberingText : String),
      Chooses r.columns columns ∧ Qualifies r.table r.schema table ∧
      r.text false = .ok skippingText ∧ r.text true = .ok numberingText ∧
      Reads columns table skipping skippingText ∧ Reads columns table numbering numberingText ∧
      (∀ i, 1 ≤ i → (skipping.Keeps i ↔ numbering.Keeps i)) ∧
      (∀ (α : Type) (rows : List α), skipping.rowsOf rows = numbering.rowsOf rows) ∧
      (r.offset.truthy = false → skippingText = numberingText) := by
  obtain ⟨skip, take, hskip, htake, hwindow⟩ := window_cases hoffset hlimit
  obtain ⟨skippingText, hskipping, hreads⟩ | hlong := r.text_cases (hwindow false)
  · obtain ⟨numberingText, hnumbering, hreads'⟩ | hlong := r.text_cases (hwindow true)
    · have hkeeps := Window.ofCounts_keeps skip take
      have hrows : ∀ (α : Type) (rows : List α),
          (Window.ofCounts false skip take).rowsOf rows =
            (Window.ofCounts true skip take).rowsOf rows := by
        intro α rows
        exact Window.rowsOf_congr (Window.ofCounts_counts false hskip htake)
          (Window.ofCounts_counts true hskip htake) (fun i _ => hkeeps i) rows
      refine ⟨_, _, _, _, skippingText, numberingText, r.chooses_columnText,
        r.qualifies_qualifiedTable, hskipping, hnumbering, hreads, hreads', fun i _ => hkeeps i,
        hrows, fun hoffset => ?_⟩
      -- Without an offset no number of rows is skipped, so both plans are the same.
      have hsame : r.text false = r.text true := by
        simp [Request.text, Request.plan, window, hoffset]
      rw [hskipping, hnumbering] at hsame
      exact Except.ok.inj hsame
    · exact absurd hlong (hwritten true)
  · exact absurd hlong (hwritten false)

/-- The names of ten users on the third page. -/
theorem pages_agree_third :
    ∃ (r : Request) (columns table : String) (skipping numbering : Window),
      IsCount r.offset ∧ IsCount r.limit ∧
      (∀ compatible, r.text compatible ≠ .error .tooLongToWrite) ∧
      Chooses r.columns columns ∧ Qualifies r.table r.schema table ∧
      Reads columns table skipping
        "select id, name from \"app\".\"users\" offset 20 rows fetch first 10 rows only" ∧
      Reads columns table numbering
        ("select * from (select id, name, row_number() over () as row_num " ++
          "from \"app\".\"users\") as temp_table where row_num between 21 and 30") ∧
      ∀ i, 1 ≤ i → (skipping.Keeps i ↔ numbering.Keeps i) := by
  let r : Request := {
    table := "users", schema := some "app", columns := some (.many [.text "id", .text "name"])
    limit := .integer 10, offset := .integer 20 }
  have hoffset : IsCount r.offset := isCount_integer (by decide)
  have hlimit : IsCount r.limit := isCount_integer (by decide)
  have hwrite : ∀ n : Int, n.natAbs ≤ 9999 → writeInteger n = .ok (integerText n) :=
    fun n hn => writeInteger_of_isWritable (isWritable_of_natAbs_le hn)
  have h10 : writeInteger 10 = .ok "10" := hwrite 10 (by decide)
  have h20 : writeInteger 20 = .ok "20" := hwrite 20 (by decide)
  have h21 : writeInteger 21 = .ok "21" := hwrite 21 (by decide)
  have h30 : writeInteger 30 = .ok "30" := hwrite 30 (by decide)
  have hfalse : r.text false =
      .ok "select id, name from \"app\".\"users\" offset 20 rows fetch first 10 rows only" := by
    simp [r, Request.text, Request.plan, Request.columnText, Request.qualifiedTable,
      Selection.text, window, clauseWindow, counted, Value.truthy, Value.toInteger, Window.text,
      Window.clause, h10, h20, bind, Except.bind, pure, Except.pure, Except.map]
    decide +kernel
  have htrue : r.text true =
      .ok ("select * from (select id, name, row_number() over () as row_num " ++
        "from \"app\".\"users\") as temp_table where row_num between 21 and 30") := by
    simp [r, Request.text, Request.plan, Request.columnText, Request.qualifiedTable,
      Selection.text, window, numberWindow, Value.truthy, Value.toInteger, Window.text, h21, h30,
      bind, Except.bind, pure, Except.pure, Except.map]
    decide +kernel
  have hwritten : ∀ compatible, r.text compatible ≠ .error .tooLongToWrite := by
    intro compatible
    cases compatible with
    | false => simp [hfalse]
    | true => simp [htrue]
  obtain ⟨columns, table, skipping, numbering, _, _, hcolumns, htable, hskipping, hnumbering,
    hreads, hreads', hkeeps, -⟩ := pages_agree r hoffset hlimit hwritten
  rw [hfalse] at hskipping
  rw [htrue] at hnumbering
  cases hskipping
  cases hnumbering
  exact ⟨r, columns, table, skipping, numbering, hoffset, hlimit, hwritten, hcolumns, htable,
    hreads, hreads', hkeeps⟩

end Db2Client.Query
