import Db2Client.Proofs.OrderedMap
import Db2Client.Proofs.Session.Link
import Db2Client.Proofs.Sql.Spelling
import Db2Client.Session.State

/-!
# The key that an insert gives back

An insert is sent as a query of its key columns, and the key is read from the first row. A row may
be shorter or longer than the list of the reported names, and a name may be reported twice, so a
column is looked for among the positions that have both a name and a cell.

* `Row.cell?_ofCells_iff`, `Row.cell?_ofCells_eq_none_iff`: which cell a column name finds.
* `Row.values_ofCells`: the cells of a row under different names are all kept, in order.
* `Session.insertGetKey_runOn`: the one statement that is sent, and what becomes of its answer.

`insertGetKey_answers` puts them together.
-/

namespace Db2Client

open Query Sql Text

/-! ## Positions in a row -/

namespace Row

/-- There is a cell at position `j`, and the name there is `column`. -/
def HasAt (names : List String) (cells : List Value) (column : String) (j : Nat) : Prop :=
  names[j]? = some column ∧ j < cells.length

/-- Position `j` is the last one under the name. -/
def LastAt (names : List String) (cells : List Value) (column : String) (j : Nat) : Prop :=
  HasAt names cells column j ∧ ∀ i, HasAt names cells column i → i ≤ j

/-- The cell that a column name finds: the last one under the name itself or, where there is none,
the last one under the name in upper case. -/
inductive Finds (names : List String) (cells : List Value) (column : String) (v : Value) : Prop
  | named (j : Nat) : LastAt names cells column j → cells[j]? = some v → Finds names cells column v
  | upper (j : Nat) : (∀ i, ¬ HasAt names cells column i) →
      LastAt names cells (upper column) j → cells[j]? = some v → Finds names cells column v

/-- A column name finds nothing, under either spelling. -/
def Lacks (names : List String) (cells : List Value) (column : String) : Prop :=
  ∀ j, ¬ HasAt names cells column j ∧ ¬ HasAt names cells (Text.upper column) j

/-- The last element that satisfies a condition, by its position. -/
theorem getLast?_filter_eq_some_iff {α : Type} {p : α → Bool} {l : List α} {x : α} :
    (l.filter p).getLast? = some x ↔
      ∃ j : Nat, l[j]? = some x ∧ p x = true ∧
        ∀ (i : Nat) y, l[i]? = some y → p y = true → i ≤ j := by
  induction l using List.reverseRecOn with
  | nil => simp
  | append_singleton l a ih =>
    rw [List.filter_append]
    by_cases ha : p a = true
    · have hlast : (l.filter p ++ [a].filter p).getLast? = some a := by simp [ha]
      rw [hlast]
      constructor
      · rintro h
        obtain rfl : a = x := Option.some.inj h
        refine ⟨l.length, List.getElem?_concat_length, ha, fun i y hi _ => ?_⟩
        have hbound := (List.getElem?_eq_some_iff.1 hi).1
        rw [List.length_append, List.length_singleton] at hbound
        omega
      · rintro ⟨j, hj, -, hmax⟩
        have hlength : l.length ≤ j := hmax l.length a List.getElem?_concat_length ha
        have hbound := (List.getElem?_eq_some_iff.1 hj).1
        rw [List.length_append, List.length_singleton] at hbound
        obtain rfl : j = l.length := by omega
        rwa [List.getElem?_concat_length] at hj
    · have hrest : l.filter p ++ [a].filter p = l.filter p := by simp [ha]
      rw [hrest, ih]
      -- The position of `a` does not count, and below it nothing has changed.
      have hsame : ∀ (i : Nat) y, p y = true → ((l ++ [a])[i]? = some y ↔ l[i]? = some y) := by
        intro i y hy
        obtain hi | rfl | hi := Nat.lt_trichotomy i l.length
        · rw [List.getElem?_append_left hi]
        · have hne : a ≠ y := by
            rintro rfl
            exact ha hy
          simp [hne]
        · rw [List.getElem?_eq_none (by simp; omega), List.getElem?_eq_none (by omega)]
      constructor
      · rintro ⟨j, hj, hx, hmax⟩
        exact ⟨j, (hsame j x hx).2 hj, hx, fun i y hi hy => hmax i y ((hsame i y hy).1 hi) hy⟩
      · rintro ⟨j, hj, hx, hmax⟩
        exact ⟨j, (hsame j x hx).1 hj, hx, fun i y hi hy => hmax i y ((hsame i y hy).2 hi) hy⟩

theorem get?_ofCells_iff {names : List String} {cells : List Value} {column : String} {v : Value} :
    (ofCells names cells).get? column = some v ↔
      ∃ j, LastAt names cells column j ∧ cells[j]? = some v := by
  rw [ofCells, OrderedMap.get?_ofList, Option.map_eq_some_iff]
  constructor
  · rintro ⟨⟨name, w⟩, hlast, rfl⟩
    obtain ⟨j, hj, hname, hmax⟩ := getLast?_filter_eq_some_iff.1 hlast
    obtain rfl : name = column := eq_of_beq hname
    obtain ⟨hnameAt, hcell⟩ := List.getElem?_zip_eq_some.1 hj
    refine ⟨j, ⟨⟨hnameAt, (List.getElem?_eq_some_iff.1 hcell).1⟩, fun i hi => ?_⟩, hcell⟩
    exact hmax i (name, cells.get ⟨i, hi.2⟩)
      (List.getElem?_zip_eq_some.2 ⟨hi.1, List.getElem?_eq_getElem hi.2⟩) (beq_self_eq_true name)
  · rintro ⟨j, ⟨⟨hname, -⟩, hmax⟩, hcell⟩
    refine ⟨(column, v), getLast?_filter_eq_some_iff.2 ⟨j, ?_, beq_self_eq_true column, ?_⟩, rfl⟩
    · exact List.getElem?_zip_eq_some.2 ⟨hname, hcell⟩
    · rintro i ⟨name, w⟩ hi hcolumn
      obtain rfl : name = column := eq_of_beq hcolumn
      obtain ⟨hnameAt, hcellAt⟩ := List.getElem?_zip_eq_some.1 hi
      exact hmax i ⟨hnameAt, (List.getElem?_eq_some_iff.1 hcellAt).1⟩

theorem get?_ofCells_eq_none_iff {names : List String} {cells : List Value} {column : String} :
    (ofCells names cells).get? column = none ↔ ∀ j, ¬ HasAt names cells column j := by
  rw [ofCells, OrderedMap.get?_eq_none_iff, OrderedMap.keys_ofList, List.mem_eraseDups]
  constructor
  · rintro h j ⟨hname, hlength⟩
    have hpair : (names.zip cells)[j]? = some (column, cells[j]) :=
      List.getElem?_zip_eq_some.2 ⟨hname, List.getElem?_eq_getElem hlength⟩
    exact h (List.mem_map.2 ⟨_, List.mem_of_getElem? hpair, rfl⟩)
  · intro h hmem
    obtain ⟨⟨name, w⟩, hpair, rfl⟩ := List.mem_map.1 hmem
    obtain ⟨j, hj⟩ := List.mem_iff_getElem?.1 hpair
    obtain ⟨hname, hcell⟩ := List.getElem?_zip_eq_some.1 hj
    exact h j ⟨hname, (List.getElem?_eq_some_iff.1 hcell).1⟩

/-! ## Cells by column name -/

theorem cell?_ofCells_iff {names : List String} {cells : List Value} {column : String} {v : Value} :
    (ofCells names cells).cell? column = some v ↔ Finds names cells column v := by
  cases hown : (ofCells names cells).get? column with
  | some w =>
    obtain ⟨j, hlast, hcell⟩ := get?_ofCells_iff.1 hown
    simp only [cell?, hown]
    constructor
    · intro h
      obtain rfl : w = v := Option.some.inj h
      exact .named j hlast hcell
    · rintro (⟨i, hi, hv⟩ | ⟨-, hnone, -, -⟩)
      · have hsame : some w = some v := hown.symm.trans (get?_ofCells_iff.2 ⟨i, hi, hv⟩)
        exact hsame
      · exact absurd hlast.1 (hnone j)
  | none =>
    have hnone := get?_ofCells_eq_none_iff.1 hown
    simp only [cell?, hown]
    rw [get?_ofCells_iff]
    constructor
    · rintro ⟨j, hlast, hcell⟩
      exact .upper j hnone hlast hcell
    · rintro (⟨i, hi, -⟩ | ⟨j, -, hlast, hcell⟩)
      · exact absurd hi.1 (hnone i)
      · exact ⟨j, hlast, hcell⟩

theorem cell?_ofCells_eq_none_iff {names : List String} {cells : List Value} {column : String} :
    (ofCells names cells).cell? column = none ↔ Lacks names cells column := by
  rw [Lacks, forall_and, ← get?_ofCells_eq_none_iff, ← get?_ofCells_eq_none_iff, cell?]
  cases (ofCells names cells).get? column <;> simp

theorem lacks_or_finds (names : List String) (cells : List Value) (column : String) :
    Lacks names cells column ∨ ∃ v, Finds names cells column v := by
  cases hcell : (ofCells names cells).cell? column with
  | none => exact .inl (cell?_ofCells_eq_none_iff.1 hcell)
  | some v => exact .inr ⟨v, cell?_ofCells_iff.1 hcell⟩

/-! ## Names and cells as a whole -/

theorem map_fst_zip_eq_take {α β : Type} (l : List α) (r : List β) :
    (l.zip r).map Prod.fst = l.take r.length := by
  rw [List.zip_eq_zip_take_min, List.map_fst_zip (by simp), Nat.min_comm, ← List.take_take,
    List.take_length]

theorem map_snd_zip_eq_take {α β : Type} (l : List α) (r : List β) :
    (l.zip r).map Prod.snd = r.take l.length := by
  rw [List.zip_eq_zip_take_min, List.map_snd_zip (by simp), ← List.take_take, List.take_length]

theorem keys_ofCells (names : List String) (cells : List Value) :
    (ofCells names cells).keys = (names.take cells.length).eraseDups := by
  rw [ofCells, OrderedMap.keys_ofList, map_fst_zip_eq_take]

/-- Under different names all cells are kept that have a name. -/
theorem values_ofCells {names : List String} {cells : List Value}
    (h : (names.take cells.length).Nodup) :
    (ofCells names cells).values = cells.take names.length := by
  rw [← map_fst_zip_eq_take] at h
  rw [ofCells, OrderedMap.values, OrderedMap.entries_ofList h, map_snd_zip_eq_take]

end Row

/-! ## The key in the first row -/

namespace Query

/-- The name of a single key column: `id` when it is missing or empty. -/
def keyName (name : Option String) : String :=
  if name.getD "" = "" then "id" else name.getD ""

theorem ofName_eq (name : Option String) : KeyColumns.ofName name = .single (keyName name) := by
  cases name with
  | none => rfl
  | some n =>
    by_cases hn : n = ""
    · subst hn
      rfl
    · simp [KeyColumns.ofName, keyName, hn]

/-- The key columns as the select names them. -/
def KeyColumns.spelled : KeyColumns → String
  | .single name => Spelling.column name
  | .composite names => ", ".intercalate (names.map Spelling.column)

theorem columnList_names (key : KeyColumns) : columnList key.names = key.spelled := by
  rw [columnList_eq]
  cases key with
  | single name => exact String.intercalate_singleton
  | composite names => rfl

theorem keySelect_eq (source : KeySource) (insert : String) (key : KeyColumns) :
    keySelect source insert key = "select " ++ key.spelled ++ " from " ++
      (if source = .newTable then "new table" else "final table") ++ " (" ++ insert ++ ")" := by
  have hsource : source.text = if source = .newTable then "new table" else "final table" := by
    cases source <;> rfl
  rw [keySelect, columnList_names, hsource]

/-- A failure to find the key, as opposed to a failure to cast it. -/
def IsKeyFailure (r : Except Failure Value) : Prop := ∃ e, r = .error (.generatedKey e)

theorem not_isKeyFailure_castKey (v : Value) : ¬ IsKeyFailure ((castKey v).mapError .number) := by
  rintro ⟨e, he⟩
  cases hcast : castKey v <;> rw [hcast] at he <;> cases he

theorem keyOf_single {columns : List String} {cells : List Value} {name : String} {v : Value}
    (h : Row.Finds columns cells name v) (statement : String) (more : List Row) :
    keyOf statement (.single name) (Row.ofCells columns cells :: more) =
      (castKey v).mapError .number := by
  rw [keyOf, Row.cell?_ofCells_iff.2 h]

theorem keyOf_single_lacking {columns : List String} {cells : List Value} {name : String}
    (h : Row.Lacks columns cells name) (statement : String) (more : List Row) :
    keyOf statement (.single name) (Row.ofCells columns cells :: more) =
      .error (.generatedKey (.noColumn name (columns.take cells.length).eraseDups)) := by
  rw [keyOf, Row.cell?_ofCells_eq_none_iff.2 h, Row.keys_ofCells]

theorem keyOf_composite {columns : List String} {cells : List Value}
    (h : (columns.take cells.length).Nodup) (statement : String) (names : List String)
    (more : List Row) :
    keyOf statement (.composite names) (Row.ofCells columns cells :: more) =
      .ok (.list (cells.take columns.length)) := by
  rw [keyOf, Row.values_ofCells h]

theorem isKeyFailure_keyOf_iff (statement name : String) (columns : List String)
    (cells : List Value) (more : List Row) :
    IsKeyFailure (keyOf statement (.single name) (Row.ofCells columns cells :: more)) ↔
      Row.Lacks columns cells name := by
  cases hcell : (Row.ofCells columns cells).cell? name with
  | none =>
    have hlacks := Row.cell?_ofCells_eq_none_iff.1 hcell
    rw [keyOf_single_lacking hlacks]
    exact ⟨fun _ => hlacks, fun _ => ⟨_, rfl⟩⟩
  | some v =>
    have hfinds := Row.cell?_ofCells_iff.1 hcell
    rw [keyOf_single hfinds]
    refine ⟨fun h => absurd h (not_isKeyFailure_castKey v), fun hlacks => ?_⟩
    rw [Row.cell?_ofCells_eq_none_iff.2 hlacks] at hcell
    cases hcell

end Query

/-! ## The whole insert -/

namespace Session

variable {σ : Type}

/-- The insert is sent as one query, and the key is read from the rows of its answer. -/
theorem insertGetKey_runOn (db : Database σ) (s : Session σ) (insert : String)
    (bindings : List Value) (key : KeyColumns) {statement : String}
    (hstatement : keySelect s.variant.keySource insert key = statement) :
    (insertGetKey db insert bindings key).runOn s =
      (((((db.answer s.link.memory statement (Link.given bindings)).1.mapError .database).bind
          Reply.allRows).bind (keyOf statement key)),
        { s with link := s.link.afterSending db statement (Link.given bindings) }) := by
  subst hstatement
  have hselect := Link.select_runOn db (keySelect s.variant.keySource insert key) bindings s.link
  have hlink : (Query.insertGetKey db s.variant.keySource insert bindings key).runOn s.link = _ :=
    (Action.runOn_bind _ _ _).trans (by rw [hselect])
  show (fun out => (out.1, { s with link := out.2 }))
    ((Query.insertGetKey db s.variant.keySource insert bindings key).runOn s.link) = _
  rw [hlink]
  rcases db.answer s.link.memory (keySelect s.variant.keySource insert key) (Link.given bindings)
    with ⟨_ | ⟨columns, _ | rows⟩, memory⟩ <;> rfl

/-- **The key of an insert.** The one statement that is sent selects the key columns from the rows
that the insert makes, with the bindings as they are given. Without a row there is no key. A single
key is the cell that its column name finds in the first row, cast to an integer where it is numeric,
and is missing exactly when the name finds nothing. A composite key is all cells of the first row
that have a name, in order, when those names differ. -/
theorem insertGetKey_answers (db : Database σ) (s : Session σ) (insert : String)
    (bindings : List Value) (key : KeyColumns) {statement : String}
    (hstatement : statement = "select " ++ key.spelled ++ " from " ++
      (if s.variant.keySource = .newTable then "new table" else "final table") ++
      " (" ++ insert ++ ")")
    {r : Except Failure Value} {after : Session σ}
    (hrun : (insertGetKey db insert bindings key).runOn s = (r, after)) :
    after.link.sent = s.link.sent ++ [⟨statement, Link.given bindings⟩] ∧
    ∀ columns rows, (db.answer s.link.memory statement (Link.given bindings)).1 =
        .ok ⟨columns, .ok rows⟩ →
      (rows = [] → r = .error (.generatedKey (.noRow statement))) ∧
      ∀ cells more, rows = cells :: more →
        (∀ name, key = .ofName name →
          (Row.Lacks columns cells (keyName name) ∨ ∃ v, Row.Finds columns cells (keyName name) v) ∧
          (∀ v, Row.Finds columns cells (keyName name) v → r = (castKey v).mapError .number) ∧
          (Row.Lacks columns cells (keyName name) →
            r = .error (.generatedKey
              (.noColumn (keyName name) (columns.take cells.length).eraseDups))) ∧
          (IsKeyFailure r ↔ Row.Lacks columns cells (keyName name))) ∧
        (∀ names, key = .composite names → (columns.take cells.length).Nodup →
          r = .ok (.list (cells.take columns.length))) := by
  -- What is sent and what comes back are read off one equation for the run.
  have hsend : keySelect s.variant.keySource insert key = statement := by
    rw [keySelect_eq, hstatement]
  rw [insertGetKey_runOn db s insert bindings key hsend, Prod.mk.injEq] at hrun
  obtain ⟨hr, rfl⟩ := hrun
  refine ⟨rfl, fun columns rows hanswer => ?_⟩
  -- All rows could be fetched, so only the reading of the key is left.
  have hkey : r = keyOf statement key (rows.map (Row.ofCells columns)) := by
    rw [← hr, hanswer]
    rfl
  refine ⟨?_, ?_⟩
  · rintro rfl
    exact hkey
  · rintro cells more rfl
    rw [List.map_cons] at hkey
    refine ⟨?_, ?_⟩
    -- A single key goes by its name, and `id` stands in for a missing one.
    · rintro name rfl
      rw [ofName_eq] at hkey
      refine ⟨Row.lacks_or_finds columns cells (keyName name), fun v hfinds => ?_,
        fun hlacks => ?_, ?_⟩
      · rw [hkey, keyOf_single hfinds]
      · rw [hkey, keyOf_single_lacking hlacks]
      · rw [hkey, isKeyFailure_keyOf_iff]
    -- A composite key goes by the position of its columns.
    · rintro names rfl hdistinct
      rw [hkey, keyOf_composite hdistinct]

/-- A database that answers with one row. -/
def reporting (names : List String) (cells : List Value) : Database Unit where
  answer _ _ _ := (.ok ⟨names, .ok [cells]⟩, ())

/-- A session over a new link. -/
def keySession (source : KeySource) : Session Unit where
  config := { driver := "db2" }
  variant := ⟨"db2", .odbc, .db2, source, [], true⟩
  defaultSchema := ""
  currentSchema := ""
  link := Link.fresh ()

/-- A missing key name, where `ID` is reported twice and the row has a cell more than there are
names: the key is the last cell under the name in capitals, read as an integer. And a key of two
columns, where the row has a cell less than there are names: the key is both cells. -/
theorem insertGetKey_answers_repeating :
    (∃ after,
      (insertGetKey (reporting ["REV", "ID", "ID"] [.integer 3, .text "7", .text " 42 ", .null])
        "insert into t values (?)" [.null] (.ofName (some ""))).runOn (keySession .finalTable) =
        (.ok (.integer 42), after) ∧
      after.link.sent =
        [⟨"select id from final table (insert into t values (?))", some [.null]⟩]) ∧
    ∃ after,
      (insertGetKey (reporting ["a", "b\"", "c"] [.integer 3, .text "7"])
        "insert into t values (?)" [.null] (.composite ["t.a", "b\""])).runOn
          (keySession .newTable) =
        (.ok (.list [.integer 3, .text "7"]), after) ∧
      after.link.sent =
        [⟨"select t.a, b\"\" from new table (insert into t values (?))", some [.null]⟩] := by
  constructor
  · rcases hrun : (insertGetKey
      (reporting ["REV", "ID", "ID"] [.integer 3, .text "7", .text " 42 ", .null])
      "insert into t values (?)" [.null] (.ofName (some ""))).runOn (keySession .finalTable)
      with ⟨r, after⟩
    have hstatement : "select id from final table (insert into t values (?))" =
        "select " ++ (KeyColumns.ofName (some "")).spelled ++ " from " ++
          (if (keySession .finalTable).variant.keySource = .newTable then "new table"
            else "final table") ++ " (" ++ "insert into t values (?)" ++ ")" := by decide +kernel
    obtain ⟨hsent, hrows⟩ := insertGetKey_answers _ _ _ _ _ hstatement hrun
    obtain ⟨-, hkey⟩ := hrows ["REV", "ID", "ID"]
      [[.integer 3, .text "7", .text " 42 ", .null]] rfl
    obtain ⟨hsingle, -⟩ := hkey [.integer 3, .text "7", .text " 42 ", .null] [] rfl
    obtain ⟨-, hfound, -, -⟩ := hsingle (some "") rfl
    have hlast : Row.LastAt ["REV", "ID", "ID"] [.integer 3, .text "7", .text " 42 ", .null]
        (upper "id") 2 := by
      refine ⟨⟨rfl, by decide⟩, ?_⟩
      rintro i ⟨hname, -⟩
      have hlength := (List.getElem?_eq_some_iff.1 hname).1
      exact Nat.le_of_lt_succ hlength
    have hnone : ∀ i, ¬ Row.HasAt ["REV", "ID", "ID"]
        [.integer 3, .text "7", .text " 42 ", .null] "id" i := by
      rintro i ⟨hname, -⟩
      exact absurd (List.mem_of_getElem? hname) (by decide)
    have hr := hfound (.text " 42 ") (.upper 2 hnone hlast rfl)
    refine ⟨after, ?_, hsent⟩
    rw [hr]
    rfl
  · rcases hrun : (insertGetKey (reporting ["a", "b\"", "c"] [.integer 3, .text "7"])
      "insert into t values (?)" [.null] (.composite ["t.a", "b\""])).runOn (keySession .newTable)
      with ⟨r, after⟩
    have hstatement : "select t.a, b\"\" from new table (insert into t values (?))" =
        "select " ++ (KeyColumns.composite ["t.a", "b\""]).spelled ++ " from " ++
          (if (keySession .newTable).variant.keySource = .newTable then "new table"
            else "final table") ++ " (" ++ "insert into t values (?)" ++ ")" := by decide +kernel
    obtain ⟨hsent, hrows⟩ := insertGetKey_answers _ _ _ _ _ hstatement hrun
    obtain ⟨-, hkey⟩ := hrows ["a", "b\"", "c"] [[.integer 3, .text "7"]] rfl
    obtain ⟨-, hcomposite⟩ := hkey [.integer 3, .text "7"] [] rfl
    refine ⟨after, ?_, hsent⟩
    rw [hcomposite ["t.a", "b\""] rfl (by decide)]
    rfl

end Session

end Db2Client
