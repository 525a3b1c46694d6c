import Db2Client.Proofs.Schema.ConventionalName
import Db2Client.Proofs.Schema.NumberInUse

/-!
# The names of indexes in statements

An index on columns is added under its conventional name and dropped by its columns. The schema of
the table is taken out of the names of constraints, and out of every name that is dropped, but not
out of the name of a plain index that is added.

* `adding_emits_iff`, `dropping_emits_iff`: the name in the statement of an edit.
* `dropped_as_added_iff`: when an index is dropped under the name that it was added under.
* `constraint_unqualified_iff`: when the name of a constraint does not show the schema.
-/

namespace Db2Client.Schema

open Number Sql Text

/-! ## The statement of an edit -/

/-- The edit records a command, and the command is compiled to the one statement: whatever else the
blueprint of the table goes on to record, whatever the server and the number in use. -/
def Blueprint.Emits (bp : Blueprint) (e : Edit) (statement : String) : Prop :=
  ∃ c, bp.apply e = .ok (bp.record c) ∧
    ∀ later : Blueprint, later.table = bp.table → later.tablePrefix = bp.tablePrefix →
      ∀ (σ : Type) (db : Database σ) (s : Compilation σ),
        (compile db later c).runOn s = (.ok [statement], s)

theorem record_injective {bp : Blueprint} {c d : Command} (h : bp.record c = bp.record d) :
    c = d := by
  have hcommands := congrArg Blueprint.commands h
  simpa [Blueprint.record] using hcommands

theorem emits_iff {bp : Blueprint} {e : Edit} {c : Command}
    (happly : bp.apply e = .ok (bp.record c)) (hc : c.kind ≠ .addReplyListEntry) {s : String}
    (hs : ∀ later : Blueprint, later.table = bp.table → later.tablePrefix = bp.tablePrefix →
      ∀ number, c.statements later number = .ok [s])
    (statement : String) : bp.Emits e statement ↔ statement = s := by
  constructor
  · rintro ⟨d, hd, hrun⟩
    rw [happly, Except.ok.injEq] at hd
    obtain rfl := record_injective hd
    have hunit := hrun bp rfl rfl Unit (answering .null) { link := none }
    rw [compile_of_ne _ _ hc, hs bp rfl rfl, Prod.mk.injEq, Except.ok.injEq] at hunit
    exact (List.singleton_inj.1 hunit.1).symm
  · rintro rfl
    refine ⟨c, happly, fun later htable hpre σ db state => ?_⟩
    rw [compile_of_ne db later hc, hs later htable hpre]

/-! ## Kinds of indexes -/

/-- What an index is for. All but the plain one are constraints. -/
inductive IndexKind where
  | primary
  | unique
  | foreign (references : List Value) (table onDelete onUpdate : Value)
  | plain (systemName : Value)

namespace IndexKind

def word : IndexKind → String
  | .primary => "primary"
  | .unique => "unique"
  | .foreign .. => "foreign"
  | .plain _ => "index"

def IsConstraint : IndexKind → Prop
  | .plain _ => False
  | _ => True

/-- Adds an index on columns under its conventional name. -/
def adding (k : IndexKind) (columns : List String) : Edit :=
  match k with
  | .primary => .primary (columns.map .text) .null
  | .unique => .unique (columns.map .text) .null
  | .foreign references table onDelete onUpdate =>
    .foreign (columns.map .text) references table .null onDelete onUpdate
  | .plain systemName => .index (columns.map .text) .null systemName

/-- Drops the index on columns. -/
def dropping (k : IndexKind) (columns : List String) : Edit :=
  match k with
  | .primary => .dropPrimary (.list (columns.map .text))
  | .unique => .dropUnique (.list (columns.map .text))
  | .foreign .. => .dropForeign (.list (columns.map .text))
  | .plain _ => .dropIndex (.list (columns.map .text))

/-- The statement that adds an index under a name. -/
def addition (k : IndexKind) (bp : Blueprint) (columns : List String) (name : String) : String :=
  match k with
  | .primary =>
    alterTable bp ("add constraint " ++ name ++ " " ++ "primary key (" ++ columnList columns ++ ")")
  | .unique =>
    alterTable bp ("add constraint " ++ name ++ " " ++ "unique(" ++ columnList columns ++ ")")
  | .foreign references table onDelete onUpdate =>
    alterTable bp ("add constraint " ++ name ++ " foreign key (" ++ columnList columns ++
      ") references " ++ tableName table.plain ++ " (" ++
      columnList (references.map Value.plain) ++ ")" ++ actionClause "delete" onDelete ++
      actionClause "update" onUpdate)
  | .plain systemName =>
    "create index " ++ name ++ systemNameClause systemName ++ " on " ++ tableName bp.table ++
      "(" ++ columnList columns ++ ")"

/-- The statement that drops the index of a name. A primary key is dropped without its name. -/
def removal (k : IndexKind) (bp : Blueprint) (name : String) : String :=
  match k with
  | .primary => alterTable bp "drop primary key"
  | .unique | .plain _ => alterTable bp ("drop index " ++ name)
  | .foreign .. => alterTable bp ("drop foreign key " ++ name)

/-- The conventional name without the schema. -/
def strippedName (k : IndexKind) (bp : Blueprint) (columns : List String) : String :=
  constraintName bp.tablePrefix bp.table (bp.conventionalName k.word columns)

/-- The name that an index is added under. -/
def addedName (k : IndexKind) (bp : Blueprint) (columns : List String) : String :=
  match k with
  | .plain _ => bp.conventionalName k.word columns
  | _ => k.strippedName bp columns

theorem addition_injective (k : IndexKind) (bp : Blueprint) (columns : List String)
    {n m : String} (h : k.addition bp columns n = k.addition bp columns m) : n = m := by
  cases k with
  | primary | unique | foreign _ _ _ _ | plain _ =>
    unfold addition at h
    rw [← String.toList_inj] at h
    simp only [alterTable, String.toList_append, List.append_assoc,
      List.append_right_inj] at h
    exact String.toList_injective (List.append_cancel_right h)

theorem removal_injective {k : IndexKind} (hk : k ≠ .primary) (bp : Blueprint) {n m : String}
    (h : k.removal bp n = k.removal bp m) : n = m := by
  cases k with
  | primary => exact absurd rfl hk
  | unique | foreign _ _ _ _ | plain _ =>
    unfold removal at h
    rw [← String.toList_inj] at h
    simp only [alterTable, String.toList_append, List.append_right_inj] at h
    exact String.toList_injective h

end IndexKind

/-! ## Recorded commands -/

theorem conventionalNameOn_text (bp : Blueprint) (word : String) (columns : List String) :
    bp.conventionalNameOn word (columns.map .text) = .ok (bp.conventionalName word columns) := by
  have hnames : (columns.map Value.text).mapM Value.text? = some columns := by
    induction columns with
    | nil => rfl
    | cons c columns ih => simp [Value.text?, ih]
  rw [Blueprint.conventionalNameOn, hnames]

theorem columnReferences_list (columns : List Value) :
    columnReferences (.list columns) = .ok (columnList (columns.map Value.plain)) := by
  simp [columnReferences, Columns.ofValue?, Value.items?, Columns.text]

theorem columnReferences_text (columns : List String) :
    columnReferences (.list (columns.map .text)) = .ok (columnList columns) := by
  simp [columnReferences_list, Value.plain, Function.comp_def]

theorem removeIndex_list (bp : Blueprint) (kind : CommandKind) (word : String)
    (columns : List String) :
    bp.removeIndex kind word (.list (columns.map .text)) =
      .ok { kind, columns := .list (columns.map .text),
            index := .text (bp.conventionalName word columns) } := by
  have hconventional : bp.removeConventionalIndex kind word (columns.map .text) =
      .ok { kind, columns := .list (columns.map .text),
            index := .text (bp.conventionalName word columns) } := by
    rw [Blueprint.removeConventionalIndex, conventionalNameOn_text, Except.map]
  cases columns with
  | nil => exact hconventional
  | cons c columns => exact hconventional

namespace IndexKind

/-- The command of `adding`. -/
def added (k : IndexKind) (bp : Blueprint) (columns : List String) : Command :=
  let columnValues := Value.list (columns.map .text)
  let index := Value.text (bp.conventionalName k.word columns)
  match k with
  | .primary => { kind := .addPrimary, columns := columnValues, index }
  | .unique => { kind := .addUnique, columns := columnValues, index }
  | .foreign references table onDelete onUpdate =>
    { kind := .addForeign, columns := columnValues, index, references := .list references,
      foreignTable := table, onDelete, onUpdate }
  | .plain systemName =>
    { kind := .addIndex, columns := columnValues, index, systemIndex := systemName }

/-- The command of `dropping`. -/
def dropped (k : IndexKind) (bp : Blueprint) (columns : List String) : Command :=
  let kind :=
    match k with
    | .primary => .dropPrimary
    | .unique => .dropUnique
    | .foreign .. => .dropForeign
    | .plain _ => .dropIndex
  { kind, columns := .list (columns.map .text),
    index := .text (bp.conventionalName k.word columns) }

theorem apply_adding (k : IndexKind) (bp : Blueprint) (columns : List String) :
    bp.apply (k.adding columns) = .ok (bp.record (k.added bp columns)) := by
  cases k with
  | primary | unique | foreign _ _ _ _ | plain _ =>
    simp only [adding, Blueprint.apply, Blueprint.commandOf?, Blueprint.addIndex, Value.isNull,
      if_true, conventionalNameOn_text, Except.map, added, word]

theorem apply_dropping (k : IndexKind) (bp : Blueprint) (columns : List String) :
    bp.apply (k.dropping columns) = .ok (bp.record (k.dropped bp columns)) := by
  cases k with
  | primary | unique | foreign _ _ _ _ | plain _ =>
    simp only [dropping, Blueprint.apply, Blueprint.commandOf?, removeIndex_list, Except.map,
      dropped, word]

variable {bp later : Blueprint}

theorem alterTable_congr (htable : later.table = bp.table) (change : String) :
    alterTable later change = alterTable bp change := by
  rw [alterTable, alterTable, htable]

theorem constraint_conventional (htable : later.table = bp.table)
    (hpre : later.tablePrefix = bp.tablePrefix) (k : IndexKind) (columns : List String) :
    later.constraint (.text (bp.conventionalName k.word columns)) =
      .ok (.text (k.strippedName bp columns)) := by
  rw [Blueprint.constraint, htable, hpre, strippedName]

theorem statements_added (k : IndexKind) (columns : List String) (htable : later.table = bp.table)
    (hpre : later.tablePrefix = bp.tablePrefix) (number : Option Int) :
    (k.added bp columns).statements later number =
      .ok [k.addition bp columns (k.addedName bp columns)] := by
  unfold addition added
  cases k with
  | primary | unique =>
    simp only [Command.statements, addConstraint, columnReferences_text,
      constraint_conventional htable hpre, alterTable_congr htable]
    rfl
  | foreign references table onDelete onUpdate =>
    simp only [Command.statements, addForeignStatement, columnReferences_text,
      columnReferences_list references, constraint_conventional htable hpre,
      alterTable_congr htable]
    rfl
  | plain systemName =>
    simp only [Command.statements, addIndexStatement, columnReferences_text, htable, Except.map]
    rfl

theorem statements_dropped (k : IndexKind) (columns : List String)
    (htable : later.table = bp.table) (hpre : later.tablePrefix = bp.tablePrefix)
    (number : Option Int) :
    (k.dropped bp columns).statements later number =
      .ok [k.removal bp (k.strippedName bp columns)] := by
  unfold removal dropped
  cases k with
  | primary => simp only [Command.statements, alterTable_congr htable]
  | unique | foreign _ _ _ _ | plain _ =>
    simp only [Command.statements, dropNamed, constraint_conventional htable hpre,
      alterTable_congr htable, Except.map]
    rfl

end IndexKind

/-- **The name in the statement that adds an index.** -/
theorem adding_emits_iff (k : IndexKind) (bp : Blueprint) (columns : List String) (n : String) :
    bp.Emits (k.adding columns) (k.addition bp columns n) ↔ n = k.addedName bp columns := by
  have hc : (k.added bp columns).kind ≠ .addReplyListEntry := by
    cases k with
    | primary | unique | foreign _ _ _ _ | plain _ => simp [IndexKind.added]
  rw [emits_iff (k.apply_adding bp columns) hc fun _ => k.statements_added columns]
  constructor
  · exact k.addition_injective bp columns
  · intro h
    rw [h]

/-- **The name in the statement that drops an index.** -/
theorem dropping_emits_iff {k : IndexKind} (hk : k ≠ .primary) (bp : Blueprint)
    (columns : List String) (n : String) :
    bp.Emits (k.dropping columns) (k.removal bp n) ↔ n = k.strippedName bp columns := by
  have hc : (k.dropped bp columns).kind ≠ .addReplyListEntry := by
    cases k with
    | primary | unique | foreign _ _ _ _ | plain _ => simp [IndexKind.dropped]
  rw [emits_iff (k.apply_dropping bp columns) hc fun _ => k.statements_dropped columns]
  constructor
  · exact IndexKind.removal_injective hk bp
  · intro h
    rw [h]

/-! ## Adding and dropping -/

/-- The two names differ for a plain index on a table whose schema is found in the conventional
name, and only there. -/
theorem strippedName_eq_addedName_iff (k : IndexKind) (bp : Blueprint) (columns : List String) :
    k.strippedName bp columns = k.addedName bp columns ↔
      k.IsConstraint ∨ ¬ FindsSchema bp.tablePrefix.toList (schemaOf bp.table).toList
        (k.addedName bp columns).toList := by
  cases k with
  | primary | unique | foreign _ _ _ _ => simp [IndexKind.IsConstraint, IndexKind.addedName]
  | plain systemName =>
    have hlength := length_tablePrefix_lt bp.tablePrefix bp.table columns "index"
    rw [← String.toList_inj, IndexKind.strippedName, constraintName, String.toList_ofList,
      IndexKind.IsConstraint, false_or]
    exact withoutSchema_eq_self_iff hlength

/-- **An index is dropped by its columns under the name that it was added under**, except for a
plain index: that keeps the schema where it is added, and loses it where it is dropped. -/
theorem dropped_as_added_iff {k : IndexKind} (hk : k ≠ .primary) {bp other : Blueprint}
    (htable : other.table = bp.table) (hpre : other.tablePrefix = bp.tablePrefix)
    (columns : List String) :
    ∃ added dropped : String,
      (∀ n, bp.Emits (k.adding columns) (k.addition bp columns n) ↔ n = added) ∧
      (∀ n, other.Emits (k.dropping columns) (k.removal other n) ↔ n = dropped) ∧
      (dropped = added ↔ k.IsConstraint ∨
        ¬ FindsSchema bp.tablePrefix.toList (schemaOf bp.table).toList added.toList) := by
  have hsame : k.strippedName other columns = k.strippedName bp columns := by
    rw [IndexKind.strippedName, IndexKind.strippedName, Blueprint.conventionalName,
      Blueprint.conventionalName, htable, hpre]
  refine ⟨k.addedName bp columns, k.strippedName bp columns, adding_emits_iff k bp columns,
    fun n => ?_, strippedName_eq_addedName_iff k bp columns⟩
  rw [dropping_emits_iff hk other columns n, hsame]

/-- A unique constraint is dropped on a blueprint that has recorded something else before. -/
theorem dropped_as_added_unique :
    ∃ name : String,
      (∀ n, Blueprint.Emits { table := "app.users" } (.unique [.text "email"] .null)
        (IndexKind.addition .unique { table := "app.users" } ["email"] n) ↔ n = name) ∧
      (∀ n, Blueprint.Emits { table := "app.users", commands := [{ kind := .createTable }] }
        (.dropUnique (.list [.text "email"]))
        (IndexKind.removal .unique
          { table := "app.users", commands := [{ kind := .createTable }] } n) ↔ n = name) := by
  obtain ⟨added, dropped, hadding, hdropping, hsame⟩ :=
    @dropped_as_added_iff .unique (by simp) { table := "app.users" }
      { table := "app.users", commands := [{ kind := .createTable }] } rfl rfl ["email"]
  have heq : dropped = added := hsame.2 (.inl trivial)
  rw [heq] at hdropping
  exact ⟨added, hadding, hdropping⟩

/-- A plain index on a qualified table is not dropped under the name that it was added under. -/
theorem plain_index_dropped_as_another :
    Blueprint.Emits { table := "app.users" } (.index [.text "email"] .null .null)
        "create index app_users_email_index on \"app\".\"users\"(email)" ∧
      Blueprint.Emits { table := "app.users" } (.dropIndex (.list [.text "email"]))
        "alter table \"app\".\"users\" drop index users_email_index" ∧
      ¬ ∃ n,
        Blueprint.Emits { table := "app.users" } (.index [.text "email"] .null .null)
          (IndexKind.addition (.plain .null) { table := "app.users" } ["email"] n) ∧
        Blueprint.Emits { table := "app.users" } (.dropIndex (.list [.text "email"]))
          (IndexKind.removal (.plain .null) { table := "app.users" } n) := by
  have hadding := adding_emits_iff (.plain .null) { table := "app.users" } ["email"]
  have hdropping :=
    dropping_emits_iff (k := .plain .null) (by simp) { table := "app.users" } ["email"]
  have hadded : IndexKind.addedName (.plain .null) { table := "app.users" } ["email"] =
      "app_users_email_index" := by
    decide +kernel
  have hstripped : IndexKind.strippedName (.plain .null) { table := "app.users" } ["email"] =
      "users_email_index" := by
    decide +kernel
  have haddition : IndexKind.addition (.plain .null) { table := "app.users" } ["email"]
      "app_users_email_index" =
        "create index app_users_email_index on \"app\".\"users\"(email)" := by
    decide +kernel
  have hremoval : IndexKind.removal (.plain .null) { table := "app.users" } "users_email_index" =
      "alter table \"app\".\"users\" drop index users_email_index" := by
    decide +kernel
  refine ⟨?_, ?_, ?_⟩
  · rw [← haddition]
    exact (hadding _).2 hadded.symm
  · rw [← hremoval]
    exact (hdropping _).2 hstripped.symm
  · rintro ⟨n, hadd, hdrop⟩
    have hn := ((hadding n).1 hadd).symm.trans ((hdropping n).1 hdrop)
    rw [hadded, hstripped] at hn
    exact absurd hn (by decide)

/-! ## Constraints without a schema -/

theorem strippedName_table (k : IndexKind) (bp : Blueprint) (tablePrefix table : String)
    (columns : List String) :
    k.strippedName { bp with table, tablePrefix } columns =
      constraintName tablePrefix table (indexName tablePrefix table columns k.word) := rfl

theorem IndexKind.IsConstraint.addedName_eq {k : IndexKind} (hk : k.IsConstraint)
    (bp : Blueprint) (columns : List String) :
    k.addedName bp columns = k.strippedName bp columns := by
  cases k with
  | plain systemName => exact absurd hk id
  | primary | unique | foreign _ _ _ _ => rfl

/-- **A constraint goes by the name that it would have on the table without its schema** exactly
when neither the table prefix nor the schema has a dash. -/
theorem constraint_unqualified_iff {tablePrefix schema base : String}
    (hpre : IsPlainName tablePrefix) (hschema : IsPlainName schema) (hne : schema ≠ "")
    (hbase : IsPlainName base) {k : IndexKind} (hk : k.IsConstraint) (bp : Blueprint)
    (columns : List String) :
    ∃ qualified unqualified : String,
      (∀ n, Blueprint.Emits { bp with table := schema ++ "." ++ base, tablePrefix }
        (k.adding columns)
        (k.addition { bp with table := schema ++ "." ++ base, tablePrefix } columns n) ↔
          n = qualified) ∧
      (∀ n, Blueprint.Emits { bp with table := base, tablePrefix } (k.adding columns)
        (k.addition { bp with table := base, tablePrefix } columns n) ↔ n = unqualified) ∧
      (qualified = unqualified ↔ '-' ∉ tablePrefix.toList ∧ '-' ∉ schema.toList) := by
  refine ⟨_, _, adding_emits_iff k _ columns, adding_emits_iff k _ columns, ?_⟩
  rw [hk.addedName_eq, hk.addedName_eq, strippedName_table, strippedName_table]
  exact constraintName_qualified_iff hpre hschema hne hbase columns k.word

/-- A schema in upper case behind a table prefix. -/
theorem constraint_unqualified_upperCase :
    ∃ name : String,
      (∀ n, Blueprint.Emits { table := "APP" ++ "." ++ "USERS", tablePrefix := "tmp_" }
        (.unique [.text "id"] .null)
        (IndexKind.addition .unique { table := "APP" ++ "." ++ "USERS", tablePrefix := "tmp_" }
          ["id"] n) ↔ n = name) ∧
      (∀ n, Blueprint.Emits { table := "USERS", tablePrefix := "tmp_" }
        (.unique [.text "id"] .null)
        (IndexKind.addition .unique { table := "USERS", tablePrefix := "tmp_" } ["id"] n) ↔
          n = name) := by
  obtain ⟨qualified, unqualified, hqualified, hunqualified, hsame⟩ :=
    @constraint_unqualified_iff "tmp_" "APP" "USERS" (by decide +kernel) (by decide +kernel)
      (by decide) (by decide +kernel) .unique trivial { table := "" } ["id"]
  have heq : qualified = unqualified := hsame.2 (by decide)
  rw [← heq] at hunqualified
  exact ⟨qualified, hqualified, hunqualified⟩

/-- A schema with a dash stays in the name of a constraint. -/
theorem dashed_schema_in_constraint :
    Blueprint.Emits { table := "my-app.users" } (.unique [.text "id"] .null)
        "alter table \"my-app\".\"users\" add constraint my_app_users_id_unique unique(id)" ∧
      Blueprint.Emits { table := "users" } (.unique [.text "id"] .null)
        "alter table \"users\" add constraint users_id_unique unique(id)" ∧
      ¬ ∃ n,
        Blueprint.Emits { table := "my-app.users" } (.unique [.text "id"] .null)
          (IndexKind.addition .unique { table := "my-app.users" } ["id"] n) ∧
        Blueprint.Emits { table := "users" } (.unique [.text "id"] .null)
          (IndexKind.addition .unique { table := "users" } ["id"] n) := by
  have hqualified := adding_emits_iff .unique { table := "my-app.users" } ["id"]
  have hunqualified := adding_emits_iff .unique { table := "users" } ["id"]
  have hdashed : IndexKind.addedName .unique { table := "my-app.users" } ["id"] =
      "my_app_users_id_unique" := by
    decide +kernel
  have hplain : IndexKind.addedName .unique { table := "users" } ["id"] =
      "users_id_unique" := by
    decide +kernel
  have hdashedText : IndexKind.addition .unique { table := "my-app.users" } ["id"]
      "my_app_users_id_unique" =
        "alter table \"my-app\".\"users\" add constraint my_app_users_id_unique unique(id)" := by
    decide +kernel
  have hplainText : IndexKind.addition .unique { table := "users" } ["id"]
      "users_id_unique" =
        "alter table \"users\" add constraint users_id_unique unique(id)" := by
    decide +kernel
  refine ⟨?_, ?_, ?_⟩
  · rw [← hdashedText]
    exact (hqualified _).2 hdashed.symm
  · rw [← hplainText]
    exact (hunqualified _).2 hplain.symm
  · rintro ⟨n, hq, hu⟩
    have hn := ((hqualified n).1 hq).symm.trans ((hunqualified n).1 hu)
    rw [hdashed, hplain] at hn
    exact absurd hn (by decide)

end Db2Client.Schema
