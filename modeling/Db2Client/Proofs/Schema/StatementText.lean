import Mathlib.Data.List.Forall2
import Db2Client.Proofs.Schema.DefinitionText
import Db2Client.Proofs.Schema.Recording
import Db2Client.Schema.Statement

/-!
# What the statements of commands say

`Spells` has one clause for each kind of command that edits record, and gives its statement word by
word, with names and texts spelled out. The statement that a command is compiled to is the one that
it says (`spells_of_statements`). The calls on the reply list name their number in decimal.
-/

namespace Db2Client.Schema

open Number Sql Text

/-! ## Calls -/

theorem systemCall_eq (command : String) :
    systemCall command = "CALL QSYS2.QCMDEXC(" ++ Spelling.text command ++ ")" := by
  unfold systemCall
  rw [literal_eq]

theorem changeJobCall_eq :
    changeJobCall = "CALL QSYS2.QCMDEXC('CHGJOB INQMSGRPY(*SYSRPYL)')" := by
  have hquote : '\'' ∉ "CHGJOB INQMSGRPY(*SYSRPYL)".toList := by simp
  have hcall := systemCall_eq "CHGJOB INQMSGRPY(*SYSRPYL)"
  rw [Spelling.text_eq_of_twice (Spelling.twice_of_notMem hquote)] at hcall
  simpa [changeJobCall] using hcall

theorem twice_toString (n : Int) :
    Spelling.twice '\'' (toString n).toList = (toString n).toList :=
  Spelling.twice_of_notMem (notMem_toString (by decide) (by decide) n)

theorem addReplyCall_eq (n : Int) :
    addReplyCall (integerText n) =
      "CALL QSYS2.QCMDEXC('ADDRPYLE SEQNBR(" ++ toString n ++
        ") MSGID(CPA32B2) RPY(''I'')')" := by
  -- The quotes around the reply are the only ones in the command.
  have htwice : Spelling.twice '\''
      ("ADDRPYLE SEQNBR(" ++ toString n ++ ") MSGID(CPA32B2) RPY('I')").toList =
      ("ADDRPYLE SEQNBR(" ++ toString n ++ ") MSGID(CPA32B2) RPY(''I'')").toList := by
    rw [String.toList_append, String.toList_append, Spelling.twice_append, Spelling.twice_append,
      twice_toString, String.toList_append, String.toList_append]
    rfl
  rw [addReplyCall, integerText_eq_toString, systemCall_eq, Spelling.text_eq_of_twice htwice]
  simp [← String.toList_inj]

theorem removeReplyCall_eq (n : Int) :
    removeReplyCall (integerText n) =
      "CALL QSYS2.QCMDEXC('RMVRPYLE SEQNBR(" ++ toString n ++ ")')" := by
  have htwice : Spelling.twice '\'' ("RMVRPYLE SEQNBR(" ++ toString n ++ ")").toList =
      ("RMVRPYLE SEQNBR(" ++ toString n ++ ")").toList := by
    rw [String.toList_append, String.toList_append, Spelling.twice_append, Spelling.twice_append,
      twice_toString]
    rfl
  rw [removeReplyCall, integerText_eq_toString, systemCall_eq, Spelling.text_eq_of_twice htwice]
  simp [← String.toList_inj]

namespace Blueprint

/-! ## Statements -/

/-- The definitions of the columns, each once and in order. -/
def Defines (bp : Blueprint) (ds : List String) : Prop :=
  List.Forall₂ (Column.Spells bp.table) bp.columns ds

theorem forall₂_of_definitions {table : String} {columns : List Column} {ds : List String}
    (h : definitions table columns = .ok ds) : List.Forall₂ (Column.Spells table) columns ds := by
  induction columns generalizing ds with
  | nil =>
    cases h
    exact .nil
  | cons c rest ih =>
    rw [definitions] at h
    cases hd : c.definition table with
    | error e =>
      rw [hd] at h
      cases h
    | ok d =>
      rw [hd] at h
      obtain ⟨more, hmore, rfl⟩ := map_eq_ok h
      exact .cons (Column.spells_of_definition hd) (ih hmore)

/-- The columns that a value names. Text is one name, and anything else gives them item by item. -/
inductive Names : Value → String → Prop
  | one (name : String) : Names (.text name) (Spelling.column name)
  | items {v : Value} {names : List Value} : v.text? = none → v.items? = some names →
      Names v (Spelling.columns (names.map Value.plain))

/-- The change to the table that a command asks for. -/
inductive Changes (bp : Blueprint) (c : Command) : String → Prop
  | dropColumn {names : List Value} : c.kind = .dropColumn → c.columns.items? = some names →
      Changes bp c
        (", ".intercalate (names.map fun n => "drop " ++ Spelling.column n.plain))
  | renameColumn : c.kind = .renameColumn →
      Changes bp c ("rename column " ++ Spelling.column c.renameFrom.plain ++ " to " ++
        Spelling.column c.renameTo.plain)
  | addPrimary {name : Value} {columns : String} : c.kind = .addPrimary →
      bp.constraint c.index = .ok name → Names c.columns columns →
      Changes bp c ("add constraint " ++ name.plain ++ " primary key (" ++ columns ++ ")")
  | addUnique {name : Value} {columns : String} : c.kind = .addUnique →
      bp.constraint c.index = .ok name → Names c.columns columns →
      Changes bp c ("add constraint " ++ name.plain ++ " unique(" ++ columns ++ ")")
  | addForeign {name : Value} {columns references : String} : c.kind = .addForeign →
      bp.constraint c.index = .ok name → Names c.columns columns →
      Names c.references references →
      Changes bp c ("add constraint " ++ name.plain ++ " foreign key (" ++ columns ++
        ") references " ++ Spelling.table c.foreignTable.plain ++ " (" ++ references ++ ")" ++
        (if c.onDelete.isNull then "" else " on delete " ++ c.onDelete.plain) ++
        (if c.onUpdate.isNull then "" else " on update " ++ c.onUpdate.plain))
  | dropPrimary : c.kind = .dropPrimary → Changes bp c "drop primary key"
  | dropIndex {name : Value} : c.kind = .dropUnique ∨ c.kind = .dropIndex →
      bp.constraint c.index = .ok name → Changes bp c ("drop index " ++ name.plain)
  | dropForeign {name : Value} : c.kind = .dropForeign →
      bp.constraint c.index = .ok name → Changes bp c ("drop foreign key " ++ name.plain)

/-- The statement of a command that edits record. -/
inductive Spells (bp : Blueprint) (c : Command) : String → Prop
  | createTable {ds : List String} : c.kind = .createTable → bp.Defines ds →
      Spells bp c ("create table " ++ Spelling.table bp.table ++
        (if bp.systemName.truthy then " for system name " ++ bp.systemName.plain else "") ++
        " (" ++ ", ".intercalate ds ++ ")")
  | dropTable : c.kind = .dropTable → Spells bp c ("drop table " ++ Spelling.table bp.table)
  | dropTableIfExists : c.kind = .dropTableIfExists →
      Spells bp c ("drop table if exists " ++ Spelling.table bp.table)
  | renameTable : c.kind = .renameTable →
      Spells bp c ("rename table " ++ Spelling.table bp.table ++ " to " ++
        Spelling.table c.renameTo.plain)
  | label : c.kind = .label →
      Spells bp c ("label on table " ++ Spelling.table bp.table ++ " is " ++
        Spelling.text c.label.plain)
  | change {change : String} : bp.Changes c change →
      Spells bp c ("alter table " ++ Spelling.table bp.table ++ " " ++ change)
  | addIndex {columns : String} : c.kind = .addIndex → Names c.columns columns →
      Spells bp c ("create index " ++ c.index.plain ++
        (if c.systemIndex.truthy then " for system name " ++ c.systemIndex.plain else "") ++
        " on " ++ Spelling.table bp.table ++ "(" ++ columns ++ ")")
  | systemCommand : c.kind = .rawSystemCommand →
      Spells bp c ("CALL QSYS2.QCMDEXC(" ++ Spelling.text c.systemCommand.plain ++ ")")

end Blueprint

theorem names_of_columnReferences {v : Value} {columns : String}
    (h : columnReferences v = .ok columns) : Blueprint.Names v columns := by
  unfold columnReferences Columns.ofValue? at h
  cases v with
  | text name =>
    cases h
    rw [Columns.text, columnName_eq]
    exact .one name
  | list names =>
    cases h
    rw [Columns.text, columnList_eq]
    exact .items rfl rfl
  | mapping entries =>
    cases h
    rw [Columns.text, columnList_eq]
    exact .items rfl rfl
  | _ => cases h

theorem alterTable_eq (bp : Blueprint) (change : String) :
    alterTable bp change = "alter table " ++ Spelling.table bp.table ++ " " ++ change := by
  unfold alterTable
  rw [tableName_eq]

theorem alterTable_add (bp : Blueprint) (d : String) :
    alterTable bp ("add " ++ d) = "alter table " ++ Spelling.table bp.table ++ " add " ++ d := by
  have hwords : " " ++ "add " = " add " := by simp
  rw [alterTable_eq, ← hwords]
  simp only [String.append_assoc]

/-! ## What commands are compiled to -/

variable {bp : Blueprint} {c : Command} {s : String}

theorem changes_of_dropColumns (hc : c.kind = .dropColumn)
    (h : dropColumnsStatement bp c = .ok s) : ∃ change, bp.Changes c change ∧
      s = alterTable bp change := by
  unfold dropColumnsStatement at h
  cases hnames : c.columns.items? with
  | none =>
    rw [hnames] at h
    cases h
  | some names =>
    rw [hnames] at h
    have hdrop : (names.map fun n => "drop " ++ columnName n.plain) =
        names.map fun n => "drop " ++ Spelling.column n.plain :=
      List.map_congr_left fun n _ => by rw [columnName_eq]
    dsimp only at h
    rw [join_eq_intercalate, hdrop] at h
    exact ⟨_, .dropColumn hc hnames, (Except.ok.inj h).symm⟩

theorem addConstraint_ok {before after words : String} (hwords : " " ++ before = words)
    (h : addConstraint bp c before after = .ok s) :
    ∃ name columns, bp.constraint c.index = .ok name ∧ Blueprint.Names c.columns columns ∧
      s = alterTable bp ("add constraint " ++ name.plain ++ words ++ columns ++ after) := by
  obtain ⟨name, hname, h⟩ := bind_eq_ok h
  obtain ⟨columns, hcolumns, h⟩ := bind_eq_ok h
  refine ⟨name, columns, hname, names_of_columnReferences hcolumns, ?_⟩
  rw [← hwords, ← String.append_assoc]
  exact (Except.ok.inj h).symm

theorem changes_of_addForeign (hc : c.kind = .addForeign) (h : addForeignStatement bp c = .ok s) :
    ∃ change, bp.Changes c change ∧ s = alterTable bp change := by
  obtain ⟨name, hname, h⟩ := bind_eq_ok h
  obtain ⟨columns, hcolumns, h⟩ := bind_eq_ok h
  obtain ⟨references, hreferences, h⟩ := bind_eq_ok h
  refine ⟨_, .addForeign hc hname (names_of_columnReferences hcolumns)
    (names_of_columnReferences hreferences), ?_⟩
  rw [← tableName_eq]
  exact (Except.ok.inj h).symm

theorem dropNamed_ok {what : String} {name : Value} (h : dropNamed bp what name = .ok s) :
    ∃ n, bp.constraint name = .ok n ∧ s = alterTable bp ("drop " ++ what ++ " " ++ n.plain) := by
  obtain ⟨n, hn, rfl⟩ := map_eq_ok h
  exact ⟨n, hn, rfl⟩

/-- A kind of command whose statement alters the table. -/
def CommandKind.altersTable : CommandKind → Bool
  | .dropColumn | .renameColumn | .addPrimary | .addUnique | .addForeign | .dropPrimary
  | .dropUnique | .dropIndex | .dropForeign => true
  | _ => false

theorem changes_of_statements (halters : c.kind.altersTable = true) {number : Option Int}
    {statements : List String} (h : c.statements bp number = .ok statements) :
    ∃ change, bp.Changes c change ∧ statements = [alterTable bp change] := by
  cases hkind : c.kind <;> simp only [Command.statements, hkind] at h
  case dropColumn =>
    obtain ⟨s, hs, rfl⟩ := map_eq_ok h
    obtain ⟨change, hchange, rfl⟩ := changes_of_dropColumns hkind hs
    exact ⟨change, hchange, rfl⟩
  case renameColumn =>
    cases h
    refine ⟨_, .renameColumn hkind, ?_⟩
    rw [valueReference, valueReference, columnName_eq, columnName_eq]
  case addPrimary =>
    obtain ⟨s, hs, rfl⟩ := map_eq_ok h
    have hwords : " " ++ "primary key (" = " primary key (" := by simp
    obtain ⟨name, columns, hname, hcolumns, rfl⟩ := addConstraint_ok hwords hs
    exact ⟨_, .addPrimary hkind hname hcolumns, rfl⟩
  case addUnique =>
    obtain ⟨s, hs, rfl⟩ := map_eq_ok h
    have hwords : " " ++ "unique(" = " unique(" := by simp
    obtain ⟨name, columns, hname, hcolumns, rfl⟩ := addConstraint_ok hwords hs
    exact ⟨_, .addUnique hkind hname hcolumns, rfl⟩
  case addForeign =>
    obtain ⟨s, hs, rfl⟩ := map_eq_ok h
    obtain ⟨change, hchange, rfl⟩ := changes_of_addForeign hkind hs
    exact ⟨change, hchange, rfl⟩
  case dropPrimary =>
    cases h
    exact ⟨_, .dropPrimary hkind, rfl⟩
  -- A unique constraint is dropped as an index.
  case dropUnique =>
    obtain ⟨s, hs, rfl⟩ := map_eq_ok h
    obtain ⟨n, hn, rfl⟩ := dropNamed_ok hs
    exact ⟨_, .dropIndex (.inl hkind) hn, rfl⟩
  case dropIndex =>
    obtain ⟨s, hs, rfl⟩ := map_eq_ok h
    obtain ⟨n, hn, rfl⟩ := dropNamed_ok hs
    exact ⟨_, .dropIndex (.inr hkind) hn, rfl⟩
  case dropForeign =>
    obtain ⟨s, hs, rfl⟩ := map_eq_ok h
    obtain ⟨n, hn, rfl⟩ := dropNamed_ok hs
    exact ⟨_, .dropForeign hkind hn, rfl⟩
  all_goals
    rw [hkind] at halters
    cases halters

/-- **A command is compiled to what it says.** -/
theorem spells_of_statements (hrec : c.kind.isRecorded = true) {number : Option Int}
    {statements : List String} (h : c.statements bp number = .ok statements) :
    ∃ s, statements = [s] ∧ bp.Spells c s := by
  -- Commands that alter the table share the front of their statement.
  by_cases halters : c.kind.altersTable = true
  · obtain ⟨change, hchange, rfl⟩ := changes_of_statements halters h
    exact ⟨_, rfl, alterTable_eq bp change ▸ .change hchange⟩
  cases hkind : c.kind <;> simp only [Command.statements, hkind] at h
  case createTable =>
    obtain ⟨ds, hds, rfl⟩ := map_eq_ok h
    refine ⟨_, rfl, ?_⟩
    unfold createStatement systemNameClause
    rw [tableName_eq, join_eq_intercalate]
    exact .createTable hkind (Blueprint.forall₂_of_definitions hds)
  case dropTable =>
    cases h
    exact ⟨_, rfl, tableName_eq bp.table ▸ .dropTable hkind⟩
  case dropTableIfExists =>
    cases h
    exact ⟨_, rfl, tableName_eq bp.table ▸ .dropTableIfExists hkind⟩
  case renameTable =>
    cases h
    refine ⟨_, rfl, ?_⟩
    rw [tableName_eq, tableName_eq]
    exact .renameTable hkind
  case label =>
    cases h
    refine ⟨_, rfl, ?_⟩
    rw [tableName_eq, literal_eq]
    exact .label hkind
  case addIndex =>
    obtain ⟨s, hs, rfl⟩ := map_eq_ok h
    obtain ⟨columns, hcolumns, rfl⟩ := map_eq_ok hs
    refine ⟨_, rfl, ?_⟩
    unfold systemNameClause
    rw [tableName_eq]
    exact .addIndex hkind (names_of_columnReferences hcolumns)
  case rawSystemCommand =>
    cases h
    exact ⟨_, rfl, systemCall_eq _ ▸ .systemCommand hkind⟩
  -- The other kinds alter the table or are not recorded.
  all_goals simp [CommandKind.altersTable, CommandKind.isRecorded, hkind] at halters hrec

end Db2Client.Schema
