import Db2Client.Schema.Blueprint
import Db2Client.Schema.Definition

/-!
# Statements

The SQL statements of a command. All commands but one need nothing besides the blueprint and the
reply list number in use; the one that adds an entry to the reply list has to ask the server for a
free number first.
-/

namespace Db2Client.Schema

open Number Sql Text

/-! ## System commands -/

/-- The call that runs an IBM i system command. -/
def systemCall (command : String) : String := "CALL QSYS2.QCMDEXC(" ++ literal command ++ ")"

/-- The call that tells the job to answer inquiries from the reply list. -/
def changeJobCall : String := systemCall "CHGJOB INQMSGRPY(*SYSRPYL)"

/-- The call that answers the inquiry about lost data with "ignore". -/
def addReplyCall (number : String) : String :=
  systemCall ("ADDRPYLE SEQNBR(" ++ number ++ ") MSGID(CPA32B2) RPY('I')")

def removeReplyCall (number : String) : String :=
  systemCall ("RMVRPYLE SEQNBR(" ++ number ++ ")")

/-! ## Constraint names -/

/-- The name of a constraint without the schema. Only text can be searched for a schema; a name that
is not text stays as it is where the table has no schema. -/
def Blueprint.constraint (bp : Blueprint) (name : Value) : Except Failure Value :=
  match name with
  | .text n => .ok (.text (constraintName bp.tablePrefix bp.table n))
  | v => if lower (schemaOf bp.table) = "" then .ok v else .error .unnamedIndex

/-! ## Columns -/

/-- A list of column references from one name or from something that has items. -/
def columnReferences (columns : Value) : Except Failure String :=
  match Columns.ofValue? columns with
  | some c => .ok c.text
  | none => .error .noItems

/-! ## One statement for each command -/

def alterTable (bp : Blueprint) (change : String) : String :=
  "alter table " ++ tableName bp.table ++ " " ++ change

/-- A clause that is there when the name is given. -/
def systemNameClause (name : Value) : String :=
  if name.truthy then " for system name " ++ name.plain else ""

def createStatement (bp : Blueprint) (columns : List String) : String :=
  "create table " ++ tableName bp.table ++ systemNameClause bp.systemName ++
    " (" ++ join ", " columns ++ ")"

def dropColumnsStatement (bp : Blueprint) (c : Command) : Except Failure String :=
  match c.columns.items? with
  | some names =>
    .ok (alterTable bp (join ", " (names.map fun n => "drop " ++ columnName n.plain)))
  | none => .error .noItems

/-- Adds a constraint on columns; `before` and `after` stand around the columns. -/
def addConstraint (bp : Blueprint) (c : Command) (before after : String) :
    Except Failure String := do
  let name ← bp.constraint c.index
  let columns ← columnReferences c.columns
  return alterTable bp ("add constraint " ++ name.plain ++ " " ++ before ++ columns ++ after)

/-- An action of a foreign key, written as it is given. -/
def actionClause (event : String) (v : Value) : String :=
  if v.isNull then "" else " on " ++ event ++ " " ++ v.plain

def addForeignStatement (bp : Blueprint) (c : Command) : Except Failure String := do
  let name ← bp.constraint c.index
  let columns ← columnReferences c.columns
  let foreignColumns ← columnReferences c.references
  return alterTable bp ("add constraint " ++ name.plain ++ " foreign key (" ++ columns ++
    ") references " ++ tableName c.foreignTable.plain ++ " (" ++ foreignColumns ++ ")" ++
    actionClause "delete" c.onDelete ++ actionClause "update" c.onUpdate)

def addIndexStatement (bp : Blueprint) (c : Command) : Except Failure String :=
  (columnReferences c.columns).map fun columns =>
    "create index " ++ c.index.plain ++ systemNameClause c.systemIndex ++ " on " ++
      tableName bp.table ++ "(" ++ columns ++ ")"

def dropNamed (bp : Blueprint) (what : String) (name : Value) : Except Failure String :=
  (bp.constraint name).map fun n => alterTable bp ("drop " ++ what ++ " " ++ n.plain)

/-- The statements of a command that does not ask the server, `number` being the reply list number
in use. -/
def Command.statements (bp : Blueprint) (number : Option Int) (c : Command) :
    Except Failure (List String) :=
  match c.kind with
  | .createTable => (definitions bp.table bp.columns).map fun ds => [createStatement bp ds]
  | .dropTable => .ok ["drop table " ++ tableName bp.table]
  | .dropTableIfExists => .ok ["drop table if exists " ++ tableName bp.table]
  | .renameTable =>
    .ok ["rename table " ++ tableName bp.table ++ " to " ++ tableName c.renameTo.plain]
  | .label => .ok ["label on table " ++ tableName bp.table ++ " is " ++ literal c.label.plain]
  | .addColumn =>
    (definitions bp.table bp.columns).map fun ds => ds.map fun d => alterTable bp ("add " ++ d)
  | .dropColumn => (dropColumnsStatement bp c).map ([·])
  | .renameColumn =>
    .ok [alterTable bp ("rename column " ++ valueReference c.renameFrom ++ " to " ++
      valueReference c.renameTo)]
  | .addPrimary => (addConstraint bp c "primary key (" ")").map ([·])
  | .addUnique => (addConstraint bp c "unique(" ")").map ([·])
  | .addForeign => (addForeignStatement bp c).map ([·])
  | .addIndex => (addIndexStatement bp c).map ([·])
  | .dropPrimary => .ok [alterTable bp "drop primary key"]
  | .dropUnique => (dropNamed bp "index" c.index).map ([·])
  | .dropIndex => (dropNamed bp "index" c.index).map ([·])
  | .dropForeign => (dropNamed bp "foreign key" c.index).map ([·])
  | .rawSystemCommand => .ok [systemCall c.systemCommand.plain]
  | .changeJob => .ok [changeJobCall]
  | .removeReplyListEntry =>
    match number with
    | none =>
      .error (.schema
        { problem := .replyNumberUnassigned, table := .text bp.table, command := .text c.kind.tag })
    | some n => ((writeInteger n).mapError .number).map fun n => [removeReplyCall n]
  | .addReplyListEntry => .error .noConnection
  | .unknown tag =>
    .error (.schema
      { problem := .unsupportedCommand, table := .text bp.table, command := .text tag })

end Db2Client.Schema
