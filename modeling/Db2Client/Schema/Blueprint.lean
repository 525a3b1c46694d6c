import Db2Client.Failure
import Db2Client.Schema.Column
import Db2Client.Schema.Command
import Db2Client.Schema.Naming

/-!
# Blueprints

A blueprint describes the changes to one table: the columns to add and the commands to carry out,
in the order they were recorded. An edit records one more change. An edit fails, and records
nothing, when it asks for a column of an unknown type, or for the conventional name of an index on
columns that are not all text. Of several edits, those before the first that fails stay recorded.
-/

namespace Db2Client.Schema

structure Blueprint where
  table : String
  tablePrefix : String := ""
  /-- The short name of the table. -/
  systemName : Value := .null
  columns : List Column := []
  commands : List Command := []

/-! ## Edits -/

/-- One change to record. An index to drop is given by its name, which is text, or by the columns
that it has the conventional name for. -/
inductive Edit where
  | create
  | drop
  | dropIfExists
  | rename (newName : Value)
  | useSystemName (name : Value)
  | label (text : Value)
  | systemCommand (text : Value)
  | dropColumns (columns : List Value)
  | renameColumn (old new : Value)
  | primary (columns : List Value) (name : Value)
  | unique (columns : List Value) (name : Value)
  | index (columns : List Value) (name systemName : Value)
  | foreign (columns references : List Value) (table name onDelete onUpdate : Value)
  | dropPrimary (index : Value)
  | dropUnique (index : Value)
  | dropIndex (index : Value)
  | dropForeign (index : Value)
  | column (tag : Value) (name : Value) (attributes : Attributes)
  /-- A boolean whose constraint is named after the table. -/
  | boolean (name : Value) (attributes : Attributes)
  /-- A command as it is. -/
  | command (c : Command)

/-- A column of text up to a length. -/
def Edit.stringColumn (name : String) (length : Int) : Edit :=
  .column (.text ColumnType.string.tag) (.text name) { length := .integer length }

/-- Adds the columns that synchronise rows with another system, and an index on the first. -/
def Edit.synchronization (index : Value) (masterizable : Bool) : List Edit :=
  [.stringColumn "id_sync" 20, .index [.text "id_sync"] index .null, .stringColumn "hashcode" 32] ++
    if masterizable then [.boolean (.text "data_master") { defaultValue := .flag true }] else []

/-- Drops the columns for synchronisation and then the index on the first. -/
def Edit.endOfSynchronization (index : Value) : List Edit :=
  [.dropColumns [.text "id_sync", .text "hashcode"], .dropIndex index]

namespace Blueprint

/-! ## Recording -/

def record (bp : Blueprint) (c : Command) : Blueprint := { bp with commands := bp.commands ++ [c] }

def addColumn (bp : Blueprint) (c : Column) : Blueprint := { bp with columns := bp.columns ++ [c] }

/-- The conventional name of an index on columns of the table. -/
def conventionalName (bp : Blueprint) (kind : String) (columns : List String) : String :=
  indexName bp.tablePrefix bp.table columns kind

/-- The conventional name of an index on columns that were given as values. -/
def conventionalNameOn (bp : Blueprint) (kind : String) (columns : List Value) :
    Except Failure String :=
  match columns.mapM Value.text? with
  | some names => .ok (bp.conventionalName kind names)
  | none => .error .columnNotText

/-- A command that adds an index, under its conventional name unless one is given. -/
def addIndex (bp : Blueprint) (kind : CommandKind) (word : String) (columns : List Value)
    (name : Value) : Except Failure Command :=
  if name.isNull then
    (bp.conventionalNameOn word columns).map fun n =>
      { kind, columns := .list columns, index := .text n }
  else .ok { kind, columns := .list columns, index := name }

/-- A command that drops the index with the conventional name for some columns. -/
def removeConventionalIndex (bp : Blueprint) (kind : CommandKind) (word : String)
    (columns : List Value) : Except Failure Command :=
  (bp.conventionalNameOn word columns).map fun n =>
    { kind, columns := .list columns, index := .text n }

/-- A command that drops an index, given by its name or by its columns. What counts as absent stands
for no columns. -/
def removeIndex (bp : Blueprint) (kind : CommandKind) (word : String) (index : Value) :
    Except Failure Command :=
  match index with
  | .text _ => .ok { kind, index }
  | v =>
    if v.truthy then
      match v.items? with
      | some columns => bp.removeConventionalIndex kind word columns
      | none => .error .noItems
    else bp.removeConventionalIndex kind word []

/-- The command of an edit that records exactly one command and no column. -/
def commandOf? (bp : Blueprint) : Edit → Option (Except Failure Command)
  | .create => some (.ok { kind := .createTable })
  | .drop => some (.ok { kind := .dropTable })
  | .dropIfExists => some (.ok { kind := .dropTableIfExists })
  | .rename newName => some (.ok { kind := .renameTable, renameTo := newName })
  | .label text => some (.ok { kind := .label, label := text })
  | .systemCommand text => some (.ok { kind := .rawSystemCommand, systemCommand := text })
  | .dropColumns columns => some (.ok { kind := .dropColumn, columns := .list columns })
  | .renameColumn old new =>
    some (.ok { kind := .renameColumn, renameFrom := old, renameTo := new })
  | .primary columns name => some (bp.addIndex .addPrimary "primary" columns name)
  | .unique columns name => some (bp.addIndex .addUnique "unique" columns name)
  | .index columns name systemName =>
    some ((bp.addIndex .addIndex "index" columns name).map fun c =>
      { c with systemIndex := systemName })
  | .foreign columns references table name onDelete onUpdate =>
    some ((bp.addIndex .addForeign "foreign" columns name).map fun c =>
      { c with references := .list references, foreignTable := table, onDelete, onUpdate })
  | .dropPrimary i => some (bp.removeIndex .dropPrimary "primary" i)
  | .dropUnique i => some (bp.removeIndex .dropUnique "unique" i)
  | .dropIndex i => some (bp.removeIndex .dropIndex "index" i)
  | .dropForeign i => some (bp.removeIndex .dropForeign "foreign" i)
  | .command c => some (.ok c)
  | _ => none

/-- The column of a type that goes by a tag. -/
def newColumn (bp : Blueprint) (tag name : Value) (attributes : Attributes) :
    Except SchemaError Column :=
  match ColumnType.ofTag? tag with
  | some type => .ok { attributes with type, name }
  | none =>
    .error { problem := .unsupportedColumnType tag.plain, table := .text bp.table, column := name }

/-- A boolean column of the table. -/
def booleanColumn (bp : Blueprint) (name : Value) (attributes : Attributes) : Column :=
  { attributes with type := .boolean, name, constraintTable := .text (baseName bp.table) }

/-! ## Applying edits -/

def apply (bp : Blueprint) (e : Edit) : Except Failure Blueprint :=
  match e with
  | .column tag name attributes =>
    ((bp.newColumn tag name attributes).mapError .schema).map bp.addColumn
  | .boolean name attributes => .ok (bp.addColumn (bp.booleanColumn name attributes))
  | .useSystemName name => .ok { bp with systemName := name }
  | e =>
    match bp.commandOf? e with
    | some c => c.map bp.record
    | none => .ok bp

/-- The edits one after another, up to the first that fails, and the blueprint they leave. -/
def applyAll (bp : Blueprint) : List Edit → Except Failure Unit × Blueprint
  | [] => (.ok (), bp)
  | e :: rest =>
    match bp.apply e with
    | .error err => (.error err, bp)
    | .ok bp => bp.applyAll rest

/-! ## Commands to carry out -/

/-- Whether the table is created by the blueprint. -/
def creating (bp : Blueprint) : Bool := bp.commands.any fun c => c.kind = .createTable

/-- The commands with the implied addition of columns in front, in the order they are carried
out. -/
def toCommands (bp : Blueprint) : List Command :=
  sequenced (
    if !bp.columns.isEmpty && !bp.creating then { kind := .addColumn } :: bp.commands
    else bp.commands)

end Blueprint

end Db2Client.Schema
