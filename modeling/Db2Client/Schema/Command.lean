import Db2Client.Value

/-!
# Commands

A command names a change to a table and carries the parts that the change needs, as the values they
were given as. Every command has room for every part; those that it does not need stay null, and
lists of columns stay empty. A tag that is no known kind of command is kept as it is.
-/

namespace Db2Client.Schema

inductive CommandKind where
  | createTable
  | dropTable
  | dropTableIfExists
  | addColumn
  | dropColumn
  | renameColumn
  | addIndex
  | addPrimary
  | addUnique
  | addForeign
  | dropIndex
  | dropPrimary
  | dropUnique
  | dropForeign
  | renameTable
  | label
  | rawSystemCommand
  | addReplyListEntry
  | removeReplyListEntry
  | changeJob
  | unknown (tag : String)
deriving DecidableEq, Repr

namespace CommandKind

/-- Every known kind. -/
def known : List CommandKind := [
  .createTable, .dropTable, .dropTableIfExists, .addColumn, .dropColumn, .renameColumn, .addIndex,
  .addPrimary, .addUnique, .addForeign, .dropIndex, .dropPrimary, .dropUnique, .dropForeign,
  .renameTable, .label, .rawSystemCommand, .addReplyListEntry, .removeReplyListEntry, .changeJob]

def tag : CommandKind → String
  | .createTable => "createTable"
  | .dropTable => "dropTable"
  | .dropTableIfExists => "dropTableIfExists"
  | .addColumn => "addColumn"
  | .dropColumn => "dropColumn"
  | .renameColumn => "renameColumn"
  | .addIndex => "addIndex"
  | .addPrimary => "addPrimary"
  | .addUnique => "addUnique"
  | .addForeign => "addForeign"
  | .dropIndex => "dropIndex"
  | .dropPrimary => "dropPrimary"
  | .dropUnique => "dropUnique"
  | .dropForeign => "dropForeign"
  | .renameTable => "renameTable"
  | .label => "label"
  | .rawSystemCommand => "rawSystemCommand"
  | .addReplyListEntry => "addReplyListEntry"
  | .removeReplyListEntry => "removeReplyListEntry"
  | .changeJob => "changeJob"
  | .unknown tag => tag

def ofTag (tag : String) : CommandKind := (known.find? fun k => k.tag = tag).getD (.unknown tag)

/-- Whether IBM i asks back before it makes the change, because data could be lost. -/
def asksBack : CommandKind → Bool
  | .dropColumn | .renameColumn => true
  | _ => false

end CommandKind

structure Command where
  kind : CommandKind
  columns : Value := .list []
  index : Value := .null
  /-- The short name of an index. -/
  systemIndex : Value := .null
  /-- The table that a foreign key refers to, and its columns there. -/
  foreignTable : Value := .null
  references : Value := .list []
  onDelete : Value := .null
  onUpdate : Value := .null
  renameFrom : Value := .null
  renameTo : Value := .null
  label : Value := .null
  /-- The text of a system command. -/
  systemCommand : Value := .null

/-! ## Brackets -/

/-- Commands in the order they are carried out. When one of them makes IBM i ask back, they stand
between commands that put an answer on the reply list, tell the job to use the list, and take the
answer off again. Commands that already answer are left alone. -/
def sequenced (commands : List Command) : List Command :=
  if commands.any fun c => c.kind = .addReplyListEntry then commands
  else if commands.any fun c => c.kind.asksBack then
    { kind := .addReplyListEntry } :: { kind := .changeJob } ::
      (commands ++ [{ kind := .removeReplyListEntry }])
  else commands

end Db2Client.Schema
