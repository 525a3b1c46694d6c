import Db2Client.Schema.Statement
import Db2Client.Session.Database
import Db2Client.Value.Integer

/-!
# Compiling blueprints

Compiling turns the commands of a blueprint into statements one after another. The number of the
reply list entry is asked from the server when the entry is added and is used again when the entry
is removed.
-/

namespace Db2Client.Schema

open Number

/-- The query for the lowest number that no reply list entry has. -/
def replyNumberQuery : String :=
  "\n    with reply_list_info(sequence_number) as (\n" ++
  "        values(1)\n" ++
  "        union all\n" ++
  "        select sequence_number + 1\n" ++
  "        from reply_list_info\n" ++
  "        where sequence_number + 1 between 2 and 9999\n" ++
  "    )\n" ++
  "    select min(sequence_number) sequence_number\n" ++
  "    from reply_list_info\n" ++
  "    where not exists (\n" ++
  "        select 1\n" ++
  "        from qsys2.reply_list_info rli\n" ++
  "        where rli.sequence_number = reply_list_info.sequence_number\n" ++
  "    )\n"

/-- What compiling goes by: the link to the server, if there is one, and the reply list number in
use. -/
structure Compilation (σ : Type) where
  link : Option (Link σ)
  number : Option Int := none

namespace Compilation

variable {σ : Type}

/-- The first row of a query to the server. -/
def ask (db : Database σ) (query : String) : Action (Compilation σ) (Option Row) :=
  .of fun s =>
    match s.link with
    | none => (.error .noConnection, s)
    | some link =>
      let (r, link) := Action.runOn (Link.selectOne db query []) link
      (r, { s with link := some link })

def setNumber (n : Int) : Action (Compilation σ) Unit :=
  .of fun s => (.ok (), { s with number := some n })

end Compilation

variable {σ : Type}

/-- The number in the server's reply. No row, an empty row and a null number all mean that every
number is taken. -/
def freeNumber (bp : Blueprint) (c : Command) (row : Option Row) : Except Failure Int :=
  let taken := Failure.schema
    { problem := .noFreeReplyNumber, table := .text bp.table, command := .text c.kind.tag }
  match row with
  | none => .error taken
  | some row =>
    if row.entries.isEmpty then .error taken
    else
      match row.cell "sequence_number" with
      | .error e => .error e
      | .ok .null => .error taken
      | .ok v => v.toInteger.mapError .number

/-- Asks for a free number, keeps it, and adds the entry with that number. -/
def addReplyEntry (db : Database σ) (bp : Blueprint) (c : Command) :
    Action (Compilation σ) (List String) := do
  let row ← Compilation.ask db replyNumberQuery
  let n ← Action.ofExcept (freeNumber bp c row)
  Compilation.setNumber n
  let written ← Action.ofExcept ((writeInteger n).mapError .number)
  return [addReplyCall written]

/-- The statements of one command. -/
def compile (db : Database σ) (bp : Blueprint) (c : Command) :
    Action (Compilation σ) (List String) :=
  if c.kind = .addReplyListEntry then addReplyEntry db bp c
  else .of fun s => (c.statements bp s.number, s)

/-- The statements of commands one after another. -/
def compileAll (db : Database σ) (bp : Blueprint) :
    List Command → Action (Compilation σ) (List String)
  | [] => return []
  | c :: rest => do
    let first ← compile db bp c
    let more ← compileAll db bp rest
    return first ++ more

/-- The statements of a blueprint in the order they are to be executed. -/
def Blueprint.toSql (bp : Blueprint) (db : Database σ) : Action (Compilation σ) (List String) :=
  compileAll db bp bp.toCommands

end Db2Client.Schema
