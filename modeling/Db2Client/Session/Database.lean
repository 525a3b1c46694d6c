import Db2Client.Failure
import Db2Client.Session.Row
import Db2Client.Text.Pieces

/-!
# Databases and links

A database is anything that answers statements; it may refuse a statement, or fail when the rows are
fetched. A link to a database sends it statements through cursors and keeps record of what was
sent. A cursor is closed whatever becomes of the statement.
-/

namespace Db2Client

open Text

/-! ## Databases -/

/-- An accepted statement's result: column names, and the rows unless fetching them fails. -/
structure Reply where
  columns : List String
  rows : Except String (List (List Value))

/-- How a database with memory `σ` answers a statement: a reply or the text of an error, and its
memory afterwards. -/
structure Database (σ : Type) where
  answer : σ → String → Option (List Value) → Except String Reply × σ

/-! ## Links -/

/-- A statement as it was sent, with its bindings if it had any. -/
structure Sent where
  text : String
  bindings : Option (List Value)

structure Link (σ : Type) where
  memory : σ
  sent : List Sent := []
  openCursors : Nat := 0
  closed : Bool := false

/-- A link over which nothing was sent. -/
def Link.fresh {σ : Type} (memory : σ) : Link σ := { memory }

namespace Link

variable {σ α : Type}

/-- Runs an action with a cursor open, and closes the cursor. -/
def withCursor (body : Action (Link σ) α) : Action (Link σ) α :=
  .of fun link =>
    let (r, after) := body.runOn { link with openCursors := link.openCursors + 1 }
    (r, { after with openCursors := after.openCursors - 1 })

/-- Sends a statement. Without bindings it is sent on its own. -/
def execute (db : Database σ) (text : String) (bindings : List Value) :
    Action (Link σ) Reply :=
  .of fun link =>
    let given := if bindings.isEmpty then none else some bindings
    let (r, memory) := db.answer link.memory text given
    (r.mapError .database, { link with memory, sent := link.sent ++ [⟨text, given⟩] })

/-- Runs a statement that returns no rows. -/
def statement (db : Database σ) (text : String) (bindings : List Value) :
    Action (Link σ) Unit :=
  withCursor do
    let _ ← execute db text bindings

/-- Runs a query and returns its rows by column name. -/
def select (db : Database σ) (text : String) (bindings : List Value) :
    Action (Link σ) (List Row) :=
  withCursor do
    let reply ← execute db text bindings
    let rows ← Action.ofExcept (reply.rows.mapError .database)
    return rows.map (Row.ofCells reply.columns)

/-- The first row of a query, if it has one. -/
def selectOne (db : Database σ) (text : String) (bindings : List Value) :
    Action (Link σ) (Option Row) := do
  return (← select db text bindings).head?

def close : Action (Link σ) Unit := .of fun link => (.ok (), { link with closed := true })

end Link

/-! ## Scripted databases -/

/-- How a scripted database answers the statements that contain a text. -/
structure Rule where
  part : String
  columns : List String := []
  rows : List (List Value) := []
  /-- The rule answers one statement only. -/
  once : Bool := false
  refusal : Option String := none
  fetchFailure : Option String := none

def Rule.reply (r : Rule) : Except String Reply :=
  match r.refusal with
  | some text => .error text
  | none =>
    .ok {
      columns := r.columns
      rows := match r.fetchFailure with
        | some text => .error text
        | none => .ok r.rows }

/-- The first rule that a statement meets, and the rules that remain. -/
def Rule.meet (statement : List Char) : List Rule → Option Rule × List Rule
  | [] => (none, [])
  | r :: rest =>
    if occursIn r.part.toList statement then (some r, if r.once then rest else r :: rest)
    else let (found, rest) := meet statement rest; (found, r :: rest)

/-- A database that answers by the first rule whose text occurs in the statement, and with no
columns and no rows when there is none. -/
def scripted : Database (List Rule) where
  answer rules text _ :=
    let (found, rest) := Rule.meet text.toList rules
    match found with
    | some r => (r.reply, rest)
    | none => (.ok { columns := [], rows := .ok [] }, rest)

end Db2Client
