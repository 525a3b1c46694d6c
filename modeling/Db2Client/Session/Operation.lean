import Db2Client.Session.State

/-!
# Operations of a session

Everything that can be asked of a session, as data, so that a run is a list of operations. Each
operation answers with a value.
-/

namespace Db2Client

open Connection Date Query Schema

inductive Operation where
  | setSchema (schema : String)
  | resetSchema
  | qualify (table : Value)
  | systemCommand (command : Value)
  | statement (text : String) (bindings : List Value)
  | select (text : String) (bindings : List Value)
  | selectOne (text : String) (bindings : List Value)
  | insertGetKey (insert : String) (bindings : List Value) (key : KeyColumns)
  | hasTable (table : String)
  | columnNames (table : String)
  | runBlueprint (bp : Blueprint)
  | selectQuery (request : Request)
  | formatDate (moment : Moment)
  | close

def Row.toValue (row : Row) : Value := .mapping (row.entries.map fun e => (.text e.1, e.2))

variable {σ : Type}

/-- Carries out an operation. -/
def Operation.run (db : Database σ) : Operation → Action (Session σ) Value
  | .setSchema schema => do
    Session.setSchema db schema
    return .null
  | .resetSchema => do
    Session.resetSchema db
    return .null
  | .qualify table => do
    Action.ofExcept ((← Session.now).qualify table)
  | .systemCommand command => do
    Session.systemCommand db command
    return .flag true
  | .statement text bindings => do
    Session.statement db text bindings
    return .flag true
  | .select text bindings => do
    return .list ((← Session.select db text bindings).map Row.toValue)
  | .selectOne text bindings => do
    return (((← Session.selectOne db text bindings).map Row.toValue).getD .null)
  | .insertGetKey insert bindings key => Session.insertGetKey db insert bindings key
  | .hasTable table => do
    return .flag (← Session.hasTable db table)
  | .columnNames table => do
    return .list (← Session.columnNames db table)
  | .runBlueprint bp => do
    return .list ((← Session.runBlueprint db bp).map .text)
  | .selectQuery request => do
    return .text (← Action.ofExcept ((← Session.now).selectQuery request))
  | .formatDate moment => do
    return .text (← Action.ofExcept (Session.formatDate (← Session.now).config.dateFormat moment))
  | .close => do
    Session.onLink Link.close
    return .null

end Db2Client
