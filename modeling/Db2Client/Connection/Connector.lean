import Db2Client.Connection.ConnectionString
import Db2Client.Connection.Credentials
import Db2Client.Connection.Mask
import Db2Client.Diagnosis.ConnectionError
import Db2Client.Session.State

/-!
# Connecting

Connecting fills in missing credentials, checks the configuration, builds the connection string,
opens the connection and makes the configured schema the current one. The connection string is
logged with its passwords masked, and a driver's refusal to open is logged with an explanation.
-/

namespace Db2Client.Connection

open Diagnosis

/-- How connections are opened: by an opener that takes the whole connection string, or else by the
manager of ODBC drivers, which takes it without the scheme and with a timeout in seconds. -/
structure Connector where
  opener : Option (String → Except Failure Unit)
  manager : String → Value → Except Failure Unit
  timeout : Value := .integer 5

/-- A string that was handed to the opener, or to the manager with a timeout. -/
structure Opened where
  text : String
  timeout : Option Value

/-- What an attempt to connect has done so far. -/
structure Attempt (σ : Type) where
  link : Link σ
  opened : List Opened := []
  log : Log := []

namespace Attempt

variable {σ α : Type}

def tell (lines : Log) : Action (Attempt σ) Unit :=
  .of fun a => (.ok (), { a with log := a.log ++ lines })

/-- A result that comes with lines to log. -/
def logged (r : Except Failure α × Log) : Action (Attempt σ) α := do
  tell r.2
  Action.ofExcept r.1

def handOver (o : Opened) : Action (Attempt σ) Unit :=
  .of fun a => (.ok (), { a with opened := a.opened ++ [o] })

end Attempt

open Attempt

variable {σ : Type}

/-- Hands the connection string over. Without an opener only ODBC drivers can be reached. -/
def Connector.openString (k : Connector) (text : String) (odbc : Bool) :
    Action (Attempt σ) Unit :=
  match k.opener with
  | some opener => do
    handOver ⟨text, none⟩
    Action.ofExcept (opener text)
  | none =>
    if odbc then do
      let bare := withoutScheme text
      handOver ⟨bare, some k.timeout⟩
      Action.ofExcept (k.manager bare k.timeout)
    else Action.ofExcept (.error (.configuration .openerNeeded))

/-- What is logged about a failure to open. Faults of the configuration speak for themselves. -/
def openFailureLog : Failure → Log
  | .configuration _ => []
  | e => [⟨.error, (Explanation.ofText e.message).withDetails⟩]

/-- Opens the connection; a failure is logged and passed on. -/
def Connector.openLogged (k : Connector) (text : String) (odbc : Bool) :
    Action (Attempt σ) Unit :=
  .of fun a =>
    match (k.openString text odbc).runOn a with
    | (.ok (), a) => (.ok (), a)
    | (.error e, a) => (.error e, { a with log := a.log ++ openFailureLog e })

/-- Carries an action of a session out within an attempt; the session's log is added. -/
def onSession {α : Type} (s : Session σ) (act : Action (Session σ) α) :
    Action (Attempt σ) (Session σ) :=
  .of fun a =>
    let (r, s) := act.runOn { s with link := a.link, log := [] }
    (r.map fun _ => s, { a with link := s.link, log := a.log ++ s.log })

/-- Makes the configured schema the current one, if there is one. -/
def applySchema (db : Database σ) (s : Session σ) : Action (Attempt σ) (Session σ) :=
  match s.config.schema with
  | .text schema =>
    if schema = "" then return s else onSession s (Session.setSchema db schema)
  | _ => return s

/-- Opens a connection for a configuration. -/
def Connector.connectConfig (k : Connector) (r : Registry) (ring : Keyring) (db : Database σ)
    (c : Config) : Action (Attempt σ) (Session σ) := do
  let (c, lines) := c.resolved ring
  tell lines
  let v ← logged (c.variant r)
  Action.ofExcept (c.validate v)
  let text ← Action.ofExcept (v.style.connectionString c)
  tell [⟨.info, "Connecting to DB2 (" ++ v.name ++ "): " ++ maskPassword text⟩]
  k.openLogged text v.odbc
  let a ← Action.of fun a => (.ok a, a)
  let s ← Action.ofExcept (Session.start v c a.link)
  applySchema db s

/-- Opens a connection for settings. -/
def Connector.connect (k : Connector) (r : Registry) (ring : Keyring) (db : Database σ)
    (m : Settings) : Action (Attempt σ) (Session σ) := do
  let c ← logged (Config.ofSettings r m)
  k.connectConfig r ring db c

end Db2Client.Connection
