import Db2Client.Number.Integer
import Db2Client.Value.Text

/-!
# Failures

The ways in which building SQL, connecting and running statements can fail, by cause. Every cause
has its wording in one place.
-/

namespace Db2Client

open Number Text

/-! ## Schema errors -/

inductive SchemaProblem where
  | unsupportedCommand
  | unsupportedColumnType (tag : String)
  | autoIncrementType (tag : String)
  | noFreeReplyNumber
  | replyNumberUnassigned
  | described (text : String)
deriving DecidableEq

def SchemaProblem.text : SchemaProblem → String
  | .unsupportedCommand => "Unsupported schema command"
  | .unsupportedColumnType tag => "Unsupported column type '" ++ tag ++ "'"
  | .autoIncrementType tag =>
    "Auto-increment is only supported on smallInteger, integer, bigInteger columns, not '" ++
      tag ++ "'"
  | .noFreeReplyNumber => "No free reply list sequence number"
  | .replyNumberUnassigned => "Reply list sequence number read before it was assigned"
  | .described text => text

/-- A command or a column that cannot be turned into SQL, and where it stands. A part of the place
that counts as absent is not given. -/
structure SchemaError where
  problem : SchemaProblem
  table : Value := .text ""
  command : Value := .text ""
  column : Value := .text ""

/-- The parts of the place that are given, each with its label. -/
def SchemaError.place (e : SchemaError) : List String :=
  [("command", e.command), ("column", e.column), ("table", e.table)].filterMap fun (label, name) =>
    if name.truthy then some (label ++ " '" ++ name.plain ++ "'") else none

def SchemaError.message (e : SchemaError) : String :=
  if e.place.isEmpty then e.problem.text
  else e.problem.text ++ " (" ++ join ", " e.place ++ ")"

/-! ## Configuration errors -/

inductive ConfigurationError where
  | missingDriver
  | invalidPort (shown : String)
  | unsupportedDriver (driver : String) (supported : List String)
  | missingFields (driver : String) (fields : List String)
  | openerNeeded
  | described (text : String)
deriving DecidableEq

def ConfigurationError.message : ConfigurationError → String
  | .missingDriver => "Missing required connection field: driver"
  | .invalidPort shown => "Invalid port: " ++ shown
  | .unsupportedDriver driver supported =>
    "Unsupported DB2 driver '" ++ driver ++ "' (supported: " ++ join ", " supported ++ ")"
  | .missingFields driver fields =>
    "Missing required connection field(s) for driver '" ++ driver ++ "': " ++ join ", " fields
  | .openerNeeded =>
    "Native IBM DSNs need an opener (for example a wrapper around ibm_db_dbi.connect)"
  | .described text => text

/-- Why extra connection keywords are not pairs of a key and a value. -/
inductive KeywordError where
  | notPairs
  | wrongLength (index length : Nat)
  | unusableKey
deriving DecidableEq

def KeywordError.message : KeywordError → String
  | .notPairs => "keywords are not a sequence of pairs"
  | .wrongLength index length =>
    "dictionary update sequence element #" ++ toString index ++ " has length " ++
      toString length ++ "; 2 is required"
  | .unusableKey => "a keyword cannot be a list or a mapping"

/-! ## Generated keys -/

inductive GeneratedKeyError where
  | noRow (statement : String)
  | noColumn (key : String) (columns : List String)
deriving DecidableEq

def GeneratedKeyError.message : GeneratedKeyError → String
  | .noRow statement => "Insert returned no generated key: " ++ statement
  | .noColumn key columns =>
    "Generated key column '" ++ key ++ "' not found in insert result (columns: " ++
      join ", " columns ++ ")"

/-! ## Failures of every kind -/

inductive Failure where
  | schema (e : SchemaError)
  | configuration (e : ConfigurationError)
  | keywords (e : KeywordError)
  | generatedKey (e : GeneratedKeyError)
  | number (e : IntegerError)
  /-- A row has no column of the name, in either case. -/
  | absentColumn (name : String)
  | unknownColumnType (shown : String)
  /-- Reported by the database or by its driver. -/
  | database (text : String)
  | noConnection
  | unnamedIndex
  | notText
  | noItems
  | unknownField (name : String)
  | dateFormatNotText
  | columnNotText

def Failure.message : Failure → String
  | .schema e => e.message
  | .configuration e => e.message
  | .keywords e => e.message
  | .generatedKey e => e.message
  | .number e => e.message
  | .absentColumn name => quoted name
  | .unknownColumnType shown => shown
  | .database text => text
  | .noConnection => "there is no connection to ask"
  | .unnamedIndex => "the index has no name that is text"
  | .notText => "the value is not text"
  | .noItems => "the value has no items"
  | .unknownField name => "there is no connection field " ++ quoted name
  | .dateFormatNotText => "the date format is not text"
  | .columnNotText => "a column of the index is not text"

/-! ## Outcomes -/

@[simp] theorem mapError_ok {ε α : Type} (f : ε → Failure) (a : α) :
    (Except.ok a : Except ε α).mapError f = .ok a := rfl

@[simp] theorem mapError_error {ε α : Type} (f : ε → Failure) (e : ε) :
    (Except.error e : Except ε α).mapError f = .error (f e) := rfl

theorem map_eq_ok {α β : Type} {f : α → β} {x : Except Failure α} {b : β}
    (h : x.map f = .ok b) : ∃ a, x = .ok a ∧ f a = b := by
  cases x with
  | error e => cases h
  | ok a => exact ⟨a, rfl, Except.ok.inj h⟩

theorem mapError_eq_ok {ε α : Type} {f : ε → Failure} {x : Except ε α} {a : α}
    (h : x.mapError f = .ok a) : x = .ok a := by
  cases x with
  | error e => cases h
  | ok b => rw [Except.ok.inj h]

/-- Both steps succeed where one after the other does. -/
theorem bind_eq_ok {α β : Type} {f : α → Except Failure β} {x : Except Failure α} {b : β}
    (h : x >>= f = .ok b) : ∃ a, x = .ok a ∧ f a = .ok b := by
  cases x with
  | error e => cases h
  | ok a => exact ⟨a, rfl, h⟩

/-! ## Actions -/

/-- An action on a state that may fail. What it did to the state before it failed stays done. -/
abbrev Action (σ α : Type) := ExceptT Failure (StateM σ) α

namespace Action

variable {σ τ α β : Type}

/-- The outcome of an action and the state it leaves. -/
def runOn (a : Action σ α) (s : σ) : Except Failure α × σ := a.run.run s

/-- An action given by its outcome and the state it leaves. -/
def of (f : σ → Except Failure α × σ) : Action σ α := ExceptT.mk (StateT.mk f)

/-- A result that needs no state. -/
def ofExcept (r : Except Failure α) : Action σ α := of fun s => (r, s)

/-- An action on a part of the state. -/
def onPart (get : σ → τ) (set : σ → τ → σ) (a : Action τ α) : Action σ α :=
  of fun s => let (r, t) := a.runOn (get s); (r, set s t)

/-! ### Running an action -/

@[simp] theorem runOn_of (f : σ → Except Failure α × σ) (s : σ) : (of f).runOn s = f s := rfl

@[simp] theorem runOn_pure (a : α) (s : σ) : (pure a : Action σ α).runOn s = (.ok a, s) := rfl

@[simp] theorem runOn_ofExcept (r : Except Failure α) (s : σ) : (ofExcept r).runOn s = (r, s) :=
  rfl

/-- The second action runs where the first succeeds, on the state that the first leaves. -/
theorem runOn_bind (a : Action σ α) (f : α → Action σ β) (s : σ) :
    (a >>= f).runOn s =
      match a.runOn s with
      | (.ok x, t) => (f x).runOn t
      | (.error e, t) => (.error e, t) := by
  show (ExceptT.bindCont f (a.runOn s).1).run (a.runOn s).2 = _
  rcases a.runOn s with ⟨_ | _, _⟩ <;> rfl

theorem runOn_bind_ok {a : Action σ α} {f : α → Action σ β} {s t : σ} {x : α}
    (h : a.runOn s = (.ok x, t)) : (a >>= f).runOn s = (f x).runOn t := by
  rw [runOn_bind, h]

theorem runOn_bind_error {a : Action σ α} {f : α → Action σ β} {s t : σ} {e : Failure}
    (h : a.runOn s = (.error e, t)) : (a >>= f).runOn s = (.error e, t) := by
  rw [runOn_bind, h]

end Action

end Db2Client
