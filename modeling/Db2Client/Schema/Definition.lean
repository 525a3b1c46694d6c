import Db2Client.Failure
import Db2Client.Schema.Column
import Db2Client.Schema.Naming
import Db2Client.Sql.Identifier
import Db2Client.Sql.Literal

/-!
# Column definitions

The SQL definition of a column: its name, its short name, its type, and then its clauses in the
order that DB2 expects. There are two ways to fail: the values of an enumeration are given as
something that has no items, or an identity is wanted on a type that is not an integer type.
-/

namespace Db2Client.Schema

open Sql Text

/-! ## The type -/

/-- A type with its sizes in parentheses. -/
def sized (name : String) (sizes : List Value) : String :=
  name ++ "(" ++ join ", " (sizes.map Value.plain) ++ ")"

/-- A type whose default is the current moment unless the column may be null. -/
def currentUnlessNullable (name moment : String) (c : Column) : String :=
  if c.nullable.truthy then name else name ++ " default " ++ moment

/-- Booleans are small integers that a named constraint restricts to 0 and 1. -/
def booleanType (c : Column) : String :=
  "smallint constraint boolean_" ++ c.constraintTable.plain ++ "_" ++ c.name.plain ++
    " check(" ++ c.name.plain ++ " in(0, 1))" ++
      (if c.defaultValue.isNull then " default 0" else "")

/-- An enumeration of the values among the items of what is allowed. -/
def enumerationType (allowed : Value) : Except Failure String :=
  match allowed.items? with
  | some values => .ok ("enum(" ++ join ", " (values.map fun v => literal v.plain) ++ ")")
  | none => .error .noItems

/-- The type of a column as DB2 writes it. -/
def Column.typeText (c : Column) : Except Failure String :=
  match c.type with
  | .char => .ok (sized "char" [c.length])
  | .string => .ok (sized "varchar" [c.length])
  | .text => .ok (sized "varchar" [c.length.orElse (.integer 16369)])
  | .mediumText => .ok (sized "varchar" [c.length.orElse (.integer 16000)])
  | .longText => .ok (sized "varchar" [c.length.orElse (.integer 16000)])
  | .bigInteger => .ok "bigint"
  | .integer => .ok "int"
  | .smallInteger => .ok "smallint"
  | .numeric => .ok (sized "numeric" [c.total, c.places])
  | .decimal => .ok (sized "decimal" [c.total, c.places])
  | .float => .ok (sized "decimal" [c.total, c.places])
  | .double =>
    .ok (if c.total.truthy && c.places.truthy then sized "double" [c.total, c.places] else "double")
  | .boolean => .ok (booleanType c)
  | .enumeration => enumerationType c.allowed
  | .date => .ok (currentUnlessNullable "date" "current_date" c)
  | .dateTime => .ok (currentUnlessNullable "timestamp" "current_timestamp" c)
  | .time => .ok (currentUnlessNullable "time" "current_time" c)
  | .timestamp => .ok (currentUnlessNullable "timestamp" "current_timestamp" c)
  | .binary => .ok "blob"

/-! ## The clauses -/

/-- A clause that is there when the value is given. -/
def givenClause (v : Value) (clause : Value → String) : String := if v.isNull then "" else clause v

/-- A column reference to the text of a value. -/
def valueReference (v : Value) : String := columnName v.plain

def forColumnClause (c : Column) : String :=
  givenClause c.forColumn fun v => " for column " ++ valueReference v

/-- Identity columns are implicitly not null. -/
def nullClause (c : Column) : String :=
  if c.nullable.truthy || c.isIdentity then "" else " not null"

def defaultClause (c : Column) : String :=
  givenClause c.defaultValue fun v => " default " ++ defaultLiteral v

def generatedClause (c : Column) : String :=
  givenClause c.generated fun v =>
    match v with
    | .flag true => " generated always"
    | v => " generated " ++ valueReference v

/-- An identity is also the primary key of its table. -/
def identityClause (table : String) (c : Column) : Except SchemaError String :=
  if !c.autoIncrement.truthy then .ok ""
  else if c.type.isSerial then
    .ok (" generated by default as identity constraint " ++ baseName table ++ "-" ++ c.name.plain ++
      "_primary primary key")
  else .error { problem := .autoIncrementType c.type.tag, table := .text table, column := c.name }

def startClause (c : Column) : String :=
  givenClause c.startWith fun v => " (start with " ++ v.plain ++ ")"

def beforeClause (c : Column) : String :=
  givenClause c.before fun v => " before " ++ valueReference v

def hiddenClause (c : Column) : String :=
  if c.implicitlyHidden.truthy then " implicitly hidden" else ""

/-! ## The definition -/

/-- The definition of a column of a table. -/
def Column.definition (table : String) (c : Column) : Except Failure String := do
  let type ← c.typeText
  let identity ← (identityClause table c).mapError .schema
  return valueReference c.name ++ forColumnClause c ++ " " ++ type ++ nullClause c ++
    defaultClause c ++ generatedClause c ++ identity ++ startClause c ++ beforeClause c ++
    hiddenClause c

/-- The definitions of the columns in order; the first that fails is the one reported. -/
def definitions (table : String) : List Column → Except Failure (List String)
  | [] => .ok []
  | c :: rest =>
    match c.definition table with
    | .error e => .error e
    | .ok d => (definitions table rest).map (d :: ·)

end Db2Client.Schema
