import Db2Client.Schema.ColumnType

/-!
# Columns

A column has a type, a name and attributes. The name and the attributes are kept as the values they
were given as. An attribute that is null was not given, and a switch is on when its value is truthy.
-/

namespace Db2Client.Schema

/-- What is said about a column besides its type and name. -/
structure Attributes where
  length : Value := .null
  total : Value := .null
  places : Value := .null
  /-- The values of an enumeration are the items of this. -/
  allowed : Value := .list []
  /-- The table name that the check constraint of a boolean is named after. -/
  constraintTable : Value := .text ""
  nullable : Value := .flag false
  defaultValue : Value := .null
  autoIncrement : Value := .flag false
  /-- True for "always", or a generation expression. -/
  generated : Value := .null
  startWith : Value := .null
  before : Value := .null
  implicitlyHidden : Value := .flag false
  forColumn : Value := .null

structure Column extends Attributes where
  type : ColumnType
  name : Value

namespace Column

/-- Whether the column becomes an identity: the switch itself while it is off, else whether its type
is an integer type. -/
def identityFlag (autoIncrement : Value) (serial : Bool) : Value :=
  autoIncrement.andThen (.flag serial)

/-- The column becomes an identity primary key. -/
def isIdentity (c : Column) : Bool := (identityFlag c.autoIncrement c.type.isSerial).truthy

end Column

/-- The attributes that a column of a type starts from when nothing else is said. -/
def ColumnType.usual : ColumnType → Attributes
  | .char | .string => { length := .integer 255 }
  | .numeric | .decimal | .float => { total := .integer 8, places := .integer 2 }
  | _ => {}

end Db2Client.Schema
