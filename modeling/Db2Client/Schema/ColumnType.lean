import Db2Client.Value

/-!
# Column types

The abstract column types and the tags they go by. Only the integer types can carry an identity.
-/

namespace Db2Client.Schema

inductive ColumnType where
  | char
  | string
  | text
  | mediumText
  | longText
  | bigInteger
  | integer
  | smallInteger
  | numeric
  | decimal
  | float
  | double
  | boolean
  | enumeration
  | date
  | dateTime
  | time
  | timestamp
  | binary
deriving DecidableEq, Repr

namespace ColumnType

def all : List ColumnType := [
  .char, .string, .text, .mediumText, .longText, .bigInteger, .integer, .smallInteger, .numeric,
  .decimal, .float, .double, .boolean, .enumeration, .date, .dateTime, .time, .timestamp, .binary]

def tag : ColumnType → String
  | .char => "char"
  | .string => "string"
  | .text => "text"
  | .mediumText => "mediumText"
  | .longText => "longText"
  | .bigInteger => "bigInteger"
  | .integer => "integer"
  | .smallInteger => "smallInteger"
  | .numeric => "numeric"
  | .decimal => "decimal"
  | .float => "float"
  | .double => "double"
  | .boolean => "boolean"
  | .enumeration => "enum"
  | .date => "date"
  | .dateTime => "dateTime"
  | .time => "time"
  | .timestamp => "timestamp"
  | .binary => "binary"

/-- The type that goes by a tag. Only text is a tag. -/
def ofTag? : Value → Option ColumnType
  | .text tag => all.find? fun t => t.tag = tag
  | _ => none

/-- Whether a column of the type can be an identity. -/
def isSerial : ColumnType → Bool
  | .smallInteger | .integer | .bigInteger => true
  | _ => false

end ColumnType

end Db2Client.Schema
