import Db2Client.Text.Pieces
import Db2Client.Value.Text

/-!
# Identifiers

A name may be qualified: its segments are separated by points. Column names stand bare in a
statement, table names are quoted segment by segment, and in both a double quote inside a segment
is written twice. The segment `*` stands for everything and is left alone.
-/

namespace Db2Client.Sql

open Text

/-! ## Segments -/

/-- A segment without quotes around it. -/
def bareSegment (cs : List Char) : List Char := if cs = ['*'] then cs else doubled '"' cs

/-- A segment between quotes. -/
def quotedSegment (cs : List Char) : List Char :=
  if cs = ['*'] then cs else '"' :: doubled '"' cs ++ ['"']

/-! ## Names -/

def segment (s : String) : String := String.ofList (bareSegment s.toList)

def quotedName (s : String) : String := String.ofList (quotedSegment s.toList)

/-- A column reference. -/
def columnName (s : String) : String :=
  String.ofList (['.'].intercalate ((pieces '.' s.toList).map bareSegment))

/-- A table reference. -/
def tableName (s : String) : String :=
  String.ofList (['.'].intercalate ((pieces '.' s.toList).map quotedSegment))

/-- A list of column references. -/
def columnList (columns : List String) : String := join ", " (columns.map columnName)

/-! ## Choices of columns -/

/-- One column by its name, or several. -/
inductive Columns where
  | one (name : String)
  | many (names : List Value)

/-- Whether any column is chosen. -/
def Columns.isChosen : Columns → Bool
  | .one name => name != ""
  | .many names => !names.isEmpty

def Columns.text : Columns → String
  | .one name => columnName name
  | .many names => columnList (names.map Value.plain)

/-- The choice that a value makes: text is the name of one column. -/
def Columns.ofValue? : Value → Option Columns
  | .text name => some (.one name)
  | v => v.items?.map .many

end Db2Client.Sql
