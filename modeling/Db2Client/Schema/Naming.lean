import Db2Client.Text.Case
import Db2Client.Text.Pieces

/-!
# Table and index names

A table may be qualified by a schema. An index gets a conventional name from the table, its columns
and its kind. DB2 constraint names are unqualified, so the schema is taken out of a constraint's
name again.
-/

namespace Db2Client.Schema

open Text

/-! ## Tables -/

/-- The schema of a table, empty when the table is unqualified. -/
def schemaOf (table : String) : String :=
  match cut '.' table with
  | s :: _ :: _ => s
  | _ => ""

/-- The table without what qualifies it. -/
def baseName (table : String) : String := (cut '.' table).getLast?.getD ""

/-! ## Index names -/

/-- The conventional name of an index: lower case, with underscores for dashes and points. -/
def indexName (tablePrefix table : String) (columns : List String) (kind : String) : String :=
  let name := lower (tablePrefix ++ table ++ "_" ++ join "_" columns ++ "_" ++ kind)
  String.ofList (replaceAll ['-', '.'] '_' name.toList)

/-- Whether `name` begins, in lower case, with the prefix, the schema and a separator. -/
def headed (tablePrefix schema : List Char) (sep : Char) (name : List Char) : Bool :=
  (tablePrefix ++ schema ++ [sep]).isPrefixOf (lowerAfter [] name)

/-- A name without the schema that follows the table prefix. Case is ignored in finding the schema
and kept in what is left. -/
def withoutSchema (tablePrefix schema name : List Char) : List Char :=
  let p := lowerAfter [] tablePrefix
  let s := lowerAfter [] schema
  if s.isEmpty then name
  else if headed p s '_' name || headed p s '.' name then
    name.take p.length ++ name.drop (p.length + s.length + 1)
  else name

/-- The name of a constraint on a table, without the table's schema. -/
def constraintName (tablePrefix table name : String) : String :=
  String.ofList (withoutSchema tablePrefix.toList (schemaOf table).toList name.toList)

end Db2Client.Schema
