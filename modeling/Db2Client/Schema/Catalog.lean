/-!
# Catalog queries

DB2 products differ in where the catalog is found.
-/

namespace Db2Client.Schema

/-- Where a DB2 product keeps its catalog. -/
inductive Dialect where
  | db2
  | expressC
deriving DecidableEq, Repr

namespace Dialect

/-- The query for a table; its bindings are the schema and the table. -/
def tableQuery : Dialect → String
  | .db2 =>
    "select * from information_schema.tables " ++
      "where table_schema = upper(?) and table_name = upper(?)"
  | .expressC =>
    "select * from syspublic.all_tables " ++
      "where table_schema = upper(?) and table_name = upper(?)"

/-- The query for the columns of a table; its bindings are the schema and the table. -/
def columnQuery : Dialect → String
  | .db2 =>
    "select column_name from information_schema.columns " ++
      "where table_schema = upper(?) and table_name = upper(?)"
  | .expressC =>
    "select column_name from syspublic.all_ind_columns " ++
      "where table_schema = upper(?) and table_name = upper(?)"

/-- Enumerated types are written out but not supported by any product. -/
def supportsEnumerations : Dialect → Bool
  | .db2 | .expressC => false

end Dialect

end Db2Client.Schema
