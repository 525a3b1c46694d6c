import Db2Client.Connection.Config

/-!
# Connection strings

The connection string of a configuration in each of the three styles. It begins with a scheme that
tells the kind of driver.
-/

namespace Db2Client.Connection

open Number Text

def odbcScheme : String := "odbc:"

def nativeScheme : String := "ibm:"

/-! ## The styles -/

def cataloguedString (c : Config) : String := nativeScheme ++ c.database.plain

/-- A keyword with its value in braces. -/
def braced (keyword value : String) : String := keyword ++ "=\x7b" ++ value ++ "\x7d;"

def directString (c : Config) : String :=
  nativeScheme ++ braced "DRIVER" c.driverName.plain ++ braced "DATABASE" c.database.plain ++
    braced "HOSTNAME" c.host.plain ++ braced "PORT" c.portValue.plain ++ "PROTOCOL=TCPIP;"

/-- Keywords and values with equal signs between them. The extra keywords follow in their order. -/
def odbcString (c : Config) : String :=
  join ";" ([
    odbcScheme ++ "DRIVER=" ++ c.driverName.plain,
    "System=" ++ c.host.plain,
    "Database=" ++ c.database.plain,
    "UserID=" ++ c.username.plain,
    "Password=" ++ c.password.plain] ++
    c.keywords.entries.map fun e => e.1.value.plain ++ "=" ++ e.2.plain)

/-- The text of a configuration in a style. -/
def Style.text (s : Style) (c : Config) : String :=
  match s with
  | .odbc => odbcString c
  | .catalogued => cataloguedString c
  | .direct => directString c

/-- The values that are written into the text. -/
def Style.parts (s : Style) (c : Config) : List Value :=
  match s with
  | .odbc =>
    [c.driverName, c.host, c.database, c.username, c.password] ++
      c.keywords.entries.flatMap fun e => [e.1.value, e.2]
  | .catalogued => [c.database]
  | .direct => [c.driverName, c.database, c.host, c.portValue]

/-- The connection string of a configuration in a style, if all its parts can be written. -/
def Style.connectionString (s : Style) (c : Config) : Except Failure String :=
  if (s.parts c).all Value.writable then .ok (s.text c) else .error (.number .tooLongToWrite)

/-! ## Schemes -/

/-- A connection string without its scheme. -/
def withoutScheme (s : String) : String :=
  let cs := s.toList
  if odbcScheme.toList.isPrefixOf cs then String.ofList (cs.drop odbcScheme.length)
  else if nativeScheme.toList.isPrefixOf cs then String.ofList (cs.drop nativeScheme.length)
  else s

end Db2Client.Connection
