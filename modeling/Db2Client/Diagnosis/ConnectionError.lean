import Db2Client.Diagnosis.Pattern
import Db2Client.Text.Pieces

/-!
# Explaining connection errors

The text of a driver's error is searched for known shapes in a fixed order, DB2's own before those
of any database. The first that is found gives a title, a message and a suggestion; an unknown text
gets general ones. A message may name what was found.
-/

namespace Db2Client.Diagnosis

open Text Pattern

/-! ## Known errors -/

inductive Wording where
  | fixed (text : String)
  /-- Names what was found between two texts. -/
  | naming (before after : String)
deriving DecidableEq, Repr

/-- The message about what was found; a question mark stands for nothing. -/
def Wording.text (w : Wording) (found : Option (List Char)) : String :=
  match w with
  | .fixed text => text
  | .naming before after =>
    let name := match found with
      | some (c :: cs) => String.ofList (c :: cs)
      | _ => "?"
    before ++ name ++ after

structure KnownError where
  pattern : Pattern
  title : String
  wording : Wording
  suggestion : String

def quoteMark : Pattern := .optional (.char (.oneOf ['\'', '"']))

/-- The errors of DB2 and its drivers. -/
def db2Errors : List KnownError := [
  { pattern := anyOf [
      words "SQL30082",
      .cat (words "CWBSY100") (.char .asciiDigit),
      sequence [words "password ", .optional (words "is "), .optional (words "not "),
        .either (words "correct") (words "valid")]]
    title := "Authentication failed"
    wording := .fixed "The user profile or password was rejected by the server."
    suggestion := "Check the user profile and password. On IBM i, also check that the " ++
      "profile is not disabled (WRKUSRPRF)." },
  { pattern := anyOf [
      words "SQL1013N",
      words "SQL0950",
      sequence [words "relational database ", quoteMark, .group (.run .word 1), quoteMark,
        words " not found"]]
    title := "Database not found"
    wording := .naming "The database '" "' could not be found."
    suggestion :=
      "Check the database name (WRKRDBDIRE on IBM i, LIST DB DIRECTORY on LUW)." },
  { pattern := anyOf [
      words "SQL30081N",
      .cat (words "CWBCO100") (.char .asciiDigit),
      words "communication error"]
    title := "Server unreachable"
    wording := .fixed "The DB2 server could not be reached."
    suggestion := "Check that:\n" ++
      "  - The host name is correct\n" ++
      "  - The host server (STRHOSTSVR) or DB2 instance is started\n" ++
      "  - The firewall allows the database port" },
  { pattern := anyOf [
      words "IM002",
      words "data source name not found",
      sequence [words "driver", .run .notNewline 0, words "not ",
        .either (words "found") (words "installed")]]
    title := "ODBC driver missing"
    wording := .fixed "The configured ODBC driver is not installed."
    suggestion := "Install the IBM i Access ODBC driver or the IBM Data Server Driver, " ++
      "and check driver_name against the installed driver list." },
  { pattern := sequence [words "SQL0204", .run .nonWord 0, .group (.run .word 1), words " in ",
      .run .nonBlank 1, words " type *LIB"]
    title := "Schema not found"
    wording := .naming "The schema '" "' does not exist."
    suggestion := "Check the schema setting of the connection." },
  { pattern := anyOf [words "SQL0551", words "not authorized", words "authority"]
    title := "Access denied"
    wording := .fixed "The user profile lacks authority on the requested object."
    suggestion := "Ask the system administrator to grant the required authority." }]

/-- The errors of any database. -/
def genericErrors : List KnownError := [
  { pattern := anyOf [words "timeout", words "timed out", words "HYT00"]
    title := "Timeout"
    wording := .fixed "The connection took too long."
    suggestion := "Check the network connection and try again." },
  { pattern := words "refused"
    title := "Connection refused"
    wording := .fixed "The server refused the connection."
    suggestion := "Check that the database server is started." }]

def knownErrors : List KnownError := db2Errors ++ genericErrors

/-! ## Explanations -/

structure Explanation where
  title : String
  message : String
  suggestion : String
  /-- The text of the error itself. -/
  errorText : String
deriving DecidableEq, Repr

namespace Explanation

/-- The explanation by the first known error that is found. -/
def among (text : String) : List KnownError → Explanation
  | [] => {
      title := "Connection error"
      message := "An error occurred while connecting to the DB2 server."
      suggestion := "Check the connection settings and try again."
      errorText := text }
  | e :: rest =>
    match e.pattern.search text.toList with
    | some f => {
        title := e.title
        message := e.wording.text f.found
        suggestion := e.suggestion
        errorText := text }
    | none => among text rest

/-- The explanation of an error by its text. -/
def ofText (text : String) : Explanation := among text knownErrors

def short (e : Explanation) : String := e.title ++ "\n\n" ++ e.message

def full (e : Explanation) : String :=
  join "\n" ([e.title, "", e.message] ++
    if e.suggestion = "" then [] else ["", "Suggestion:", e.suggestion])

/-- The full explanation followed by the beginning of the error's own text. -/
def withDetails (e : Explanation) : String :=
  join "\n" [e.full, "", "---", "Technical details:", String.ofList (e.errorText.toList.take 500)]

end Explanation

end Db2Client.Diagnosis
