/-!
# Logs

What is told while connecting and while changing schemas, line by line.
-/

namespace Db2Client

inductive LogLevel where
  | info
  | warning
  | error
deriving DecidableEq, Repr

def LogLevel.text : LogLevel → String
  | .info => "INFO"
  | .warning => "WARNING"
  | .error => "ERROR"

structure LogLine where
  level : LogLevel
  text : String
deriving DecidableEq, Repr

abbrev Log := List LogLine

end Db2Client
