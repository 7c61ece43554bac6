import HostLifecycle.Value

/-!
The journal: what was logged, in the order in which it was logged.
-/

namespace HostLifecycle.Logging

inductive Severity where
  | debug
  | info
  | warning
  | error
deriving DecidableEq, Repr

def Severity.name : Severity → Text
  | debug => "DEBUG"
  | info => "INFO"
  | warning => "WARNING"
  | error => "ERROR"

/-- An entry of the journal, with the values that were given beside the message. -/
structure LogEntry where
  logger : Text
  severity : Severity
  message : Text
  extras : Fields Value

end HostLifecycle.Logging
