import HarvestTestbed.Session.Code

/-!
# The journal

Operations that a supervisor may want to follow write lines into a journal.  A journal is plain
data: nothing that an operation answers or leaves behind in the arena depends on it.
-/

namespace HarvestTestbed

inductive LogLevel
  | error
  | warn
  | info
  | debug
  | trace
  deriving DecidableEq, Repr, Inhabited

namespace LogLevel

def name : LogLevel → String
  | error => "ERROR"
  | warn => "WARN"
  | info => "INFO"
  | debug => "DEBUG"
  | trace => "TRACE"

end LogLevel

structure LogLine where
  level : LogLevel
  text : String
  deriving DecidableEq, Repr, Inhabited

/-- Lines in the order in which they were written. -/
abbrev Journal := Array LogLine

/-- The level at which a status event is journalled: severe events are errors, restarts are news
and all others warnings. -/
def StatusCode.logLevel (code : StatusCode) : LogLevel :=
  if code.isSevere then .error
  else if code = .restart then .info
  else .warn

end HarvestTestbed
