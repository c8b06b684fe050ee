/-!
# Log lines
-/
namespace StatefulRoles

/-- How much a log line matters. -/
inductive Log.Level where
  | debug
  | info
  | warning
  | error
deriving DecidableEq, Repr

/-- One line of the log. -/
structure Log where
  level : Log.Level
  text : String
deriving DecidableEq, Repr

namespace Log

def debug (text : String) : Log := ⟨.debug, text⟩
def info (text : String) : Log := ⟨.info, text⟩
def warning (text : String) : Log := ⟨.warning, text⟩
def error (text : String) : Log := ⟨.error, text⟩

/-- The level's name in the log. -/
def Level.name : Level → String
  | .debug => "DEBUG"
  | .info => "INFO"
  | .warning => "WARNING"
  | .error => "ERROR"

end Log
end StatefulRoles
