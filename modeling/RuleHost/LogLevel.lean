/-! The levels at which the host logs, from the most to the least talkative. -/

namespace RuleHost

inductive LogLevel where
  | trace | debug | info | warn | error
deriving DecidableEq

namespace LogLevel

def all : List LogLevel := [.trace, .debug, .info, .warn, .error]

/-- The name used in configurations and on the command line. -/
def name : LogLevel → String
  | .trace => "trace"
  | .debug => "debug"
  | .info => "info"
  | .warn => "warn"
  | .error => "error"

/-- The name used in front of a log line. -/
def label : LogLevel → String
  | .trace => "TRACE"
  | .debug => "DEBUG"
  | .info => "INFO"
  | .warn => "WARN"
  | .error => "ERROR"

/-- The level a log starts with. -/
def default : LogLevel := .info

def ofName? (text : String) : Option LogLevel := all.find? fun level => level.name == text

/-- Finds a level by its name, on request without regard to the case of ASCII letters. -/
def choose? (text : String) (ignoreCase : Bool) : Option LogLevel :=
  ofName? (if ignoreCase then text.toLower else text)

def severity : LogLevel → Nat
  | .trace => 0
  | .debug => 1
  | .info => 2
  | .warn => 3
  | .error => 4

/-- Whether a log that starts at one level shows messages of another. -/
def shows (least level : LogLevel) : Bool := least.severity ≤ level.severity

end LogLevel
end RuleHost
