import TaskRules.Json.Literal

/-!
Log records, a level, the logger's name and the message, and which of them are shown.
-/

namespace TaskRules.Log

inductive Level where
  | debug
  | info
  | warning
  | error
  | critical
  deriving DecidableEq

namespace Level

def weight : Level → Int
  | .debug => 10
  | .info => 20
  | .warning => 30
  | .error => 40
  | .critical => 50

def name : Level → String
  | .debug => "DEBUG"
  | .info => "INFO"
  | .warning => "WARNING"
  | .error => "ERROR"
  | .critical => "CRITICAL"

end Level

structure Record where
  level : Level
  logger : String
  message : String

def Record.text (r : Record) : String := r.level.name ++ " " ++ r.logger ++ ": " ++ r.message

def debug (logger message : String) : Record := ⟨.debug, logger, message⟩

def info (logger message : String) : Record := ⟨.info, logger, message⟩

def warning (logger message : String) : Record := ⟨.warning, logger, message⟩

def error (logger message : String) : Record := ⟨.error, logger, message⟩

/-- What happens to a log: a record is written, or the threshold for records changes. -/
inductive Entry where
  | record (r : Record)
  | threshold (weight : Int)

/-- The records that pass the threshold of their time. -/
def shown (threshold : Int) : List Entry → List Record
  | [] => []
  | .record r :: rest =>
    if threshold ≤ r.level.weight then r :: shown threshold rest else shown threshold rest
  | .threshold weight :: rest => shown weight rest

/-- The context of a failure, ` key=value` for each value that is there. -/
def contextSuffix (context : Json.Fields) : String :=
  String.join ((context.filter fun p => !p.2.isNull).map fun p =>
    " " ++ p.1 ++ "=" ++ p.2.display)

/-- The record of a failure with its context and the error's text. -/
def failure (logger message : String) (context : Json.Fields) (errorText : String) : Record :=
  error logger (message ++ contextSuffix context ++ ": " ++ errorText)

end TaskRules.Log
