import TaskRules.Fault
import TaskRules.Log
import TaskRules.Text.Blank
import TaskRules.Text.Case
import TaskRules.Text.Digit

/-!
Where log records go. Setting up logging gives the process its threshold and its handlers, unless it
has handlers already; the loggers of busy libraries keep at least the level of warnings either way.
-/

namespace TaskRules.Log

/-- The weights that level names stand for. -/
def levelNames : List (String × Int) :=
  [("NOTSET", 0), ("DEBUG", 10), ("INFO", 20), ("WARN", 30), ("WARNING", 30), ("ERROR", 40),
    ("CRITICAL", 50), ("FATAL", 50)]

/-- The weight of a level given as a text in any case; other texts mean INFO. -/
def weightNamed (s : String) : Int :=
  let name := String.ofList (Text.upper (Text.trim s.toList))
  match levelNames.find? (·.1 == name) with
  | some (_, weight) => weight
  | none => 20

/-- The level that is given as a number, which stays as it is, or as a text. -/
def levelOf (level : Json) : Except Fault Json :=
  match level with
  | .int n => .ok (.int n)
  | .bool b => .ok (.bool b)
  | .str s => .ok (.int (weightNamed s))
  | v => .error (.lacks v "strip")

/-- The weight of a level that is a number; a flag weighs 1 or 0. -/
def weigh : Json → Int
  | .int n => n
  | v => if v.truthy then 1 else 0

/-- The weight of a level. -/
def weightOf (level : Json) : Except Fault Int := weigh <$> levelOf level

/-- The name that a weight is shown by. -/
def nameOf (weight : Int) : String :=
  if weight = 0 then "NOTSET"
  else if weight = 10 then "DEBUG"
  else if weight = 20 then "INFO"
  else if weight = 30 then "WARNING"
  else if weight = 40 then "ERROR"
  else if weight = 50 then "CRITICAL"
  else "Level " ++ decimal weight

/-- The loggers that are kept quiet, and with them all loggers below. -/
def quietLoggers : List String := ["paho.mqtt.client", "sqlalchemy.engine"]

inductive Handler where
  | console
  | file
  deriving DecidableEq

def Handler.name : Handler → String
  | .console => "StreamHandler"
  | .file => "FileHandler"

structure Setup where
  /-- The process's level, as it was given. -/
  level : Json
  handlers : List Handler
  /-- The threshold of the quiet loggers. -/
  quiet : Int

/-- Sets up logging at a level, into a file as well if asked for. A process that has handlers keeps
them and its threshold, which is that of warnings. -/
def setup (level : Json) (toFile configured : Bool) : Setup :=
  { level := if configured then .int 30 else level
    handlers := if configured then [] else .console :: (if toFile then [.file] else [])
    quiet := max (weigh level) 30 }

/-- The name a logger goes by. -/
def loggerName (name : String) : String := if name = "" then "root" else name

/-- Whether a logger is of that name or stands below it. -/
def isWithin (name logger : String) : Bool :=
  logger == name || (name ++ ".").toList.isPrefixOf logger.toList

/-- The logger of the database library, which passes warnings unless told otherwise. -/
def libraryLogger : String := "sqlalchemy"

/-- The threshold of a logger. -/
def Setup.thresholdOf (s : Setup) (logger : String) : Int :=
  if quietLoggers.any (isWithin · logger) then s.quiet
  else if isWithin libraryLogger logger then 30
  else weigh s.level

/-- Whether a record of a weight is written. -/
def Setup.passes (s : Setup) (weight : Int) (logger : String) : Bool :=
  decide (0 < weight) && decide (s.thresholdOf logger ≤ weight)

/-- Whether a character ends a line; a carriage return and the line feed after it end one line. -/
def endsLine (c : Char) : Bool :=
  Text.inRanges [(0x0A, 0x0D), (0x1C, 0x1E), (0x85, 0x85), (0x2028, 0x2029)] c

/-- The lines of a text, each of which is ended; `line` is the start of the first of them, last
character first. -/
def endedLines (line : List Char) : List Char → List (List Char)
  | [] => if line.isEmpty then [] else [line.reverse]
  | '\r' :: '\n' :: rest => line.reverse :: endedLines [] rest
  | c :: rest =>
    if endsLine c then line.reverse :: endedLines [] rest else endedLines (c :: line) rest

/-- The form of the time that lines start with; a zero stands for any digit. -/
def timeForm : List Char := "0000-00-00 00:00:00,000 ".toList

/-- A line without the time at its start. -/
def withoutTime (line : List Char) : List Char :=
  let start := (line.take timeForm.length).map fun c =>
    if (Text.decimalValue? c).isSome then '0' else c
  if start = timeForm then line.drop timeForm.length else line

/-- The lines that a record is written as, without the time of the first. A further line that
happens to start with a time is shown without it as well. -/
def lines (weight : Int) (logger message : String) : List String :=
  let text := "[" ++ nameOf weight ++ "] " ++ loggerName logger ++ ": " ++ message
  match endedLines [] (text.toList ++ ['\n']) with
  | [] => []
  | first :: rest => String.ofList first :: rest.map fun line => String.ofList (withoutTime line)

end TaskRules.Log
