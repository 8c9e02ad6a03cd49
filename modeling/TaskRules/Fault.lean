import TaskRules.Json.Literal
import TaskRules.Number.Numeral
import TaskRules.Schema.Check

/-!
Errors. The engine's own errors say whether running the same job again could succeed; errors of
collaborators (the database, the broker, reading a number) carry what they were raised with.
-/

namespace TaskRules

/-- The kinds of error that collaborators raise. -/
inductive ForeignKind where
  | connection
  | timeout
  | runtime
  | value
  | key
  | type
  | system
  | overflow
  | notImplemented
  | fileNotFound
  | attribute
  | assertion
  /-- A driver of a database that is not installed. -/
  | moduleNotFound
  /-- A text holds half of a surrogate pair, which no encoding can write. -/
  | encoding
  /-- JSON text cannot be read. -/
  | json
  /-- The target of a request is no URL. -/
  | badTarget
  /-- A request is sent on and on. -/
  | redirects
  /-- A request asks for a connection that stays open. -/
  | staysOpen
  /-- A reference to an option is malformed. -/
  | optionSyntax
  /-- An option refers to one that is not there. -/
  | missingOption
  /-- Options refer to each other without end. -/
  | endlessOption
  deriving DecidableEq

/-- Whether errors of a kind tell their text to clients, and not only to the log. -/
def ForeignKind.tellsText : ForeignKind → Bool
  | .json => false
  | .badTarget => false
  | .redirects => false
  | .staysOpen => false
  | .optionSyntax => false
  | .missingOption => false
  | .endlessOption => false
  | _ => true

/-- The name of a system error with a known number. -/
def systemErrorName (number : Int) : String :=
  if number = 2 then "FileNotFoundError"
  else if number = 1 ∨ number = 13 then "PermissionError"
  else if number = 3 then "ProcessLookupError"
  else if number = 4 then "InterruptedError"
  else if number = 10 then "ChildProcessError"
  else if number = 11 ∨ number = 114 ∨ number = 115 then "BlockingIOError"
  else if number = 17 then "FileExistsError"
  else if number = 20 then "NotADirectoryError"
  else if number = 21 then "IsADirectoryError"
  else if number = 32 ∨ number = 108 then "BrokenPipeError"
  else if number = 103 then "ConnectionAbortedError"
  else if number = 104 then "ConnectionResetError"
  else if number = 110 then "TimeoutError"
  else if number = 111 then "ConnectionRefusedError"
  else "OSError"

/-- An error of a collaborator: its kind and what it was raised with. -/
structure Foreign where
  kind : ForeignKind
  details : List Json

namespace Foreign

def name (f : Foreign) : String :=
  match f.kind with
  | .connection => "ConnectionError"
  | .timeout => "TimeoutError"
  | .runtime => "RuntimeError"
  | .value => "ValueError"
  | .key => "KeyError"
  | .type => "TypeError"
  | .overflow => "OverflowError"
  | .notImplemented => "NotImplementedError"
  | .fileNotFound => "FileNotFoundError"
  | .attribute => "AttributeError"
  | .assertion => "AssertionError"
  | .moduleNotFound => "ModuleNotFoundError"
  | .encoding => "UnicodeEncodeError"
  | .json => "JSONDecodeError"
  | .badTarget => "InvalidURL"
  | .redirects => "TooManyRedirects"
  | .staysOpen => "_Upgrade"
  | .optionSyntax => "InterpolationSyntaxError"
  | .missingOption => "InterpolationMissingOptionError"
  | .endlessOption => "InterpolationDepthError"
  | .system =>
    match f.details with
    | number :: _ :: rest =>
      match number with
      | .int n => if rest.length ≤ 3 then systemErrorName n else "OSError"
      | .bool b => if b && rest.length ≤ 3 then systemErrorName 1 else "OSError"
      | _ => "OSError"
    | _ => "OSError"

/-- Whether the error is one of the system's, which show their number. -/
def isSystem (f : Foreign) : Bool :=
  match f.kind with
  | .connection => true
  | .timeout => true
  | .system => true
  | .fileNotFound => true
  | _ => false

/-- Several details in parentheses. -/
def tuple (details : List Json) : String :=
  "(" ++ Text.join ", " (details.map Json.literal) ++ ")"

/-- What a system error tells of the files it is about. The third of the details is a file, and the
fifth another one; one that could be done later tells a count there instead. -/
def filesText (f : Foreign) : List Json → String
  | [] => ""
  | .null :: _ => ""
  | file :: rest =>
    if f.name = "BlockingIOError" && file.numeric?.isSome then ""
    else ": " ++ file.literal ++
      (match rest with
        | [_, .null] => ""
        | [_, other] => " -> " ++ other.literal
        | _ => "")

/-- The text: a single detail, or all of them in parentheses. A system error of two to five details
shows its number, what happened and to which files. -/
def text (f : Foreign) : String :=
  match f.details with
  | [] => ""
  | [d] => if f.kind = .key then d.literal else d.display
  | number :: what :: rest =>
    if f.isSystem && decide (rest.length ≤ 3) then
      "[Errno " ++ number.display ++ "] " ++ what.display ++ f.filesText rest
    else tuple f.details

end Foreign

inductive Fault where
  /-- An error of the engine without a kind of its own. -/
  | engine (message : String)
  /-- A condition that cannot be read. -/
  | badCondition (message : String)
  /-- An action's configuration that cannot be used. -/
  | badConfig (message : String)
  | unsupportedAction (kind : Json)
  | notFound (entity : String) (id : Json)
  /-- Another writer has taken the task number or slug. -/
  | sequenceTaken (project : Json) (number : Json) (slug : Json)
  /-- The action reported failure. -/
  | actionFailed (message : String) (retryable : Json) (data : Json)
  /-- The action did not end in time; when cancelled it never starts. -/
  | timedOut (rule : Json) (limit : Json) (cancelled : Json)
  /-- The execution record could not be written. -/
  | auditFailed (rule : Json) (cause : String)
  /-- A row violates a constraint of its table. -/
  | constraint
  /-- The database cannot be used: it cannot be opened, or a table is missing or there already. -/
  | database
  /-- A value that no statement can hand to the database. -/
  | unbindable
  /-- A value that is not of its column's type. -/
  | mistyped
  /-- A key that is not of the form of its table's keys. -/
  | badKey
  /-- A migration that cannot be carried out. -/
  | migration (message : String)
  /-- There is no plugin of that name for the URL of a database. -/
  | unknownPlugin (name : String)
  /-- The URL of a database cannot be used. -/
  | badUrl (message : String)
  | foreign (f : Foreign)
  /-- A form with problems. -/
  | invalid (problems : List Schema.Problem)

namespace Fault

def ofForeign (kind : ForeignKind) (message : String) : Fault :=
  .foreign ⟨kind, [.str message]⟩

def ofNumeral (fault : NumeralFault) : Fault := ofForeign .value fault.message

/-- The error of asking a value for an attribute that values of its type do not have. -/
def lacks (v : Json) (what : String) : Fault :=
  ofForeign .attribute ("'" ++ v.typeName ++ "' object has no attribute '" ++ what ++ "'")

/-- The error of writing a text with lone halves, which tells where the first of them are. -/
def notEncodable (cs : List Char) : Fault :=
  let points := Text.points cs
  let before := points.takeWhile (!Text.isHalf ·)
  let halves := (points.drop before.length).takeWhile Text.isHalf
  let last := before.length + halves.length - 1
  ofForeign .encoding ("'utf-8' codec can't encode character" ++
    (match halves with
      | [half] => " '\\u" ++ String.ofList (Text.hex 4 half) ++ "' in position " ++ decimal last
      | _ => "s in position " ++ decimal before.length ++ "-" ++ decimal last) ++
    ": surrogates not allowed")

/-- A value as a name to look things up by; lists and objects cannot be one. -/
def nameOf (v : Json) : Except Fault Json :=
  match v with
  | .arr _ => .error (.ofForeign .type ("unhashable type: '" ++ v.typeName ++ "'"))
  | .obj _ => .error (.ofForeign .type ("unhashable type: '" ++ v.typeName ++ "'"))
  | v => .ok v

/-- The items of a value that is gone through, which has to be a sequence. -/
def itemsOf (v : Json) : Except Fault (List Json) :=
  match v.sequence? with
  | some items => .ok items
  | none => .error (.ofForeign .type ("'" ++ v.typeName ++ "' object is not iterable"))

/-- The fields of a value, which has to be an object unless it is empty. -/
def fieldsOf (v : Json) : Except Fault Json.Fields :=
  match v with
  | .obj fields => .ok fields
  | v => if v.truthy then .error (lacks v "items") else .ok []

def taskIdMissing : Fault :=
  .badConfig "taskId is required in the action config or the trigger payload"

/-- The name of the kind of error, which stands in for an empty text. -/
def name : Fault → String
  | .engine _ => "AutomationError"
  | .badCondition _ => "ConditionSpecError"
  | .badConfig _ => "ActionConfigError"
  | .unsupportedAction _ => "UnsupportedActionError"
  | .notFound .. => "EntityNotFoundError"
  | .sequenceTaken .. => "TaskSequenceConflictError"
  | .actionFailed .. => "ActionFailedError"
  | .timedOut .. => "ExecutionTimeoutError"
  | .auditFailed .. => "AuditWriteError"
  | .constraint => "IntegrityError"
  | .database => "OperationalError"
  | .migration _ => "CommandError"
  | .unbindable => "ProgrammingError"
  | .mistyped => "StatementError"
  | .badKey => "InvalidRequestError"
  | .unknownPlugin _ => "NoSuchModuleError"
  | .badUrl _ => "ArgumentError"
  | .foreign f => f.name
  | .invalid _ => "ValidationError"

/-- The error's text. The database's own wording is not part of it. -/
def text : Fault → String
  | .engine message => message
  | .badCondition message => message
  | .badConfig message => message
  | .unsupportedAction kind => "Unsupported action type: " ++ kind.display
  | .notFound entity id => entity ++ " " ++ id.display ++ " not found"
  | .sequenceTaken project number slug =>
    "Task number " ++ number.display ++ " (" ++ slug.display ++ ") already exists in project " ++
      project.display
  | .actionFailed message _ _ => message
  | .timedOut .. => "timeout"
  | .auditFailed rule cause => "Audit write failed for rule " ++ rule.display ++ ": " ++ cause
  | .constraint => ""
  | .database => ""
  | .unbindable => ""
  | .mistyped => ""
  | .badKey => ""
  | .migration message => message
  | .unknownPlugin name => "Can't load plugin: " ++ name
  | .badUrl message => message
  | .foreign f => f.text
  | .invalid problems => Schema.describe problems

/-- The text, or the name of the error when the text is blank. -/
def message (e : Fault) : String :=
  let text := Text.trimmed e.text
  if text = "" then e.name else text

/-- Whether the error is one of the engine's own. -/
def isEngine : Fault → Bool
  | .engine _ => true
  | .badCondition _ => true
  | .badConfig _ => true
  | .unsupportedAction _ => true
  | .notFound .. => true
  | .sequenceTaken .. => true
  | .actionFailed .. => true
  | .timedOut .. => true
  | .auditFailed .. => true
  | _ => false

/-- Whether the error tells its text to clients. What the database says is left to the log. -/
def tellsText : Fault → Bool
  | .migration _ => true
  | .foreign f => f.kind.tellsText
  | e => e.isEngine

/-- Whether running the same job again could succeed, as the error tells it; errors of collaborators
always could. -/
def retryableValue : Fault → Json
  | .badCondition _ => .bool false
  | .badConfig _ => .bool false
  | .unsupportedAction _ => .bool false
  | .actionFailed _ retryable _ => retryable
  | _ => .bool true

/-- Whether running the same job again could succeed. -/
def retryable (e : Fault) : Bool := e.retryableValue.truthy

/-- The named kinds of error that this one belongs to, the narrowest first. -/
def lineage : Fault → List String
  | .engine _ => ["AutomationError", "RuntimeError"]
  | .badCondition _ => ["ConditionSpecError", "AutomationError", "RuntimeError", "ValueError"]
  | .badConfig _ => ["ActionConfigError", "AutomationError", "RuntimeError", "ValueError"]
  | .unsupportedAction _ =>
    ["UnsupportedActionError", "ActionConfigError", "AutomationError", "RuntimeError", "ValueError"]
  | .notFound .. => ["EntityNotFoundError", "AutomationError", "RuntimeError"]
  | .sequenceTaken .. => ["TaskSequenceConflictError", "AutomationError", "RuntimeError"]
  | .actionFailed .. => ["ActionFailedError", "AutomationError", "RuntimeError"]
  | .timedOut .. => ["ExecutionTimeoutError", "AutomationError", "RuntimeError", "TimeoutError"]
  | .auditFailed .. => ["AuditWriteError", "AutomationError", "RuntimeError"]
  | .foreign f =>
    let n := f.name
    if n = "ValueError" ∨ n = "TimeoutError" ∨ n = "RuntimeError" then [n] else []
  | .invalid _ => ["ValueError"]
  | _ => []

/-- Whether the action's configuration is at fault. -/
def isConfig : Fault → Bool
  | .badConfig _ => true
  | .unsupportedAction _ => true
  | _ => false

/-- The error as a JSON object: its name, its text or problems, and what else it tells. -/
def toFields (e : Fault) : Json.Fields :=
  [("error", .str e.name)] ++
    (if e.tellsText then [("message", .str e.text)] else []) ++
    (match e with
      | .invalid problems => [("fields", .arr (problems.map Schema.Problem.toJson))]
      | _ => []) ++
    (if e.isEngine then [("retryable", e.retryableValue)] else []) ++
    (match e with
      | .timedOut _ _ cancelled => [("cancelled", cancelled)]
      | _ => [])

end Fault
end TaskRules
