import TaskRules.Number.Word
import TaskRules.Signature

/-!
Errors from their description: the name of a kind, the values it is raised with in order, and those
that are given by name. Every kind of the engine's own says which values it has to be raised with.
-/

namespace TaskRules.Fault

/-- The values of the kinds that have names for them. -/
def signature? (kind : String) : Option Signature :=
  match kind with
  | "UnsupportedActionError" => some { name := kind, required := ["action_type"] }
  | "EntityNotFoundError" => some { name := kind, required := ["entity", "entity_id"] }
  | "TaskSequenceConflictError" =>
    some { name := kind, required := ["project_id", "task_number", "slug"] }
  | "ActionFailedError" =>
    some { name := kind, required := ["message"], options := ["retryable", "data"] }
  | "ExecutionTimeoutError" =>
    some { name := kind, required := ["rule_id", "timeout_sec"], options := ["cancelled"] }
  | "AuditWriteError" => some { name := kind, required := ["rule_id", "cause"] }
  | _ => none

/-- The error of a kind whose values have no names. -/
def unnamed (kind : String) (values : List Json) : Fault :=
  let message := (Foreign.mk .runtime values).text
  match kind with
  | "AutomationError" => .engine message
  | "ConditionSpecError" => .badCondition message
  | "ActionConfigError" => .badConfig message
  | "ConnectionError" => .foreign ⟨.connection, values⟩
  | "TimeoutError" => .foreign ⟨.timeout, values⟩
  | "ValueError" => .foreign ⟨.value, values⟩
  | "KeyError" => .foreign ⟨.key, values⟩
  | "OSError" => .foreign ⟨.system, values⟩
  | "TypeError" => .foreign ⟨.type, values⟩
  | _ => .foreign ⟨.runtime, values⟩

/-- Checks the count that an error which could be done later may tell: a whole number of 64 bits. -/
def checkCount (f : Foreign) : Except Fault Unit :=
  match f.details with
  | _ :: _ :: count :: _ =>
    if f.name != "BlockingIOError" then .ok ()
    else
      match count with
      | .int n =>
        if Word.fits n then .ok ()
        else .error (.ofForeign .value "cannot fit 'int' into an index-sized integer")
      | .double _ =>
        .error (.ofForeign .type "'float' object cannot be interpreted as an integer")
      | _ => .ok ()
  | _ => .ok ()

/-- The error of a kind with its values by name. -/
def named (kind : String) (f : Json.Fields) : Fault :=
  let value (name : String) : Json := (Json.Fields.get? f name).getD .null
  let valueOr (name : String) (default : Json) : Json := (Json.Fields.get? f name).getD default
  match kind with
  | "EntityNotFoundError" => .notFound (value "entity").display (value "entity_id")
  | "TaskSequenceConflictError" =>
    .sequenceTaken (value "project_id") (value "task_number") (value "slug")
  | "ActionFailedError" =>
    .actionFailed (value "message").display (valueOr "retryable" (.bool true)) (value "data")
  | "ExecutionTimeoutError" =>
    .timedOut (value "rule_id") (value "timeout_sec") (valueOr "cancelled" (.bool false))
  | "AuditWriteError" => .auditFailed (value "rule_id") (value "cause").display
  | _ => .unsupportedAction (value "action_type")

/-- The error that a kind and its values describe. -/
def described (kind : String) (values : List Json) (options : Json.Fields) : Except Fault Fault :=
  match signature? kind with
  | some s => (s.bind values options).map (named kind)
  | none =>
    if !options.isEmpty then
      .error (.ofForeign .type (kind ++ "() takes no keyword arguments"))
    else
      match unnamed kind values with
      | .foreign f => (checkCount f).map fun _ => .foreign f
      | e => .ok e

/-- The error that is raised when one of a kind is to be: this error, or what is wrong with its
values. -/
def raised (kind : String) (values : List Json) (options : Json.Fields) : Fault :=
  match described kind values options with
  | .ok e => e
  | .error e => e

end TaskRules.Fault
