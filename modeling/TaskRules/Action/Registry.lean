import TaskRules.Action.Perform
import TaskRules.Payload

/-!
The handlers of a rule engine, one for each kind of action, and the dispatch of one action to its
handler. Dispatch turns every fault of the configuration into a failed result; whatever a handler
raises after that is passed on.
-/

namespace TaskRules.Action

/-- Handles one kind of action. `prepare` checks a configuration and gives the work under it, whose
result is `none` when the work does not end as long as anyone waits for it. -/
structure Handler where
  kind : ActionKind
  prepare : Json.Fields → Schema.Checked (Payload → Context → Script (Option Result))

namespace Handler

/-- The handler of a kind that performs its action. -/
def standard (maxAttempts : Json) (kind : ActionKind) : Handler where
  kind := kind
  prepare fields :=
    (readFields kind fields).map fun c payload context => do
      return some (← perform maxAttempts c payload context)

/-- A handler that takes any configuration and always ends in the same way. -/
def fixed (kind : ActionKind) (ending : Except Fault (Option Result)) : Handler where
  kind := kind
  prepare _ := .ok fun _ _ => .done ending

end Handler

/-- The handlers in the order they were registered. -/
structure Registry where
  handlers : List Handler := []

namespace Registry

def find? (r : Registry) (kind : ActionKind) : Option Handler :=
  r.handlers.find? (·.kind = kind)

/-- The kind that a value names. -/
def kind? : Json → Option ActionKind
  | .str s => ActionKind.ofName? s
  | _ => none

/-- Adds a handler for the kind that a value names; each kind has one handler at most. -/
def register (r : Registry) (kind : Json) (handler : ActionKind → Handler) :
    Except Fault Registry :=
  match kind? kind with
  | none => .error (.ofForeign .value (kind.literal ++ " is not a valid ActionType"))
  | some k =>
    if (r.find? k).isSome then
      .error (.ofForeign .value ("Handler already registered for " ++ k.name))
    else .ok ⟨r.handlers ++ [handler k]⟩

/-- The kinds without a handler. -/
def missing (r : Registry) : List ActionKind := ActionKind.all.filter fun k => (r.find? k).isNone

def ensureComplete (r : Registry) : Except Fault Unit :=
  match r.missing with
  | [] => .ok ()
  | kinds =>
    .error (.ofForeign .runtime
      ("No handler registered for: " ++ Text.join ", " (kinds.map ActionKind.name)))

/-- The handler for the kind that a value names. -/
def handlerFor (r : Registry) (kind : Json) : Except Fault Handler :=
  match kind? kind with
  | none => .error (.unsupportedAction kind)
  | some k =>
    match r.find? k with
    | some handler => .ok handler
    | none => .error (.unsupportedAction (.str k.name))

/-- All kinds with the handlers that perform them. -/
def standard (maxAttempts : Json) : Registry := ⟨ActionKind.all.map (Handler.standard maxAttempts)⟩

def logger : String := "action_registry"

/-- A fault of the configuration as a failed result. -/
def configFailure : Except Fault (Option Result) → Except Fault (Option Result)
  | .error e =>
    if e.isConfig then
      .ok (some { Result.failure e.text with retryable := e.retryableValue })
    else .error e
  | r => r

/-- The work of a handler under a configuration. -/
def handle (handler : Handler) (config : Json.Fields) (payload : Except Fault Payload)
    (context : Context) : Script (Option Result) :=
  match handler.prepare config with
  | .error problems =>
    pure (some (.failure ("Invalid " ++ handler.kind.name ++ " configuration: " ++
      Schema.describe problems)))
  | .ok work =>
    match payload with
    | .error e => .raise e
    | .ok payload => (work payload context).settle configFailure

/-- Dispatches an action to the handler of its kind. A payload that cannot be read is noticed
last. -/
def dispatch (r : Registry) (kind config : Json) (payload : Except Fault Payload)
    (context : Context) : Script (Option Result) :=
  match r.handlerFor kind with
  | .error e => do
    Script.request (.log (Log.warning logger ("Rule " ++ context.ruleId.display ++ ": " ++ e.text)))
    return some (.failure e.text)
  | .ok handler =>
    if !config.truthy then pure (some (.failure "Action configuration is required"))
    else
      match config with
      | .obj fields => handle handler fields payload context
      | _ => pure (some (.failure "Action configuration must be an object"))

end Registry
end TaskRules.Action
