import TaskRules.Json.Basic

/-!
The outcome of a run of a rule, and the states a run goes through.
-/

namespace TaskRules.Engine

inductive State where
  | loaded
  | conditionsEvaluated
  | skipped
  | actionDispatched
  | recordedSuccess
  | recordedFailure
  | recordedSkipped
  deriving DecidableEq

def State.name : State → String
  | .loaded => "LOADED"
  | .conditionsEvaluated => "CONDITIONS_EVALUATED"
  | .skipped => "SKIPPED"
  | .actionDispatched => "ACTION_DISPATCHED"
  | .recordedSuccess => "RECORDED_SUCCESS"
  | .recordedFailure => "RECORDED_FAILURE"
  | .recordedSkipped => "RECORDED_SKIPPED"

structure Outcome where
  success : Json
  elapsedMs : Json
  skipped : Bool := false
  /-- What the action reported; null when there was none. -/
  result : Json := .null
  error : Json := .null
  recordId : Option String := none
  state : Option String := none

/-- The outcome as it is told to clients: what does not apply is left out. -/
def Outcome.toFields (o : Outcome) : Json.Fields :=
  [("success", o.success), ("executionTimeMs", o.elapsedMs)] ++
    (if o.skipped then [("skipped", .bool true)] else []) ++
    (if o.result.isNull then [] else [("result", o.result)]) ++
    (if o.error.truthy then [("error", o.error)] else [])

end TaskRules.Engine
