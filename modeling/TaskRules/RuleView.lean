import TaskRules.Job
import TaskRules.Store.Row

/-!
How rules and execution records are shown to clients. A rule whose trigger configuration,
conditions or action configuration is neither an object nor null cannot be shown.
-/

namespace TaskRules

open Schema (Checked required optional nullable)

def shownTime (t : Option Timestamp) : Json := Json.ofOption (fun t => .str t.isoZ) t

structure RuleView where
  id : String
  name : String
  description : Option String
  status : String
  triggerType : String
  triggerConfig : Option Json.Fields
  conditions : Option Json.Fields
  actionType : String
  actionConfig : Option Json.Fields
  projectId : Option String
  createdBy : Option String
  createdAt : Option Timestamp
  updatedAt : Option Timestamp

namespace RuleView

def readFields (fields : Json.Fields) : Checked RuleView :=
  ((((((((((((Checked.and (.ok RuleView.mk)
    (required fields ["id"] Schema.text)).and
    (required fields ["name"] Schema.text)).and
    (optional fields ["description"] none (nullable Schema.text))).and
    (required fields ["status"] Schema.text)).and
    (required fields ["trigger_type"] Schema.text)).and
    (optional fields ["trigger_config"] none (nullable Schema.object))).and
    (optional fields ["conditions"] none (nullable Schema.object))).and
    (required fields ["action_type"] Schema.text)).and
    (optional fields ["action_config"] none (nullable Schema.object))).and
    (optional fields ["project_id"] none (nullable Schema.text))).and
    (optional fields ["created_by"] none (nullable Schema.text))).and
    (optional fields ["created_at"] none (nullable Schema.timestamp))).and
    (optional fields ["updated_at"] none (nullable Schema.timestamp))

def read (v : Json) : Checked RuleView := (Schema.recordFields v).also readFields

def toFields (r : RuleView) : Except Fault Json.Fields := do
  return [("id", .str r.id), ("name", .str r.name), ("description", .ofText? r.description),
    ("status", .str r.status), ("trigger_type", .str r.triggerType),
    ("trigger_config", ← Json.plain? r.triggerConfig), ("conditions", ← Json.plain? r.conditions),
    ("action_type", .str r.actionType), ("action_config", ← Json.plain? r.actionConfig),
    ("project_id", .ofText? r.projectId), ("created_by", .ofText? r.createdBy),
    ("created_at", shownTime r.createdAt), ("updated_at", shownTime r.updatedAt)]

/-- A column's value as an object or null. -/
def objectColumn : Json → Checked (Option Json.Fields) := nullable Schema.object

/-- The view of a stored rule. -/
def ofStored (r : StoredRule) : Checked RuleView :=
  Checked.and (Checked.and (Checked.and (.ok fun trigger conditions action =>
    { id := r.rule.id
      name := r.rule.name
      description := r.rule.description
      status := r.rule.status
      triggerType := r.rule.triggerType
      triggerConfig := trigger
      conditions := conditions
      actionType := r.rule.actionType
      actionConfig := action
      projectId := r.rule.projectId
      createdBy := r.rule.createdBy
      createdAt := some (.plain r.createdAt)
      updatedAt := some (.plain r.updatedAt) })
    ((objectColumn r.rule.triggerConfig).under (.name "trigger_config")))
    ((objectColumn r.rule.conditions).under (.name "conditions")))
    ((objectColumn r.rule.actionConfig).under (.name "action_config"))

end RuleView

structure ExecutionView where
  id : String
  ruleId : String
  triggerType : String
  triggerData : Json.Fields
  actionResult : Option Json.Fields
  success : Bool
  outcome : String
  elapsedMs : Int
  errorMessage : Option String
  triggeredBy : Option String
  createdBy : Option String
  jobId : Option String
  createdAt : Option Timestamp

namespace ExecutionView

def readFields (fields : Json.Fields) : Checked ExecutionView :=
  ((((((((((((Checked.and (.ok ExecutionView.mk)
    (required fields ["id"] Schema.text)).and
    (required fields ["rule_id"] Schema.text)).and
    (required fields ["trigger_type"] Schema.text)).and
    (optional fields ["trigger_data"] [] Schema.object)).and
    (optional fields ["action_result"] none (nullable Schema.object))).and
    (required fields ["success"] Schema.flag)).and
    (required fields ["outcome"] Schema.text)).and
    (required fields ["execution_time_ms"] Schema.whole)).and
    (optional fields ["error_message"] none (nullable Schema.text))).and
    (optional fields ["triggered_by_id"] none (nullable Schema.text))).and
    (optional fields ["created_by"] none (nullable Schema.text))).and
    (optional fields ["job_id"] none (nullable Schema.text))).and
    (optional fields ["created_at"] none (nullable Schema.timestamp))

def read (v : Json) : Checked ExecutionView := (Schema.recordFields v).also readFields

def toFields (e : ExecutionView) : Except Fault Json.Fields := do
  return [("id", .str e.id), ("rule_id", .str e.ruleId), ("trigger_type", .str e.triggerType),
    ("trigger_data", ← Json.plain e.triggerData),
    ("action_result", ← Json.plain? e.actionResult), ("success", .bool e.success),
    ("outcome", .str e.outcome), ("execution_time_ms", .int e.elapsedMs),
    ("error_message", .ofText? e.errorMessage), ("triggered_by_id", .ofText? e.triggeredBy),
    ("created_by", .ofText? e.createdBy), ("job_id", .ofText? e.jobId),
    ("created_at", shownTime e.createdAt)]

/-- The view of a record. Trigger data that is not an object and a duration that is not whole, which
only rows written from outside have, cannot be shown. -/
def ofRecord (e : Execution) : Checked ExecutionView :=
  Checked.and (Checked.and (Checked.and (.ok fun data result elapsed =>
    { id := e.id
      ruleId := e.ruleId
      triggerType := e.triggerType
      triggerData := data
      actionResult := result
      success := e.success
      outcome := e.outcome
      elapsedMs := elapsed
      errorMessage := e.errorMessage
      triggeredBy := e.triggeredById
      createdBy := e.createdBy
      jobId := e.jobId
      createdAt := some (.plain e.createdAt) })
    ((Schema.object e.triggerData).under (.name "trigger_data")))
    ((nullable Schema.object e.actionResult).under (.name "action_result")))
    ((Schema.whole e.elapsedMs.toJson).under (.name "execution_time_ms"))

end ExecutionView
end TaskRules
