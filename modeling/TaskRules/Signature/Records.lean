import TaskRules.Signature

/-!
What the records that callers hand over are made from.
-/

namespace TaskRules.Signature

/-- The fields of records that are moments. -/
def moments : List String := ["due_date", "start_date", "created_at"]

def rule : Signature :=
  { name := "RuleDefinition"
    required := ["id", "name", "status", "trigger_type", "action_type"]
    further :=
      ["trigger_config", "conditions", "action_config", "project_id", "created_by", "description"] }

/-- Where an action comes from. -/
def context : Signature :=
  { name := "ActionContext"
    required := ["rule_id"]
    further := ["rule_owner", "triggered_by", "project_id"] }

/-- What an action reports. -/
def result : Signature :=
  { name := "ActionResult"
    required := ["success"]
    further := ["data", "error", "retryable"] }

def outcome : Signature :=
  { name := "ExecutionOutcome"
    required := ["success", "execution_time_ms"]
    further := ["skipped", "result", "error", "record_id", "state"] }

/-- A task as others see it. -/
def task : Signature :=
  { name := "TaskSnapshot"
    required :=
      ["id", "project_id", "task_number", "slug", "title", "type", "priority", "status_id"]
    further :=
      ["status_name", "description", "due_date", "sprint_id", "created_by", "assignee_ids",
        "label_ids"] }

/-- One change of a task. -/
def changes : Signature :=
  { name := "TaskChanges"
    required := []
    further :=
      ["status_id", "priority", "due_date", "clear_due_date", "assignee_ids", "replace_assignees",
        "add_label_ids", "updated_by"] }

/-- A task that is to be added. -/
def draft : Signature :=
  { name := "TaskDraft"
    required := ["project_id", "task_number", "slug", "title", "status_id"]
    further :=
      ["type", "priority", "description", "assignee_ids", "due_date", "start_date", "sprint_id",
        "created_by"] }

/-- A notification that is to be added. -/
def notice : Signature :=
  { name := "NotificationDraft"
    required := ["user_id", "title", "message"]
    further := ["type", "data"] }

/-- The record of a run that is to be added. -/
def record : Signature :=
  { name := "ExecutionRecord"
    required :=
      ["rule_id", "trigger_type", "trigger_data", "success", "outcome", "execution_time_ms"]
    further :=
      ["action_result", "error_message", "triggered_by_id", "created_by", "job_id", "id",
        "created_at"] }

end TaskRules.Signature
