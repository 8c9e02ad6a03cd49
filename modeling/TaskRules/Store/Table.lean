import TaskRules.Store.Column

/-!
The tables, their names and their columns.
-/

namespace TaskRules

inductive Table where
  | users
  | projects
  | statuses
  | labels
  | tasks
  | assignments
  | taggings
  | comments
  | notifications
  | rules
  | executions
  deriving DecidableEq

namespace Table

def all : List Table :=
  [.users, .projects, .statuses, .labels, .tasks, .assignments, .taggings, .comments,
    .notifications, .rules, .executions]

def name : Table → String
  | .users => "users"
  | .projects => "projects"
  | .statuses => "task_statuses"
  | .labels => "labels"
  | .tasks => "tasks"
  | .assignments => "task_assignees"
  | .taggings => "task_labels"
  | .comments => "task_comments"
  | .notifications => "notifications"
  | .rules => "automation_rules"
  | .executions => "rule_executions"

def ofName? (s : String) : Option Table := all.find? (·.name == s)

/-- What a row of the table is called. -/
def rowName : Table → String
  | .users => "User"
  | .projects => "Project"
  | .statuses => "TaskStatus"
  | .labels => "Label"
  | .tasks => "Task"
  | .assignments => "TaskAssignee"
  | .taggings => "TaskLabel"
  | .comments => "TaskComment"
  | .notifications => "Notification"
  | .rules => "AutomationRule"
  | .executions => "RuleExecution"

/-- The columns in order. -/
def columns : Table → List (String × ColumnKind)
  | .users =>
    [("id", .text), ("email", .text), ("first_name", .text), ("last_name", .text),
      ("is_active", .flag), ("created_at", .moment)]
  | .projects =>
    [("id", .text), ("name", .text), ("slug", .text), ("workflow_id", .text),
      ("created_at", .moment), ("updated_at", .moment)]
  | .statuses =>
    [("id", .text), ("workflow_id", .text), ("name", .text), ("category", .text),
      ("position", .quantity), ("is_default", .flag)]
  | .labels => [("id", .text), ("project_id", .text), ("name", .text), ("color", .text)]
  | .tasks =>
    [("id", .text), ("project_id", .text), ("task_number", .quantity), ("slug", .text),
      ("title", .text), ("description", .text), ("type", .text), ("priority", .text),
      ("status_id", .text), ("sprint_id", .text), ("parent_task_id", .text),
      ("due_date", .moment), ("start_date", .moment), ("created_by", .text),
      ("updated_by", .text), ("created_at", .moment), ("updated_at", .moment)]
  | .assignments => [("task_id", .text), ("user_id", .text), ("assigned_at", .moment)]
  | .taggings => [("task_id", .text), ("label_id", .text)]
  | .comments =>
    [("id", .text), ("task_id", .text), ("author_id", .text), ("content", .text),
      ("created_at", .moment)]
  | .notifications =>
    [("id", .text), ("user_id", .text), ("title", .text), ("message", .text), ("type", .text),
      ("is_read", .flag), ("data", .json), ("created_at", .moment)]
  | .rules =>
    [("id", .text), ("name", .text), ("description", .text), ("status", .text),
      ("trigger_type", .text), ("trigger_config", .json), ("conditions", .json),
      ("action_type", .text), ("action_config", .json), ("project_id", .text),
      ("created_by", .text), ("created_at", .moment), ("updated_at", .moment)]
  | .executions =>
    [("id", .text), ("rule_id", .text), ("trigger_type", .text), ("trigger_data", .json),
      ("action_result", .json), ("success", .flag), ("outcome", .text),
      ("execution_time_ms", .quantity), ("error_message", .text), ("triggered_by_id", .text),
      ("created_by", .text), ("job_id", .text), ("created_at", .moment)]

def hasColumn (t : Table) (name : String) : Bool := t.columns.any (·.1 == name)

/-- The columns of moments. -/
def moments (t : Table) : List String := (t.columns.filter (·.2 == .moment)).map (·.1)

/-- What the columns of a row keep of the fields that are given. Kinds are looked at before anything
is handed over. -/
def keep (t : Table) (fields : Json.Fields) : Except Fault Json.Fields :=
  let given := t.columns.filterMap fun c => (Json.Fields.get? fields c.1).map (c, ·)
  if given.any fun p => !p.1.2.admits p.2 then .error .mistyped
  else given.mapM fun p => do return (p.1.1, ← p.1.2.store p.2)

end Table
end TaskRules
