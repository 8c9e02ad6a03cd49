/-!
The kinds of action, and the closed vocabularies of tasks and rules.
-/

namespace TaskRules

inductive ActionKind where
  | assignTask
  | changeStatus
  | addLabel
  | sendNotification
  | addComment
  | changePriority
  | setDueDate
  | createTask
  deriving DecidableEq

namespace ActionKind

def all : List ActionKind :=
  [.assignTask, .changeStatus, .addLabel, .sendNotification, .addComment, .changePriority,
    .setDueDate, .createTask]

def name : ActionKind → String
  | .assignTask => "ASSIGN_TASK"
  | .changeStatus => "CHANGE_STATUS"
  | .addLabel => "ADD_LABEL"
  | .sendNotification => "SEND_NOTIFICATION"
  | .addComment => "ADD_COMMENT"
  | .changePriority => "CHANGE_PRIORITY"
  | .setDueDate => "SET_DUE_DATE"
  | .createTask => "CREATE_TASK"

/-- The name of the kind's configuration form. -/
def formName : ActionKind → String
  | .assignTask => "AssignTaskConfig"
  | .changeStatus => "ChangeStatusConfig"
  | .addLabel => "AddLabelConfig"
  | .sendNotification => "SendNotificationConfig"
  | .addComment => "AddCommentConfig"
  | .changePriority => "ChangePriorityConfig"
  | .setDueDate => "SetDueDateConfig"
  | .createTask => "CreateTaskConfig"

/-- The kind of that exact name. -/
def ofName? (s : String) : Option ActionKind := all.find? (·.name == s)

end ActionKind

/-- Task priorities, from the lowest. -/
def priorities : List String := ["LOWEST", "LOW", "MEDIUM", "HIGH", "HIGHEST"]

def taskTypes : List String := ["TASK", "BUG", "STORY", "EPIC", "SUBTASK"]

/-- The events that can trigger a rule. -/
def triggerTypes : List String :=
  ["TASK_CREATED", "TASK_UPDATED", "TASK_STATUS_CHANGED", "TASK_ASSIGNED",
    "TASK_PRIORITY_CHANGED", "TASK_COMMENTED", "TASK_DUE_DATE_APPROACHING", "SPRINT_STARTED",
    "SPRINT_COMPLETED"]

end TaskRules
