import TaskRules.Migration.Layout

/-!
The revisions of the database's tables, one after the other: first the tables of the product that
rules work on, then the rules and the records of their runs. A place in the chain is the number of
revisions below it; place 0 is the base, where there are no tables.
-/

namespace TaskRules.Migration

structure Revision where
  id : String
  /-- The tables that the revision adds. -/
  tables : List Layout

/-- The statements that carry a revision out. -/
def Revision.upward (r : Revision) : List Statement := r.tables.flatMap Layout.creation

/-- The statements that take a revision back. -/
def Revision.downward (r : Revision) : List Statement := r.tables.reverse.flatMap Layout.removal

/-! ## Kinds of column -/

/-- An id of a row. -/
def idColumn (name : String) : ColumnLayout := { name := name, type := .varchar 36 }

/-- An id that may be missing. -/
def idColumn? (name : String) : ColumnLayout := { idColumn name with nullable := true }

def textColumn (name : String) (length : Nat) : ColumnLayout :=
  { name := name, type := .varchar length }

def textColumn? (name : String) (length : Nat) : ColumnLayout :=
  { textColumn name length with nullable := true }

def wordColumn (name : String) (length : Nat) (default : String) : ColumnLayout :=
  { textColumn name length with default := some (.text default) }

def flagColumn (name : String) (default : Bool) : ColumnLayout :=
  { name := name, type := .boolean, default := some (.flag default) }

def timeColumn (name : String) : ColumnLayout := { name := name, type := .datetime }

def timeColumn? (name : String) : ColumnLayout := { timeColumn name with nullable := true }

def jsonColumn? (name : String) : ColumnLayout := { name := name, type := .json, nullable := true }

/-- The column with a reference to another table. -/
def ColumnLayout.to (c : ColumnLayout) (table : String) (cascades : Bool) : ColumnLayout :=
  { c with reference := some ⟨table, cascades⟩ }

/-! ## The tables -/

def users : Layout :=
  { name := "users"
    columns := [idColumn "id", textColumn "email" 256, textColumn? "first_name" 128,
      textColumn? "last_name" 128, flagColumn "is_active" true, timeColumn "created_at"]
    key := ["id"]
    indexes := [⟨"ix_users_email", ["email"], true⟩] }

def projects : Layout :=
  { name := "projects"
    columns := [idColumn "id", textColumn "name" 256, textColumn "slug" 64, idColumn? "workflow_id",
      timeColumn "created_at", timeColumn "updated_at"]
    key := ["id"]
    indexes := [⟨"ix_projects_slug", ["slug"], true⟩,
      ⟨"ix_projects_workflow_id", ["workflow_id"], false⟩] }

def statuses : Layout :=
  { name := "task_statuses"
    columns := [idColumn "id", idColumn "workflow_id", textColumn "name" 128,
      wordColumn "category" 16 "TODO",
      { name := "position", type := .integer, default := some (.text "0") },
      flagColumn "is_default" false]
    key := ["id"]
    indexes := [⟨"ix_task_statuses_workflow_id", ["workflow_id"], false⟩,
      ⟨"ix_task_statuses_workflow_default", ["workflow_id", "is_default"], false⟩] }

def labels : Layout :=
  { name := "labels"
    columns := [idColumn "id", (idColumn "project_id").to "projects" true, textColumn "name" 128,
      textColumn? "color" 16]
    key := ["id"]
    indexes := [⟨"ix_labels_project_id", ["project_id"], false⟩] }

def tasks : Layout :=
  { name := "tasks"
    columns := [idColumn "id", (idColumn "project_id").to "projects" true,
      { name := "task_number", type := .integer }, textColumn "slug" 96, textColumn "title" 512,
      { name := "description", type := .text, nullable := true }, wordColumn "type" 16 "TASK",
      wordColumn "priority" 16 "MEDIUM", (idColumn "status_id").to "task_statuses" false,
      idColumn? "sprint_id", idColumn? "parent_task_id", timeColumn? "due_date",
      timeColumn? "start_date", idColumn? "created_by", idColumn? "updated_by",
      timeColumn "created_at", timeColumn "updated_at"]
    key := ["id"]
    uniques := [⟨"uq_tasks_project_task_number", ["project_id", "task_number"]⟩,
      ⟨"uq_tasks_project_slug", ["project_id", "slug"]⟩]
    indexes := [⟨"ix_tasks_project_id", ["project_id"], false⟩,
      ⟨"ix_tasks_status_id", ["status_id"], false⟩, ⟨"ix_tasks_sprint_id", ["sprint_id"], false⟩] }

def assignments : Layout :=
  { name := "task_assignees"
    columns := [(idColumn "task_id").to "tasks" true, (idColumn "user_id").to "users" true,
      timeColumn "assigned_at"]
    key := ["task_id", "user_id"] }

def taggings : Layout :=
  { name := "task_labels"
    columns := [(idColumn "task_id").to "tasks" true, (idColumn "label_id").to "labels" true]
    key := ["task_id", "label_id"] }

def comments : Layout :=
  { name := "task_comments"
    columns := [idColumn "id", (idColumn "task_id").to "tasks" true, idColumn? "author_id",
      { name := "content", type := .text }, timeColumn "created_at"]
    key := ["id"]
    indexes := [⟨"ix_task_comments_task_id", ["task_id"], false⟩,
      ⟨"ix_task_comments_task_created", ["task_id", "created_at"], false⟩] }

def notifications : Layout :=
  { name := "notifications"
    columns := [idColumn "id", (idColumn "user_id").to "users" true, textColumn "title" 256,
      { name := "message", type := .text }, wordColumn "type" 32 "AUTOMATION",
      flagColumn "is_read" false, jsonColumn? "data", timeColumn "created_at"]
    key := ["id"]
    indexes := [⟨"ix_notifications_user_id", ["user_id"], false⟩,
      ⟨"ix_notifications_user_read", ["user_id", "is_read"], false⟩] }

def rules : Layout :=
  { name := "automation_rules"
    columns := [idColumn "id", textColumn "name" 256,
      { name := "description", type := .text, nullable := true }, wordColumn "status" 16 "ACTIVE",
      textColumn "trigger_type" 48, jsonColumn? "trigger_config", jsonColumn? "conditions",
      textColumn "action_type" 48, jsonColumn? "action_config", idColumn? "project_id",
      idColumn? "created_by", timeColumn "created_at", timeColumn "updated_at"]
    key := ["id"]
    indexes := [⟨"ix_automation_rules_trigger_type", ["trigger_type"], false⟩,
      ⟨"ix_automation_rules_project_id", ["project_id"], false⟩,
      ⟨"ix_automation_rules_project_trigger_status", ["project_id", "trigger_type", "status"],
        false⟩] }

def executions : Layout :=
  { name := "rule_executions"
    columns := [idColumn "id", idColumn "rule_id", textColumn "trigger_type" 48,
      { name := "trigger_data", type := .binaryJson }, jsonColumn? "action_result",
      { name := "success", type := .boolean }, textColumn "outcome" 16,
      { name := "execution_time_ms", type := .integer, default := some (.text "0") },
      { name := "error_message", type := .text, nullable := true }, idColumn? "triggered_by_id",
      idColumn? "created_by", textColumn? "job_id" 64, timeColumn "created_at"]
    key := ["id"]
    indexes := [⟨"ix_rule_executions_rule_id", ["rule_id"], false⟩,
      ⟨"ix_rule_executions_job_id", ["job_id"], false⟩,
      ⟨"ix_rule_executions_rule_created", ["rule_id", "created_at"], false⟩,
      ⟨"ix_rule_executions_rule_success", ["rule_id", "success"], false⟩] }

/-! ## The chain -/

/-- The tables of the product. -/
def hostRevision : Revision :=
  { id := "20261017_01"
    tables := [users, projects, statuses, labels, tasks, assignments, taggings, comments,
      notifications] }

/-- Rules and the records of their runs. -/
def automationRevision : Revision := { id := "20261017_02", tables := [rules, executions] }

def chain : List Revision := [hostRevision, automationRevision]

/-- All tables. -/
def allTables : List Layout := chain.flatMap (·.tables)

/-- The place of the last revision. -/
def head : Nat := chain.length

/-- The place of a revision. -/
def place? (id : String) : Option Nat := (chain.findIdx? (·.id == id)).map (· + 1)

/-- The id of the revision at a place; the base has none. -/
def idAt? (place : Nat) : Option String :=
  match place with
  | 0 => none
  | n + 1 => (chain[n]?).map (·.id)

end TaskRules.Migration
