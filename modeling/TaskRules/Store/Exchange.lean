import TaskRules.Store.Row

/-!
Rows as JSON objects, one field per column, and back. Reading takes what the columns keep; a column
that is left open has its default, and without one the row is none.
-/

namespace TaskRules

open Column

def User.toFields (r : User) : Json.Fields :=
  [("id", .str r.id), ("email", .str r.email), ("first_name", .ofText? r.firstName),
    ("last_name", .ofText? r.lastName), ("is_active", .bool r.isActive),
    ("created_at", ofMoment r.createdAt)]

def User.ofFields? (f : Json.Fields) (id : String) (now : Moment) : Option User := do
  return {
    id := (text? f "id").getD id
    email := ← text? f "email"
    firstName := text? f "first_name"
    lastName := text? f "last_name"
    isActive := (flag? f "is_active").getD true
    createdAt := (moment? f "created_at").getD now }

def Project.toFields (r : Project) : Json.Fields :=
  [("id", .str r.id), ("name", .str r.name), ("slug", .str r.slug),
    ("workflow_id", .ofText? r.workflowId), ("created_at", ofMoment r.createdAt),
    ("updated_at", ofMoment r.updatedAt)]

def Project.ofFields? (f : Json.Fields) (id : String) (now : Moment) : Option Project := do
  return {
    id := (text? f "id").getD id
    name := ← text? f "name"
    slug := ← text? f "slug"
    workflowId := text? f "workflow_id"
    createdAt := (moment? f "created_at").getD now
    updatedAt := (moment? f "updated_at").getD now }

def Status.toFields (r : Status) : Json.Fields :=
  [("id", .str r.id), ("workflow_id", .str r.workflowId), ("name", .str r.name),
    ("category", .str r.category), ("position", r.position.toJson),
    ("is_default", .bool r.isDefault)]

def Status.ofFields? (f : Json.Fields) (id : String) (_ : Moment) : Option Status := do
  return {
    id := (text? f "id").getD id
    workflowId := ← text? f "workflow_id"
    name := ← text? f "name"
    category := (text? f "category").getD "TODO"
    position := (quantity? f "position").getD (.int 0)
    isDefault := (flag? f "is_default").getD false }

def Label.toFields (r : Label) : Json.Fields :=
  [("id", .str r.id), ("project_id", .str r.projectId), ("name", .str r.name),
    ("color", .ofText? r.color)]

def Label.ofFields? (f : Json.Fields) (id : String) (_ : Moment) : Option Label := do
  return {
    id := (text? f "id").getD id
    projectId := ← text? f "project_id"
    name := ← text? f "name"
    color := text? f "color" }

def Task.toFields (r : Task) : Json.Fields :=
  [("id", .str r.id), ("project_id", .str r.projectId), ("task_number", r.number.toJson),
    ("slug", .str r.slug), ("title", .str r.title), ("description", .ofText? r.description),
    ("type", .str r.type), ("priority", .str r.priority), ("status_id", .str r.statusId),
    ("sprint_id", .ofText? r.sprintId), ("parent_task_id", .ofText? r.parentTaskId),
    ("due_date", ofMoment? r.dueDate), ("start_date", ofMoment? r.startDate),
    ("created_by", .ofText? r.createdBy), ("updated_by", .ofText? r.updatedBy),
    ("created_at", ofMoment r.createdAt), ("updated_at", ofMoment r.updatedAt)]

def Task.ofFields? (f : Json.Fields) (id : String) (now : Moment) : Option Task := do
  return {
    id := (text? f "id").getD id
    projectId := ← text? f "project_id"
    number := ← quantity? f "task_number"
    slug := ← text? f "slug"
    title := ← text? f "title"
    description := text? f "description"
    type := (text? f "type").getD "TASK"
    priority := (text? f "priority").getD "MEDIUM"
    statusId := ← text? f "status_id"
    sprintId := text? f "sprint_id"
    parentTaskId := text? f "parent_task_id"
    dueDate := moment? f "due_date"
    startDate := moment? f "start_date"
    createdBy := text? f "created_by"
    updatedBy := text? f "updated_by"
    createdAt := (moment? f "created_at").getD now
    updatedAt := (moment? f "updated_at").getD now }

/-- The columns that a draft gives. -/
def Task.Draft.toFields (d : Task.Draft) : Json.Fields :=
  [("project_id", d.projectId), ("task_number", d.number), ("slug", d.slug), ("title", d.title),
    ("description", d.description), ("type", d.type), ("priority", d.priority),
    ("status_id", d.statusId), ("sprint_id", d.sprintId), ("due_date", ofMoment? d.dueDate),
    ("start_date", ofMoment? d.startDate), ("created_by", d.createdBy)]

def Task.Draft.ofFields (f : Json.Fields) : Task.Draft :=
  { projectId := value f "project_id"
    number := value f "task_number"
    slug := value f "slug"
    title := value f "title"
    description := value f "description"
    type := value f "type"
    priority := value f "priority"
    statusId := value f "status_id"
    sprintId := value f "sprint_id"
    dueDate := moment? f "due_date"
    startDate := moment? f "start_date"
    createdBy := value f "created_by" }

def Assignment.toFields (r : Assignment) : Json.Fields :=
  [("task_id", .str r.taskId), ("user_id", .str r.userId), ("assigned_at", ofMoment r.assignedAt)]

def Assignment.ofFields? (f : Json.Fields) (_ : String) (now : Moment) : Option Assignment := do
  return {
    taskId := ← text? f "task_id"
    userId := ← text? f "user_id"
    assignedAt := (moment? f "assigned_at").getD now }

def Tagging.toFields (r : Tagging) : Json.Fields :=
  [("task_id", .str r.taskId), ("label_id", .str r.labelId)]

def Tagging.ofFields? (f : Json.Fields) (_ : String) (_ : Moment) : Option Tagging := do
  return { taskId := ← text? f "task_id", labelId := ← text? f "label_id" }

def Comment.toFields (r : Comment) : Json.Fields :=
  [("id", .str r.id), ("task_id", .str r.taskId), ("author_id", .ofText? r.authorId),
    ("content", .str r.content), ("created_at", ofMoment r.createdAt)]

def Comment.ofFields? (f : Json.Fields) (id : String) (now : Moment) : Option Comment := do
  return {
    id := (text? f "id").getD id
    taskId := ← text? f "task_id"
    authorId := text? f "author_id"
    content := ← text? f "content"
    createdAt := (moment? f "created_at").getD now }

def Notification.toFields (r : Notification) : Json.Fields :=
  [("id", .str r.id), ("user_id", .str r.userId), ("title", .str r.title),
    ("message", .str r.message), ("type", .str r.type), ("is_read", .bool r.isRead),
    ("data", r.data), ("created_at", ofMoment r.createdAt)]

def Notification.ofFields? (f : Json.Fields) (id : String) (now : Moment) :
    Option Notification := do
  return {
    id := (text? f "id").getD id
    userId := ← text? f "user_id"
    title := ← text? f "title"
    message := ← text? f "message"
    type := (text? f "type").getD "AUTOMATION"
    isRead := (flag? f "is_read").getD false
    data := json f "data" .null
    createdAt := (moment? f "created_at").getD now }

/-- The columns that a draft gives. -/
def Notification.Draft.toFields (d : Notification.Draft) : Json.Fields :=
  [("user_id", d.userId), ("title", d.title), ("message", d.message), ("type", d.type),
    ("data", d.data)]

def Notification.Draft.ofFields (f : Json.Fields) : Notification.Draft :=
  { userId := value f "user_id"
    title := value f "title"
    message := value f "message"
    type := value f "type"
    data := value f "data" }

def StoredRule.toFields (r : StoredRule) : Json.Fields :=
  r.rule.toFields ++ [("created_at", ofMoment r.createdAt), ("updated_at", ofMoment r.updatedAt)]

def StoredRule.ofFields? (f : Json.Fields) (id : String) (now : Moment) : Option StoredRule := do
  return {
    rule := {
      id := (text? f "id").getD id
      name := ← text? f "name"
      status := (text? f "status").getD Rule.active
      triggerType := ← text? f "trigger_type"
      actionType := ← text? f "action_type"
      triggerConfig := json f "trigger_config" .null
      conditions := json f "conditions" .null
      actionConfig := json f "action_config" .null
      projectId := text? f "project_id"
      createdBy := text? f "created_by"
      description := text? f "description" }
    createdAt := (moment? f "created_at").getD now
    updatedAt := (moment? f "updated_at").getD now }

def Execution.toFields (r : Execution) : Json.Fields :=
  [("id", .str r.id), ("rule_id", .str r.ruleId), ("trigger_type", .str r.triggerType),
    ("trigger_data", r.triggerData), ("action_result", r.actionResult),
    ("success", .bool r.success), ("outcome", .str r.outcome),
    ("execution_time_ms", r.elapsedMs.toJson), ("error_message", .ofText? r.errorMessage),
    ("triggered_by_id", .ofText? r.triggeredById), ("created_by", .ofText? r.createdBy),
    ("job_id", .ofText? r.jobId), ("created_at", ofMoment r.createdAt)]

def Execution.ofFields? (f : Json.Fields) (id : String) (now : Moment) : Option Execution := do
  return {
    id := (text? f "id").getD id
    ruleId := ← text? f "rule_id"
    triggerType := ← text? f "trigger_type"
    triggerData := json f "trigger_data" (.obj [])
    actionResult := json f "action_result" .null
    success := ← flag? f "success"
    outcome := ← text? f "outcome"
    elapsedMs := (quantity? f "execution_time_ms").getD (.int 0)
    errorMessage := text? f "error_message"
    triggeredById := text? f "triggered_by_id"
    createdBy := text? f "created_by"
    jobId := text? f "job_id"
    createdAt := (moment? f "created_at").getD now }

/-- The columns that a draft gives. -/
def Execution.Draft.toFields (d : Execution.Draft) : Json.Fields :=
  [("rule_id", d.ruleId), ("trigger_type", d.triggerType), ("trigger_data", d.triggerData),
    ("action_result", d.actionResult), ("success", d.success), ("outcome", d.outcome),
    ("execution_time_ms", d.elapsedMs), ("error_message", d.errorMessage),
    ("triggered_by_id", d.triggeredById), ("created_by", d.createdBy), ("job_id", d.jobId),
    ("created_at", ofMoment? d.createdAt)]

def Execution.Draft.ofFields (f : Json.Fields) : Execution.Draft :=
  { ruleId := value f "rule_id"
    triggerType := value f "trigger_type"
    triggerData := json f "trigger_data" (.obj [])
    actionResult := value f "action_result"
    success := value f "success"
    outcome := value f "outcome"
    elapsedMs := value f "execution_time_ms"
    errorMessage := value f "error_message"
    triggeredById := value f "triggered_by_id"
    createdBy := value f "created_by"
    jobId := value f "job_id"
    createdAt := moment? f "created_at" }

end TaskRules
