import TaskRules.Action.Script
import TaskRules.Condition.Path

/-!
The eight actions. Each makes one change in the store and then tells clients, one event per thing
changed; its result names what was changed. Creating a task first looks up the next free number and
tries again when another writer has taken it in between.
-/

namespace TaskRules.Action

/-- Where an action comes from. -/
structure Context where
  ruleId : Json
  owner : Json := .null
  triggeredBy : Json := .null

/-- The first of two texts that is there and not empty, or else the second. -/
def orElse (a b : Option String) : Option String :=
  match a with
  | none => b
  | some "" => b
  | some s => some s

/-- Who an action is done by: who triggered it, else the rule's owner. -/
def Context.actor (c : Context) : Json := c.triggeredBy.orElse c.owner

/-- What an action reports. Handlers may report values of any type. -/
structure Result where
  success : Json
  data : Json := .obj []
  error : Json := .null
  retryable : Json := .bool false

def Result.toFields (r : Result) : Json.Fields :=
  [("success", r.success), ("data", r.data), ("error", r.error), ("retryable", r.retryable)]

def Result.ok (data : Json.Fields) : Result := { success := .bool true, data := .obj data }

def Result.failure (error : String) : Result := { success := .bool false, error := .str error }

/-- The task an action is about: the configured one, else the payload's `taskId`, else the id of the
payload's task. -/
def taskIdOf (configured : Option String) (payload : Json.Fields) : Except Fault String :=
  match orElse configured none with
  | some id => .ok id
  | none =>
    match (Json.Fields.get? payload "taskId").filter Json.truthy with
    | some id => .ok id.display
    | none =>
      match Condition.resolve (.obj payload) "task.id" with
      | .error fault => .error (.ofNumeral fault)
      | .ok found =>
        match found.filter Json.truthy with
        | some id => .ok id.display
        | none => .error .taskIdMissing

/-- The task an action on a payload of any form would be about. -/
def taskIdIn (configured : Option String) (payload : Json) : Except Fault String :=
  match orElse configured none, payload with
  | some id, _ => .ok id
  | none, .obj fields => taskIdOf none fields
  | none, v => .error (.lacks v "get")

/-- The change of a task, and the task after it. -/
def change (configured : Option String) (payload : Json.Fields) (changes : TaskChanges) :
    Script TaskView := do
  let id ← Script.done (taskIdOf configured payload)
  Script.request (.updateTask (.str id) changes)

def tell (kind : String) (data : Json.Fields) : Script Unit :=
  Script.request (.emit { kind := .str kind, data := data })

/-- Does something with each of some things in turn. -/
def each (f : α → Script Unit) : List α → Script Unit
  | [] => pure ()
  | a :: rest => do
    f a
    each f rest

def assign (c : AssignTask) (payload : Json.Fields) (context : Context) : Script Result := do
  let task ← change c.taskId payload
    { assigneeIds := textsJson c.assigneeIds, replaceAssignees := c.replaceExisting,
      updatedBy := context.actor }
  each (fun id => tell Event.taskAssigned
      [("projectId", .str task.projectId), ("taskId", .str task.id), ("assigneeId", .str id)])
    c.assigneeIds
  return .ok [("taskId", .str task.id), ("assigneeIds", textsJson task.assigneeIds),
    ("addedAssigneeIds", textsJson c.assigneeIds), ("replaceExisting", .bool c.replaceExisting)]

def changeStatus (c : ChangeStatus) (payload : Json.Fields) (context : Context) :
    Script Result := do
  let task ← change c.taskId payload { statusId := .str c.statusId, updatedBy := context.actor }
  tell Event.taskStatusChanged
    [("projectId", .str task.projectId), ("taskId", .str task.id), ("statusId", .str task.statusId),
      ("status", .obj [("id", .str task.statusId), ("name", .ofText? task.statusName)])]
  return .ok [("taskId", .str task.id), ("statusId", .str task.statusId),
    ("statusName", .ofText? task.statusName)]

def addLabel (c : AddLabel) (payload : Json.Fields) (context : Context) : Script Result := do
  let task ← change c.taskId payload
    { addLabelIds := .arr [.str c.labelId], updatedBy := context.actor }
  tell Event.taskUpdated
    [("projectId", .str task.projectId), ("taskId", .str task.id), ("labelAdded", .str c.labelId)]
  return .ok [("taskId", .str task.id), ("labelId", .str c.labelId),
    ("labelIds", textsJson task.labelIds)]

/-- The notification of one recipient. -/
def noticeFor (c : SendNotification) (context : Context) (userId : String) : Notification.Draft :=
  { userId := .str userId, title := .str c.title, message := .str c.message, type := .str c.type,
    data := .obj [("ruleId", context.ruleId)] }

/-- The event of a notification, which passes the payload on. -/
def noticeEvent (c : SendNotification) (payload : Payload) (userId noticeId : String) : Event :=
  { kind := .str Event.notification
    data :=
      [("userId", .str userId), ("notificationId", .str noticeId), ("type", .str "automation"),
        ("title", .str c.title), ("message", .str c.message)]
    payload := some payload }

def notify (c : SendNotification) (payload : Payload) (context : Context) : Script Result := do
  let ids ← Script.request (.notify (c.recipients.map (noticeFor c context)))
  each (fun p : String × String => Script.request (.emit (noticeEvent c payload p.1 p.2)))
    (c.recipients.zip ids)
  return .ok [("userIds", textsJson c.recipients), ("notificationIds", textsJson ids),
    ("message", .str c.message)]

def comment (c : AddComment) (payload : Json.Fields) (context : Context) : Script Result := do
  let id ← Script.done (taskIdOf c.taskId payload)
  let author := (Json.ofText? c.authorId).orElse context.owner
  let added ← Script.request (.comment (.str id) (.str c.content) author)
  tell Event.commentAdded
    [("projectId", .str added.projectId), ("taskId", added.taskId), ("commentId", .str added.id),
      ("content", added.content), ("authorId", added.authorId)]
  return .ok [("taskId", added.taskId), ("commentId", .str added.id), ("authorId", added.authorId)]

def changePriority (c : ChangePriority) (payload : Json.Fields) (context : Context) :
    Script Result := do
  let task ← change c.taskId payload { priority := .str c.priority, updatedBy := context.actor }
  tell Event.taskUpdated
    [("projectId", .str task.projectId), ("taskId", .str task.id), ("priority", .str task.priority)]
  return .ok [("taskId", .str task.id), ("priority", .str task.priority)]

/-- The change that a due date asks for: the date's wall clock, or clearing it. -/
def dueDateChange (due : Option Timestamp) (actor : Json) : TaskChanges :=
  match due with
  | none => { clearDueDate := true, updatedBy := actor }
  | some t => { dueDate := some t.wall, updatedBy := actor }

def setDueDate (c : SetDueDate) (payload : Json.Fields) (context : Context) : Script Result := do
  let task ← change c.taskId payload (dueDateChange c.dueDate context.actor)
  let due := Json.ofOption (fun m : Moment => .str m.iso) task.dueDate
  tell Event.taskUpdated
    [("projectId", .str task.projectId), ("taskId", .str task.id), ("dueDate", due)]
  return .ok [("taskId", .str task.id), ("dueDate", due)]

/-! ## Creating a task -/

def logger : String := "action_handlers"

/-- The title of a new task: the configured one, or one that says where the task comes from. -/
def newTitle (c : CreateTask) (payload : Json.Fields) : String :=
  match orElse c.title none with
  | some title => title
  | none =>
    let source :=
      match (Json.Fields.get? payload "taskId").filter Json.truthy with
      | some id => id.display
      | none => "automation"
    "Auto-created task from " ++ source

/-- The new task of a project under a number. -/
def newTask (c : CreateTask) (title statusId : String) (context : Context) (project : Project)
    (number : Int) : Task.Draft :=
  { projectId := .str project.id
    number := .int number
    slug := .str (project.slug ++ "-" ++ decimal number)
    title := .str title
    description := .ofText? c.description
    type := .str c.type
    priority := .str c.priority
    statusId := .str statusId
    sprintId := .ofText? c.sprintId
    dueDate := c.dueDate.map (·.wall)
    startDate := c.startDate.map (·.wall)
    createdBy := context.owner.orElse context.triggeredBy }

/-- Whether an error means that another writer has taken the number. -/
def isTaken : Fault → Bool
  | .sequenceTaken .. => true
  | _ => false

def takenNote (number : Int) (project : Project) (attempt attempts : Nat) : Log.Record :=
  Log.info logger ("Task number " ++ decimal number ++ " taken in project " ++ project.id ++
    "; retrying (" ++ decimal attempt ++ "/" ++ decimal attempts ++ ")")

/-- Looks up the next number and creates the task under it; when the number is taken, tries again
while attempts remain. -/
def claimNumber (draft : Int → Task.Draft) (assigneeIds : List String) (project : Project)
    (attempts : Nat) : (remaining : Nat) → Script TaskView
  | 0 => do
    let number ← Script.request (.nextNumber (.str project.id))
    Script.request (.createTask (draft number) (textsJson assigneeIds))
  | remaining + 1 => do
    let number ← Script.request (.nextNumber (.str project.id))
    .ask (.createTask (draft number) (textsJson assigneeIds)) fun
      | .ok task => pure task
      | .error e =>
        if isTaken e then do
          Script.request (.log (takenNote number project (attempts - (remaining + 1)) attempts))
          claimNumber draft assigneeIds project attempts remaining
        else .raise e

/-- The status of a new task: the configured one, else the default of the project's workflow. -/
def newStatus (c : CreateTask) (project : Project) : Script String := do
  let found ←
    match orElse c.statusId none with
    | some id => pure (some id)
    | none => Script.request (.defaultStatus (.ofText? project.workflowId))
  match orElse found none with
  | some id => return id
  | none => .raise (.notFound "Default status for workflow" (.ofText? project.workflowId))

/-- How often a number may be claimed: at least once. Anything but an integer cannot be counted to,
unless it is a number below 1. -/
def attemptsOf (most : Json) : Except Fault Nat :=
  match most.numeric? with
  | some (.int n) => .ok (max 1 n.toNat)
  | some (.double x) =>
    if (Double.ofInt 1).lt x then
      .error (.ofForeign .type "'float' object cannot be interpreted as an integer")
    else .ok 1
  | none =>
    .error (.unordered ">" most (.int 1))

def createTask (maxAttempts : Json) (c : CreateTask) (payload : Json.Fields) (context : Context) :
    Script Result := do
  let some project ← Script.request (.findProject (.str c.projectId))
    | .raise (.notFound "Project" (.str c.projectId))
  let statusId ← newStatus c project
  let attempts ← Script.done (attemptsOf maxAttempts)
  let task ← claimNumber (newTask c (newTitle c payload) statusId context project) c.assigneeIds
    project attempts (attempts - 1)
  tell Event.taskCreated
    [("projectId", .str task.projectId), ("taskId", .str task.id), ("task", .obj task.eventFields)]
  return .ok
    [("taskId", .str task.id), ("taskNumber", task.number.toJson), ("slug", .str task.slug)]

/-- The action that a configuration asks for. -/
def perform (maxAttempts : Json) (config : Config) (payload : Payload) (context : Context) :
    Script Result :=
  match config with
  | .assignTask c => assign c payload.named context
  | .changeStatus c => changeStatus c payload.named context
  | .addLabel c => addLabel c payload.named context
  | .sendNotification c => notify c payload context
  | .addComment c => comment c payload.named context
  | .changePriority c => changePriority c payload.named context
  | .setDueDate c => setDueDate c payload.named context
  | .createTask c => createTask maxAttempts c payload.named context

end TaskRules.Action
