import TaskRules.Action.Kind
import TaskRules.Schema.Check
import TaskRules.Text.Case

/-!
The configuration of an action, one form per kind. Rule authors write field names in camel case;
the plain names are read too, and unknown fields are ignored.
-/

namespace TaskRules.Action

/-- A date-valued setting after a bare date has been recognised: midnight of that date, or a value
that is still to be read. -/
inductive When where
  | moment (t : Timestamp)
  | value (v : Json)

/-- A text is trimmed; ten characters that are a date mean its midnight, ten that are none stay
as they were. -/
def parseWhen (v : Json) : When :=
  match v with
  | .str s =>
    let text := Text.trim s.toList
    if Text.size text = 10 then
      match Date.ofTen? text with
      | some d => .moment (.plain (.midnight d))
      | none => .value v
    else .value (.str (String.ofList text))
  | _ => .value v

def whenCheck (v : Json) : Schema.Checked Timestamp :=
  match parseWhen v with
  | .moment t => .ok t
  | .value w => Schema.timestamp w

/-- A date that may be null. -/
def nullableWhen (v : Json) : Schema.Checked (Option Timestamp) := Schema.nullable whenCheck v

/-- A date that null and the empty text leave out. -/
def optionalWhen (v : Json) : Schema.Checked (Option Timestamp) :=
  match v with
  | .str "" => .ok none
  | _ => nullableWhen v

/-- A word of a vocabulary, in any case and with blanks around it. -/
def wordOf (names : List String) (v : Json) : Schema.Checked String :=
  match v with
  | .str s => Schema.oneOf names (.str (String.ofList (Text.upper (Text.trim s.toList))))
  | _ => Schema.oneOf names v

/-- The first occurrences, in order. -/
def distinct (ids : List String) : List String :=
  (ids.foldl (fun seen id => if seen.contains id then seen else id :: seen) []).reverse

/-- The distinct ids that are not empty, in order of first appearance. -/
def cleaned (ids : List String) : List String := (distinct ids).filter (· != "")

structure AssignTask where
  taskId : Option String
  assigneeIds : List String
  replaceExisting : Bool

structure ChangeStatus where
  taskId : Option String
  statusId : String

structure AddLabel where
  taskId : Option String
  labelId : String

structure SendNotification where
  userId : Option String
  userIds : List String
  message : String
  title : String
  type : String

structure AddComment where
  taskId : Option String
  content : String
  authorId : Option String

structure ChangePriority where
  taskId : Option String
  priority : String

structure SetDueDate where
  taskId : Option String
  dueDate : Option Timestamp

structure CreateTask where
  projectId : String
  title : Option String
  description : Option String
  type : String
  priority : String
  statusId : Option String
  assigneeIds : List String
  dueDate : Option Timestamp
  startDate : Option Timestamp
  sprintId : Option String

inductive Config where
  | assignTask (c : AssignTask)
  | changeStatus (c : ChangeStatus)
  | addLabel (c : AddLabel)
  | sendNotification (c : SendNotification)
  | addComment (c : AddComment)
  | changePriority (c : ChangePriority)
  | setDueDate (c : SetDueDate)
  | createTask (c : CreateTask)

/-- The users a notification goes to: the single one first, then the list. -/
def SendNotification.recipients (c : SendNotification) : List String :=
  cleaned ((match c.userId with
    | some id => if id = "" then [] else [id]
    | none => []) ++ c.userIds)

open Schema (Checked required optional nullable text filledText list flag)

def taskIdField (fields : Json.Fields) : Checked (Option String) :=
  optional fields ["taskId", "task_id"] none (nullable text)

/-- A list of assignees is needed; a single `assigneeId` stands in when no list is given. -/
def withSingleAssignee (fields : Json.Fields) : Json.Fields :=
  let given (name : String) : Bool :=
    match Json.Fields.get? fields name with
    | some v => v.truthy
    | none => false
  if given "assigneeIds" || given "assignee_ids" then fields
  else
    match Json.Fields.get? fields "assigneeId" with
    | none => fields
    | some .null => fields
    | some (.arr ids) => Json.Fields.put fields "assigneeIds" (.arr ids)
    | some id => Json.Fields.put fields "assigneeIds" (.arr [id])

def assigneeList (v : Json) : Checked (List String) :=
  (list text v).also fun ids =>
    let ids := cleaned ids
    if ids.isEmpty then .fail (.refused "at least one assignee is required") else .ok ids

def readAssignTask (fields : Json.Fields) : Checked AssignTask :=
  let fields := withSingleAssignee fields
  (((Checked.and (.ok AssignTask.mk) (taskIdField fields)).and
    (required fields ["assigneeIds", "assignee_ids"] assigneeList)).and
    (optional fields ["replaceExisting", "replace_existing"] false flag))

def readChangeStatus (fields : Json.Fields) : Checked ChangeStatus :=
  (Checked.and (.ok ChangeStatus.mk) (taskIdField fields)).and
    (required fields ["statusId", "status_id"] filledText)

def readAddLabel (fields : Json.Fields) : Checked AddLabel :=
  (Checked.and (.ok AddLabel.mk) (taskIdField fields)).and
    (required fields ["labelId", "label_id"] filledText)

def readSendNotification (fields : Json.Fields) : Checked SendNotification :=
  (((((Checked.and (.ok SendNotification.mk)
    (optional fields ["userId", "user_id"] none (nullable text))).and
    (optional fields ["userIds", "user_ids"] [] (list text))).and
    (required fields ["message"] filledText)).and
    (optional fields ["title"] "Automation Notification" text)).and
    (optional fields ["type"] "AUTOMATION" text)).also fun c =>
      if c.recipients.isEmpty then .fail (.refused "userId or userIds is required") else .ok c

def readAddComment (fields : Json.Fields) : Checked AddComment :=
  ((Checked.and (.ok AddComment.mk) (taskIdField fields)).and
    (required fields ["content"] filledText)).and
    (optional fields ["authorId", "author_id"] none (nullable text))

def readChangePriority (fields : Json.Fields) : Checked ChangePriority :=
  (Checked.and (.ok ChangePriority.mk) (taskIdField fields)).and
    (required fields ["priority"] (wordOf priorities))

/-- The due date has to be given; null clears it. -/
def readSetDueDate (fields : Json.Fields) : Checked SetDueDate :=
  (Checked.and (.ok SetDueDate.mk) (taskIdField fields)).and
    (required fields ["dueDate", "due_date"] nullableWhen)

def readCreateTask (fields : Json.Fields) : Checked CreateTask :=
  (((((((((Checked.and (.ok CreateTask.mk)
    (required fields ["projectId", "project_id"] filledText)).and
    (optional fields ["title"] none (nullable text))).and
    (optional fields ["description"] none (nullable text))).and
    (optional fields ["type"] "TASK" (wordOf taskTypes))).and
    (optional fields ["priority"] "MEDIUM" (wordOf priorities))).and
    (optional fields ["statusId", "status_id"] none (nullable text))).and
    (optional fields ["assigneeIds", "assignee_ids"] [] (list text))).and
    (optional fields ["dueDate", "due_date"] none optionalWhen)).and
    (optional fields ["startDate", "start_date"] none optionalWhen)).and
    (optional fields ["sprintId", "sprint_id"] none (nullable text))

/-- A configuration whose fields are read into its form. -/
def readFields (kind : ActionKind) (fields : Json.Fields) : Checked Config :=
  match kind with
  | .assignTask => (readAssignTask fields).map .assignTask
  | .changeStatus => (readChangeStatus fields).map .changeStatus
  | .addLabel => (readAddLabel fields).map .addLabel
  | .sendNotification => (readSendNotification fields).map .sendNotification
  | .addComment => (readAddComment fields).map .addComment
  | .changePriority => (readChangePriority fields).map .changePriority
  | .setDueDate => (readSetDueDate fields).map .setDueDate
  | .createTask => (readCreateTask fields).map .createTask

/-- Reads the configuration of an action of some kind. -/
def read (kind : ActionKind) (v : Json) : Checked Config :=
  (Schema.formFields kind.formName v).also (readFields kind)

def timeJson (t : Option Timestamp) : Json := Json.ofOption (fun t => .str t.iso) t

def textsJson (ids : List String) : Json := .arr (ids.map .str)

/-- The configuration with all its fields. -/
def Config.toFields : Config → Json.Fields
  | .assignTask c =>
    [("taskId", .ofText? c.taskId), ("assigneeIds", textsJson c.assigneeIds),
      ("replaceExisting", .bool c.replaceExisting)]
  | .changeStatus c => [("taskId", .ofText? c.taskId), ("statusId", .str c.statusId)]
  | .addLabel c => [("taskId", .ofText? c.taskId), ("labelId", .str c.labelId)]
  | .sendNotification c =>
    [("userId", .ofText? c.userId), ("userIds", textsJson c.userIds),
      ("message", .str c.message), ("title", .str c.title), ("type", .str c.type)]
  | .addComment c =>
    [("taskId", .ofText? c.taskId), ("content", .str c.content),
      ("authorId", .ofText? c.authorId)]
  | .changePriority c => [("taskId", .ofText? c.taskId), ("priority", .str c.priority)]
  | .setDueDate c => [("taskId", .ofText? c.taskId), ("dueDate", timeJson c.dueDate)]
  | .createTask c =>
    [("projectId", .str c.projectId), ("title", .ofText? c.title),
      ("description", .ofText? c.description), ("type", .str c.type),
      ("priority", .str c.priority), ("statusId", .ofText? c.statusId),
      ("assigneeIds", textsJson c.assigneeIds), ("dueDate", timeJson c.dueDate),
      ("startDate", timeJson c.startDate), ("sprintId", .ofText? c.sprintId)]

end TaskRules.Action
