import TaskRules.Action.Config
import TaskRules.Store.Database
import TaskRules.Store.Exchange
import TaskRules.Store.Table

/-!
Operations on tasks. Each reads one database and gives a new one or fails: a missing task, status,
user or label is reported by name, a taken number or slug as a taken sequence.
-/

namespace TaskRules

/-- A task as others see it: with its status's name, its assignees in the order they were assigned
and its labels in the order of their ids. -/
structure TaskView where
  id : String
  projectId : String
  number : Quantity
  slug : String
  title : String
  type : String
  priority : String
  statusId : String
  statusName : Option String := none
  description : Option String := none
  dueDate : Option Moment := none
  sprintId : Option String := none
  createdBy : Option String := none
  assigneeIds : List String := []
  labelIds : List String := []

/-- One change of a task, with values as they were handed in; what is null stays as it is. -/
structure TaskChanges where
  statusId : Json := .null
  priority : Json := .null
  dueDate : Option Moment := none
  clearDueDate : Bool := false
  assigneeIds : Json := .null
  replaceAssignees : Bool := false
  addLabelIds : Json := .arr []
  updatedBy : Json := .null

/-- What the columns of a task keep of a change's values. -/
def TaskChanges.keep (c : TaskChanges) : Except Fault Json.Fields :=
  Table.tasks.keep [("status_id", c.statusId), ("priority", c.priority),
    ("updated_by", if c.updatedBy.truthy then c.updatedBy else .null)]

namespace Database

/-- Earlier assignments first, users of one moment by id. -/
def assignedBefore (a b : Assignment) : Bool :=
  if a.assignedAt = b.assignedAt then textLe a.userId b.userId else a.assignedAt.le b.assignedAt

def viewOf (db : Database) (t : Task) : TaskView :=
  { id := t.id
    projectId := t.projectId
    number := t.number
    slug := t.slug
    title := t.title
    type := t.type
    priority := t.priority
    statusId := t.statusId
    statusName := if t.statusId = "" then none else (db.status? t.statusId).map (·.name)
    description := t.description
    dueDate := t.dueDate
    sprintId := t.sprintId
    createdBy := t.createdBy
    assigneeIds := ((db.assignmentsOf t.id).mergeSort assignedBefore).map (·.userId)
    labelIds := ((db.taggingsOf t.id).map (·.labelId)).mergeSort textLe }

def taskView? (db : Database) (id : String) : Option TaskView := (db.task? id).map db.viewOf

/-- The values of a list that differ, in order of first appearance. -/
def differing : List Json → Except Fault (List Json)
  | [] => .ok []
  | v :: rest => do
    let v ← Fault.nameOf v
    return v :: (← differing rest).filter fun w => !v.same w

/-- The user that a value names, which has to be there under that text. -/
def requireUser (db : Database) (v : Json) : Except Fault String :=
  match v with
  | .str id => if (db.user? id).isSome then .ok id else .error (.notFound "User" v)
  | v => .error (.notFound "User" v)

/-- Every user of a list has to be there; the first that is not is reported. Each is taken once. -/
def requireUsers (db : Database) (users : Json) : Except Fault (List String) := do
  let ids ← differing (← Fault.itemsOf users)
  ids.forM fun v => do let _ ← handedOver v
  ids.mapM db.requireUser

/-- The status that a value names. -/
def requireStatus (db : Database) (v : Json) : Except Fault Unit := do
  match (← Column.key? v).bind db.status? with
  | some _ => return ()
  | none => throw (.notFound "Task status" v)

/-- The label that a value names, and that can be looked up among the labels of a task. -/
def requireLabel (db : Database) (taskId v : Json) : Except Fault String := do
  match (← Column.key? v).bind db.label? with
  | some label =>
    let _ ← Fault.nameOf taskId
    let _ ← Fault.nameOf v
    return label.id
  | none => throw (.notFound "Label" v)

/-- The fields of a task after a change. -/
def changedTask (t : Task) (c : TaskChanges) (kept : Json.Fields) (now : Moment) : Task :=
  { t with
    statusId := (Column.text? kept "status_id").getD t.statusId
    priority := (Column.text? kept "priority").getD t.priority
    dueDate := if c.clearDueDate then none else c.dueDate <|> t.dueDate
    updatedBy := Column.text? kept "updated_by" <|> t.updatedBy
    updatedAt := now }

/-- The assignments after a task is assigned to users. Replacing removes the links of other users; a
link that is already there stays as it was. -/
def changedAssignments (db : Database) (taskId : String) (replace : Bool) (wanted : List String)
    (now : Moment) : List Assignment :=
  let existing := (db.assignmentsOf taskId).map (·.userId)
  let kept :=
    if replace then
      db.assignments.filter fun a => a.taskId != taskId || wanted.contains a.userId
    else db.assignments
  kept ++ (wanted.filter fun id => !existing.contains id).map (⟨taskId, ·, now⟩)

/-- The labels that a task does not have yet. -/
def newLabels (db : Database) (taskId : String) (ids : List String) : List String :=
  let existing := (db.taggingsOf taskId).map (·.labelId)
  ids.filter fun id => !existing.contains id

/-- Whether a list names something twice. -/
def hasRepeat : List String → Bool
  | [] => false
  | id :: rest => rest.contains id || hasRepeat rest

/-- Applies a change to a task, as a whole or not at all. A label that is new to the task may be
named only once. -/
def updateTask (db : Database) (now : Moment) (id : Json) (c : TaskChanges) :
    Except Fault (TaskView × Database) := do
  let some t := (← Column.key? id).bind db.task? | throw (.notFound "Task" id)
  if !c.statusId.isNull then db.requireStatus c.statusId
  let assignments ←
    match c.assigneeIds with
    | .null => pure db.assignments
    | users => do
      let wanted ← db.requireUsers users
      let _ ← handedOver id
      pure (db.changedAssignments t.id c.replaceAssignees wanted now)
  let labels := db.newLabels t.id
    (← (← Fault.itemsOf c.addLabelIds).mapM (db.requireLabel id))
  let t' := changedTask t c (← c.keep) now
  if hasRepeat labels then throw .constraint
  let db' :=
    { db with
      tasks := db.tasks.map fun u => if u.id == t.id then t' else u
      assignments := assignments
      taggings := db.taggings ++ labels.map (⟨t.id, ·⟩) }
  return (db'.viewOf t', db')

/-- The default status of a workflow: the first by position of those marked as default. -/
def defaultStatus? (db : Database) (workflowId : String) : Option String :=
  (((db.statuses.filter fun s => s.workflowId == workflowId && s.isDefault).mergeSort
    fun a b => a.position.le b.position).head?).map (·.id)

/-- The largest task number of a project. -/
def largestNumber? (db : Database) (projectId : String) : Option Quantity :=
  ((db.tasks.filter (·.projectId == projectId)).map (·.number)).foldl
    (fun largest n =>
      match largest with
      | none => some n
      | some m => some (if n.le m then m else n)) none

/-- The number after the largest one of a project. -/
def nextNumber (db : Database) (projectId : Json) : Except Fault Int := do
  match ← Affinity.text.store projectId with
  | .str id =>
    match db.largestNumber? id with
    | some n => return (← n.orZero.whole) + 1
    | none => return 1
  | _ => return 1

/-- What has to be there before a task is added: its status and its assignees. -/
def checkDraft (db : Database) (d : Task.Draft) (assigneeIds : Json) :
    Except Fault (List String) := do
  if d.statusId.truthy then db.requireStatus d.statusId
  db.requireUsers assigneeIds

/-- Whether a project has a task of a new row's number or slug. -/
def sequenceTaken (db : Database) (kept : Json.Fields) : Bool :=
  db.tasks.any fun t => Column.text? kept "project_id" == some t.projectId &&
    (Column.quantity? kept "task_number" == some t.number ||
      Column.text? kept "slug" == some t.slug)

/-- Adds a task and its assignments. When the row cannot be added because its number or slug is
taken, that is what is reported. -/
def insertTask (db : Database) (now : Moment) (id : String) (d : Task.Draft)
    (assigneeIds : List String) : Except Fault (TaskView × Database) := do
  let kept ← Table.tasks.keep d.toFields
  match rowOrFault (Task.ofFields? kept id now) >>= fun t =>
      (addRow Task.clashes db.tasks t).map (t, ·) with
  | .ok (t, tasks) =>
    let links := assigneeIds.map (⟨t.id, ·, now⟩)
    let db' := { db with tasks := tasks, assignments := db.assignments ++ links }
    if links.any fun a => db.assignments.any a.clashes then throw .constraint
    return (db'.viewOf t, db')
  | .error e =>
    if db.sequenceTaken kept then throw (.sequenceTaken d.projectId d.number d.slug) else throw e

end Database

def TaskView.toFields (t : TaskView) : Json.Fields :=
  [("id", .str t.id), ("project_id", .str t.projectId), ("task_number", t.number.toJson),
    ("slug", .str t.slug), ("title", .str t.title), ("type", .str t.type),
    ("priority", .str t.priority), ("status_id", .str t.statusId),
    ("status_name", .ofText? t.statusName), ("description", .ofText? t.description),
    ("due_date", Column.ofMoment? t.dueDate), ("sprint_id", .ofText? t.sprintId),
    ("created_by", .ofText? t.createdBy), ("assignee_ids", Action.textsJson t.assigneeIds),
    ("label_ids", Action.textsJson t.labelIds)]

namespace TaskView

/-- A task in an event, from its fields, its due date and its assignees. -/
def eventForm (f : Json.Fields) (due : Json) (assignees : List Json) : Json.Fields :=
  let value := Column.value f
  [("id", value "id"), ("projectId", value "project_id"), ("taskNumber", value "task_number"),
    ("slug", value "slug"), ("title", value "title"), ("type", value "type"),
    ("priority", value "priority"), ("statusId", value "status_id"), ("dueDate", due),
    ("sprintId", value "sprint_id"), ("assigneeIds", .arr assignees)]

/-- The task in an event. -/
def eventFields (t : TaskView) : Json.Fields :=
  eventForm t.toFields (Json.ofOption (.str ·.iso) t.dueDate) (t.assigneeIds.map .str)

end TaskView
end TaskRules
