import TaskRules.Run
import TaskRules.Store.Exchange
import TaskRules.Store.Tasks

/-!
The store: a database, the clock its rows are stamped with, and a source of fresh ids, which count
up per kind of row. One call is one transaction. An attempt to add a row uses up an id even when it
fails; a check before it does not. During an outage every call that would reach the database fails,
and so does, before the tables have been created, every call that would use one.
-/

namespace TaskRules

/-- The kinds of row that have ids of their own. -/
inductive IdKind where
  | user
  | project
  | status
  | label
  | task
  | comment
  | notification
  | rule
  | execution
  deriving DecidableEq

def IdKind.stem : IdKind → String
  | .user => "user"
  | .project => "project"
  | .status => "status"
  | .label => "label"
  | .task => "task"
  | .comment => "comment"
  | .notification => "notif"
  | .rule => "rule"
  | .execution => "exec"

structure Store where
  db : Database
  /-- How many ids of each kind have been used. -/
  used : IdKind → Nat
  now : Moment
  outage : Option Fault := none
  /-- Whether the tables have been created. -/
  hasTables : Bool := true

namespace Store

def empty (now : Moment) : Store := { db := {}, used := fun _ => 0, now := now }

/-- The `n`th id of a kind. -/
def idOf (kind : IdKind) (n : Nat) : String := kind.stem ++ "-" ++ String.ofList (padded 4 n)

/-- The id that the next row of a kind gets. -/
def nextId (s : Store) (kind : IdKind) : String := idOf kind (s.used kind + 1)

/-- The store after `n` ids of a kind have been used. -/
def useIds (s : Store) (kind : IdKind) (n : Nat) : Store :=
  { s with used := fun k => if k = kind then s.used k + n else s.used k }

/-- The error that every use of a table meets, if there is one. -/
def refusal? (s : Store) : Option Fault :=
  s.outage <|> (if s.hasTables then none else some .database)

/-- A call that uses no table. -/
def reach : Run Store Unit := fun s =>
  match s.outage with
  | some e => (.error e, s)
  | none => (.ok (), s)

/-- A call that only reads. -/
def query (f : Database → Except Fault α) : Run Store α := fun s =>
  match s.refusal? with
  | some e => (.error e, s)
  | none => (f s.db, s)

/-- A call that changes the database, unless it fails. -/
def mutate (f : Database → Moment → Except Fault (α × Database)) : Run Store α := fun s =>
  match s.refusal? with
  | some e => (.error e, s)
  | none =>
    match f s.db s.now with
    | .ok (a, db) => (.ok a, { s with db := db })
    | .error e => (.error e, s)

/-- A call that adds a row, with a fresh id if it takes one. The id is used up also when adding the
row fails, unless the database is out of reach. -/
def insert (kind : IdKind) (takesId : Bool)
    (f : Database → Moment → String → Except Fault (α × Database)) : Run Store α := fun s =>
  match s.outage with
  | some e => (.error e, s)
  | none =>
    let s' := if takesId then s.useIds kind 1 else s
    match s.refusal?, f s.db s.now (s.nextId kind) with
    | some e, _ => (.error e, s')
    | none, .ok (a, db) => (.ok a, { s' with db := db })
    | none, .error e => (.error e, s')

/-! ## Rules -/

def findRule (id : Json) : Run Store (Option Rule) :=
  query fun db => do return ((← Column.key? id).bind db.rule?).map (·.rule)

/-- The rules with one rule's status set and its row stamped. -/
def withStatus (rules : List StoredRule) (id status : String) (now : Moment) : List StoredRule :=
  rules.map fun r =>
    if r.rule.id == id then { r with rule := { r.rule with status := status }, updatedAt := now }
    else r

/-- Sets a rule's status; `none` when there is no such rule. The row is stamped only when the status
changes. -/
def setStatus (id status : Json) : Run Store (Option Rule) :=
  mutate fun db now => do
    match (← Column.key? id).bind db.rule? with
    | none => return (none, db)
    | some r =>
      if status.same (.str r.rule.status) then return (some r.rule, db)
      else
        match Column.text? (← Table.rules.keep [("status", status)]) "status" with
        | some status =>
          return (some { r.rule with status := status },
            { db with rules := withStatus db.rules r.rule.id status now })
        | none => throw .constraint

/-! ## Executions -/

def insertExecution (db : Database) (now : Moment) (id : String) (d : Execution.Draft) :
    Except Fault (Execution × Database) := do
  let row ← rowOrFault (Execution.ofFields? (← Table.executions.keep d.toFields) id now)
  let rows ← addRow Execution.clashes db.executions row
  return (row.handedOut, { db with executions := rows })

def createExecution (d : Execution.Draft) : Run Store Execution :=
  insert .execution true (insertExecution · · · d)

/-- What a listing asks for, with values as they were handed in. -/
structure Listing where
  ruleId : Json
  success : Json := .null
  since : Option Moment := none
  offset : Json := .int 0
  limit : Json := .int 50

/-- A number of rows; null is none. -/
def countOf? (v : Json) : Except Fault (Option Int) :=
  match v with
  | .null => .ok none
  | .bool b => .ok (some (if b then 1 else 0))
  | v =>
    match Quantity.ofJson? v with
    | some q => some <$> q.whole
    | none =>
      .error (.ofForeign .type
        ("int() argument must be a string, a bytes-like object or a real number, not '" ++
          v.typeName ++ "'"))

/-- Later records first, those of one moment by id downwards. -/
def recordedAfter (a b : Execution) : Bool :=
  if a.createdAt = b.createdAt then textLe b.id a.id else b.createdAt.le a.createdAt

/-- The records that a listing matches, in its order. -/
def matching (db : Database) (ruleId : Json) (q : Listing) : List Execution :=
  (db.executions.filter fun e =>
    (Json.str e.ruleId).same ruleId &&
      (q.success.isNull || e.success == q.success.truthy) &&
      (match q.since with
        | some t => t.le e.createdAt
        | none => true)).mergeSort recordedAfter

/-- A window of rows; a negative limit is none. -/
def window (offset limit : Int) (rows : List α) : List α :=
  let rest := rows.drop offset.toNat
  if limit < 0 then rest else rest.take limit.toNat

/-- The records of a listing's window and the number of all that match. -/
def listExecutions (q : Listing) : Run Store (List Execution × Nat) :=
  query fun db => do
    let ruleId ← Affinity.text.store q.ruleId
    if !ColumnKind.flag.admits q.success then throw .mistyped
    let offset := (← countOf? q.offset).getD 0
    let limit := (← countOf? q.limit).getD (-1)
    if !Word.fits offset || !Word.fits limit then throw .notStorable
    let rows := matching db ruleId q
    return ((window offset limit rows).map (·.handedOut), rows.length)

/-! ## Tasks -/

def getTask (id : Json) : Run Store (Option TaskView) :=
  query fun db => do return (← Column.key? id).bind db.taskView?

def updateTask (id : Json) (c : TaskChanges) : Run Store TaskView :=
  mutate fun db now => db.updateTask now id c

def findProject (id : Json) : Run Store (Option Project) :=
  query fun db => do return (← Column.key? id).bind db.project?

/-- No workflow has no default status, and is not looked up. -/
def defaultStatus (workflowId : Json) : Run Store (Option String) :=
  if !workflowId.truthy then .done none
  else
    query fun db => do
      match ← Affinity.text.store workflowId with
      | .str id => return db.defaultStatus? id
      | _ => return none

def nextNumber (projectId : Json) : Run Store Int := query (·.nextNumber projectId)

def createTask (d : Task.Draft) (assigneeIds : Json) : Run Store TaskView := do
  let assigneeIds ← query (·.checkDraft d assigneeIds)
  insert .task true (·.insertTask · · d assigneeIds)

/-! ## Notifications and comments -/

/-- Adds the rows of drafts, with the ids from `n` on. -/
def insertNotifications (now : Moment) : Nat → List Notification.Draft → List Notification →
    Except Fault (List Notification)
  | _, [], rows => .ok rows
  | n, d :: rest, rows => do
    let row ← rowOrFault
      (Notification.ofFields? (← Table.notifications.keep d.toFields) (idOf .notification n) now)
    insertNotifications now (n + 1) rest (← addRow Notification.clashes rows row)

/-- Adds notifications, all or none, and gives their ids. -/
def notify (drafts : List Notification.Draft) : Run Store (List String) := fun s =>
  if drafts.isEmpty then (.ok [], s)
  else
    match s.refusal? with
    | some e => (.error e, s)
    | none =>
      let first := s.used .notification + 1
      let s' := s.useIds .notification drafts.length
      match insertNotifications s.now first drafts s.db.notifications with
      | .ok rows =>
        (.ok ((rows.drop s.db.notifications.length).map (·.id)),
          { s' with db := { s.db with notifications := rows } })
      | .error e => (.error e, s')

/-- A comment that was added, with the project of its task, and what was handed in. -/
structure CommentView where
  id : String
  taskId : Json
  projectId : String
  authorId : Json
  content : Json

def insertComment (db : Database) (now : Moment) (id : String) (task : Task)
    (taskId content authorId : Json) : Except Fault (CommentView × Database) := do
  let kept ← Table.comments.keep
    [("task_id", taskId), ("author_id", authorId), ("content", content)]
  let row ← rowOrFault (Comment.ofFields? kept id now)
  let rows ← addRow Comment.clashes db.comments row
  return (⟨row.id, taskId, task.projectId, authorId, content⟩, { db with comments := rows })

/-- Adds a comment to a task that is there. -/
def comment (taskId content authorId : Json) : Run Store CommentView := do
  let task ← query fun db => do
    match (← Column.key? taskId).bind db.task? with
    | some task => return task
    | none => throw (.notFound "Task" taskId)
  insert .comment true (insertComment · · · task taskId content authorId)

end Store
end TaskRules
