import TaskRules.Fault
import TaskRules.Store.Row

/-!
The database: one list of rows per table, in the order they were added. Adding a row that clashes
with one there in a primary key or a unique column violates a constraint. References between tables
are not enforced. An operation that fails gives no new database, so nothing of it remains.
-/

namespace TaskRules

structure Database where
  users : List User := []
  projects : List Project := []
  statuses : List Status := []
  labels : List Label := []
  tasks : List Task := []
  assignments : List Assignment := []
  taggings : List Tagging := []
  comments : List Comment := []
  notifications : List Notification := []
  rules : List StoredRule := []
  executions : List Execution := []

/-- Adds a row to a table unless it clashes with one there. -/
def addRow (clashes : α → α → Bool) (rows : List α) (row : α) : Except Fault (List α) :=
  if rows.any (clashes row) then .error .constraint else .ok (rows ++ [row])

/-! ## What clashes -/

def User.clashes (a b : User) : Bool := a.id == b.id || a.email == b.email

def Project.clashes (a b : Project) : Bool := a.id == b.id || a.slug == b.slug

def Status.clashes (a b : Status) : Bool := a.id == b.id

def Label.clashes (a b : Label) : Bool := a.id == b.id

/-- Tasks of a project differ in number and in slug. -/
def Task.clashes (a b : Task) : Bool :=
  a.id == b.id || (a.projectId == b.projectId && (a.number == b.number || a.slug == b.slug))

def Assignment.clashes (a b : Assignment) : Bool := a.taskId == b.taskId && a.userId == b.userId

def Tagging.clashes (a b : Tagging) : Bool := a.taskId == b.taskId && a.labelId == b.labelId

def Comment.clashes (a b : Comment) : Bool := a.id == b.id

def Notification.clashes (a b : Notification) : Bool := a.id == b.id

def StoredRule.clashes (a b : StoredRule) : Bool := a.rule.id == b.rule.id

def Execution.clashes (a b : Execution) : Bool := a.id == b.id

/-! ## Look-ups by key -/

namespace Database

def user? (db : Database) (id : String) : Option User := db.users.find? (·.id == id)

def project? (db : Database) (id : String) : Option Project := db.projects.find? (·.id == id)

def status? (db : Database) (id : String) : Option Status := db.statuses.find? (·.id == id)

def label? (db : Database) (id : String) : Option Label := db.labels.find? (·.id == id)

def task? (db : Database) (id : String) : Option Task := db.tasks.find? (·.id == id)

def rule? (db : Database) (id : String) : Option StoredRule := db.rules.find? (·.rule.id == id)

def execution? (db : Database) (id : String) : Option Execution :=
  db.executions.find? (·.id == id)

/-- The assignments of a task. -/
def assignmentsOf (db : Database) (taskId : String) : List Assignment :=
  db.assignments.filter (·.taskId == taskId)

/-- The taggings of a task. -/
def taggingsOf (db : Database) (taskId : String) : List Tagging :=
  db.taggings.filter (·.taskId == taskId)

end Database

/-- A row that a needed column is open in violates a constraint. -/
def rowOrFault (row : Option α) : Except Fault α :=
  match row with
  | some r => .ok r
  | none => .error .constraint

/-- The order of texts by code points. -/
def textLe (a b : String) : Bool := !Text.before b a

end TaskRules
