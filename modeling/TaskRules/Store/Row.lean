import TaskRules.Store.Column
import TaskRules.Rule

/-!
The rows of the tables, and drafts of those rows that the store adds for others. A draft holds
values as they were handed in, of any type; what its columns keep of them shows when it is added.
-/

namespace TaskRules

structure User where
  id : String
  email : String
  firstName : Option String
  lastName : Option String
  isActive : Bool
  createdAt : Moment

structure Project where
  id : String
  name : String
  slug : String
  workflowId : Option String
  createdAt : Moment
  updatedAt : Moment

structure Status where
  id : String
  workflowId : String
  name : String
  category : String
  position : Quantity
  isDefault : Bool

structure Label where
  id : String
  projectId : String
  name : String
  color : Option String

structure Task where
  id : String
  projectId : String
  number : Quantity
  slug : String
  title : String
  description : Option String
  type : String
  priority : String
  statusId : String
  sprintId : Option String
  parentTaskId : Option String
  dueDate : Option Moment
  startDate : Option Moment
  createdBy : Option String
  updatedBy : Option String
  createdAt : Moment
  updatedAt : Moment

/-- A task's link to a user it is assigned to. -/
structure Assignment where
  taskId : String
  userId : String
  assignedAt : Moment

/-- A task's link to a label. -/
structure Tagging where
  taskId : String
  labelId : String
  deriving DecidableEq

structure Comment where
  id : String
  taskId : String
  authorId : Option String
  content : String
  createdAt : Moment

structure Notification where
  id : String
  userId : String
  title : String
  message : String
  type : String
  isRead : Bool
  data : Json
  createdAt : Moment

structure StoredRule where
  rule : Rule
  createdAt : Moment
  updatedAt : Moment

/-- A record of one run of a rule. -/
structure Execution where
  id : String
  ruleId : String
  triggerType : String
  triggerData : Json
  actionResult : Json
  success : Bool
  outcome : String
  elapsedMs : Quantity
  errorMessage : Option String
  triggeredById : Option String
  createdBy : Option String
  jobId : Option String
  createdAt : Moment

/-! ## Drafts -/

structure Task.Draft where
  projectId : Json := .null
  number : Json := .null
  slug : Json := .null
  title : Json := .null
  description : Json := .null
  type : Json := .null
  priority : Json := .null
  statusId : Json := .null
  sprintId : Json := .null
  dueDate : Option Moment := none
  startDate : Option Moment := none
  createdBy : Json := .null

structure Notification.Draft where
  userId : Json := .null
  title : Json := .null
  message : Json := .null
  type : Json := .null
  data : Json := .null

structure Execution.Draft where
  ruleId : Json := .null
  triggerType : Json := .null
  triggerData : Json := .obj []
  actionResult : Json := .null
  success : Json := .null
  outcome : Json := .null
  elapsedMs : Json := .null
  errorMessage : Json := .null
  triggeredById : Json := .null
  createdBy : Json := .null
  jobId : Json := .null
  createdAt : Option Moment := none

/-- A record as it is handed out: empty trigger data is an empty object, an empty duration zero. -/
def Execution.handedOut (e : Execution) : Execution :=
  { e with
    triggerData := if e.triggerData.truthy then e.triggerData else .obj []
    elapsedMs := e.elapsedMs.orZero }

def Execution.skippedOutcome : String := "SKIPPED"

def Execution.isSkipped (e : Execution) : Bool := e.outcome == skippedOutcome

end TaskRules
