import TaskRules.Json.Basic

/-!
Automation rules: what triggers them, on which conditions, and what they do. The trigger
configuration, the conditions and the action's configuration are kept as the JSON that rule authors
wrote.
-/

namespace TaskRules

structure Rule where
  id : String
  name : String
  status : String
  triggerType : String
  actionType : String
  triggerConfig : Json
  conditions : Json
  actionConfig : Json
  projectId : Option String
  createdBy : Option String
  description : Option String

namespace Rule

def active : String := "ACTIVE"

def inactive : String := "INACTIVE"

def isActive (r : Rule) : Bool := r.status == active

/-- The rule as a JSON object. -/
def toFields (r : Rule) : Json.Fields :=
  [("id", .str r.id), ("name", .str r.name), ("status", .str r.status),
    ("trigger_type", .str r.triggerType), ("action_type", .str r.actionType),
    ("trigger_config", r.triggerConfig), ("conditions", r.conditions),
    ("action_config", r.actionConfig), ("project_id", .ofText? r.projectId),
    ("created_by", .ofText? r.createdBy), ("description", .ofText? r.description)]

end Rule
end TaskRules
