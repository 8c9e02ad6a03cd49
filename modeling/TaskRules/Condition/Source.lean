import TaskRules.Condition.Evaluate
import TaskRules.Condition.Grammar
import TaskRules.Fault
import TaskRules.Log
import TaskRules.Rule

/-!
Where a rule's condition comes from and whether it holds: the rule's own conditions, else those of
its trigger, else the trigger's filters. A condition that cannot be read or evaluated is not met,
with a warning.
-/

namespace TaskRules.Condition

/-- The condition that a rule has in its own right or through its trigger; null when neither is
present. -/
def written (rule : Rule) : Json :=
  if rule.conditions.truthy then rule.conditions
  else
    match rule.triggerConfig.get? "conditions" with
    | some v => if v.truthy then v else .null
    | none => .null

/-- The tree of filters that a value gives. Any empty value gives none. -/
def filterTreeOf (config : Json) : Except TaskRules.Fault Tree :=
  match config with
  | .obj fields => .ok (filterTree fields)
  | v => if v.truthy then .error (.lacks v "get") else .ok (filterTree [])

/-- The condition tree of a rule. -/
def treeOf (rule : Rule) : Except Fault Tree :=
  match written rule with
  | .null => .ok (filterTree rule.triggerConfig.fields)
  | raw => parse raw

def logger : String := "automation_conditions"

/-- Whether a rule's condition holds for a payload, null counting as an empty one, and the
warnings of finding out. -/
def isMet (rule : Rule) (payload : Json) : Bool × List Log.Record :=
  match treeOf rule with
  | .error fault =>
    (false, [Log.warning logger ("Rule " ++ rule.id ++
      " has a malformed condition spec; treating as not met: " ++ fault.message)])
  | .ok tree =>
    let payload := if payload.isNull then .obj [] else payload
    match evaluate payload tree with
    | .ok b => (b, [])
    | .error fault =>
      (false, [Log.warning logger ("Rule " ++ rule.id ++
        " condition evaluation failed; treating as not met: " ++ fault.message)])

end TaskRules.Condition
