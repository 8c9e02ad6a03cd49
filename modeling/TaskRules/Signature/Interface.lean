import TaskRules.Signature

/-!
What the collaborators of the engine can be asked for. A collaborator that is no more than its
interface refuses all of it; a call that does not fit is refused for that first.
-/

namespace TaskRules.Signature

/-- The calls that a kind of collaborator takes. -/
def calls (collaborator : String) : List Signature :=
  let takes (call : String) (required : List String) : Signature :=
    { name := collaborator, call := call, required := required }
  match collaborator with
  | "RuleStore" => [takes "find_by_id" ["rule_id"], takes "set_status" ["rule_id", "status"]]
  | "ExecutionStore" =>
    [takes "create" ["record"],
      { takes "list_for_rule" ["rule_id"] with options := ["success", "since", "offset", "limit"] }]
  | "TaskStore" =>
    [takes "get" ["task_id"], takes "update" ["task_id", "changes"],
      takes "find_project" ["project_id"], takes "find_default_status" ["workflow_id"],
      takes "find_next_sequence" ["project_id"], takes "create" ["draft"]]
  | "NotificationStore" => [takes "create" ["drafts"]]
  | "CommentStore" => [takes "create" ["task_id", "content", "author_id"]]
  | "EventNotifier" => [takes "emit" ["kind", "payload"]]
  | "ActionHandler" => [takes "execute" ["config", "payload", "context"]]
  | _ => []

def notImplemented : Fault := .foreign ⟨.notImplemented, []⟩

/-- The error of calling a collaborator that is no more than its interface. -/
def refusedCall (collaborator call : String) (values : List Json) (named : Json.Fields) : Fault :=
  match (calls collaborator).find? (·.call == call) with
  | none =>
    .ofForeign .attribute ("'" ++ collaborator ++ "' object has no attribute '" ++ call ++ "'")
  | some s =>
    match s.bind values named with
    | .ok _ => notImplemented
    | .error e => e

end TaskRules.Signature
