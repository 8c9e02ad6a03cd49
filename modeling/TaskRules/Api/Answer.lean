import TaskRules.Fault

/-!
Answers to HTTP requests.
-/

namespace TaskRules.Api

inductive Answer where
  | value (status : Nat) (headers : List (String × String)) (body : Json)
  /-- The request is not well-formed. -/
  | problems (problems : List Schema.Problem)
  /-- A text in place of a body. -/
  | plain (status : Nat) (headers : List (String × String)) (text : String)

namespace Answer

def ok (body : Json) : Answer := .value 200 [] body

/-- An error answer with its reason. -/
def refuse (status : Nat) (reason : String) : Answer :=
  .value status [] (.obj [("detail", .str reason)])

/-- The answer to an error that nothing else answers. -/
def crash : Answer := .plain 500 [] "Internal Server Error"

/-- The answer as it is written; a body with a lone half cannot be. -/
def written : Answer → Answer
  | .value status headers body => if body.isUnicode then .value status headers body else crash
  | answer => answer

def status : Answer → Nat
  | .value status _ _ => status
  | .problems _ => 422
  | .plain status _ _ => status

/-- The answer with nothing but its head. -/
def headOnly : Answer → Answer
  | .value status headers _ => .plain status headers ""
  | .problems _ => .plain 422 [] ""
  | .plain status headers _ => .plain status headers ""

/-- The headers as a field, their names in lower case. -/
def headerFields (headers : List (String × String)) : Json.Fields :=
  if headers.isEmpty then []
  else [("headers", .obj (headers.map fun p => (p.1.toLower, .str p.2)))]

end Answer

/-- The answer as a JSON object. -/
def Answer.toJson : Answer → Json
  | .value status headers body =>
    .obj ([("status", .int status)] ++ headerFields headers ++ [("body", body)])
  | .problems found =>
    .obj [("status", .int 422), ("detail", .arr (found.map Schema.Problem.toJson))]
  | .plain status headers text =>
    .obj ([("status", .int status)] ++ headerFields headers ++ [("text", .str text)])

/-- The answer to a run that raised an error, if there is one for it. -/
def answerOf? : Fault → Option Answer
  | .timedOut .. => some (.refuse 504 "timeout")
  | .actionFailed message _ _ => some (.refuse 422 message)
  | .notFound entity id => some (.refuse 404 (Fault.notFound entity id).text)
  | .auditFailed .. => some (.refuse 503 "Audit write failed")
  | _ => none

end TaskRules.Api
