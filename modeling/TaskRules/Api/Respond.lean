import TaskRules.Api.Answer
import TaskRules.Api.Request
import TaskRules.Api.Route
import TaskRules.Api.Target
import TaskRules.Engine.World
import TaskRules.Paging
import TaskRules.RuleView

/-!
How the service answers requests: the state of a rule and switching it on and off, the records of
its runs page by page, running it by hand, and the health of the service.
-/

namespace TaskRules.Api

open Engine (Setup World)

/-- What the service has around its engine. -/
structure Service where
  setup : Setup
  environment : Environment := {}
  /-- Whether the service knows of a consumer of jobs. -/
  hasConsumer : Bool := false
  /-- Whether the engine was put in place from outside; such an engine only shuts down. -/
  isForeign : Bool := false
  /-- The error that requests meet on their own connection to the database, beside the engine's. -/
  outage : Option Fault := none

def ruleMissing : Answer := .refuse 404 "Rule not found"

/-- The answer to a body that is no text, or whose text holds too long a number. -/
def unreadable : Answer := .refuse 400 "There was an error parsing the body"

/-- Makes use of the request's own connection. -/
def Service.reach (s : Service) : Run World Unit :=
  match s.outage with
  | some e => .raise e
  | none => .done ()

/-- Makes use of the engine for more than its end. -/
def Service.useEngine (s : Service) : Run World Unit :=
  if s.isForeign then .raise (.engine "This engine runs no rules") else .done ()

/-- The stored rule of an id. -/
def storedRule (s : Service) (id : String) : Run World (Option StoredRule) := do
  s.reach
  World.onStore (Store.query fun db => .ok (db.rule? id))

/-- The answer that shows a rule; one that cannot be shown is an error. -/
def showRule (r : StoredRule) : Run World Answer :=
  match RuleView.ofStored r with
  | .ok view => do return .ok (.obj (← Run.ofExcept view.toFields))
  | .error problems => .raise (.invalid problems)

def getRule (s : Service) (id : String) : Run World Answer := do
  match ← storedRule s id with
  | none => return ruleMissing
  | some r => showRule r

/-- Has the engine set a rule's status and shows the rule. -/
def switchRule (s : Service) (id status : String) : Run World Answer := do
  s.useEngine
  match ← World.onStore (Store.setStatus (.str id) (.str status)) with
  | none => return ruleMissing
  | some _ => getRule s id

/-- Which records a request asks for, and which page of them. -/
structure ListRequest where
  success : Option Bool
  number : Int
  size : Int

def parameter (t : Target) (name : String) (default : α) (check : Json → Schema.Checked α) :
    Schema.Checked α :=
  match t.parameter? name with
  | some s => ((check (.str s)).under (.name name)).under (.name "query")
  | none => .ok default

def readListRequest (t : Target) : Schema.Checked ListRequest :=
  Schema.Checked.and (Schema.Checked.and (Schema.Checked.and (.ok ListRequest.mk)
    (parameter t "success" none fun v => (Schema.flag v).map some))
    (parameter t "page" 1 (Schema.wholeFrom 1)))
    (parameter t "page_size" 50 (Schema.wholeFrom 1))

/-- The records as they are shown. -/
def showRecords (records : List Execution) : Except Fault (List Json) :=
  records.mapM fun e =>
    match ExecutionView.ofRecord e with
    | .ok view => view.toFields.map .obj
    | .error problems => .error (.invalid problems)

def listRecords (s : Service) (id : String) (q : ListRequest) : Run World Answer := do
  match ← storedRule s id with
  | none => return ruleMissing
  | some _ =>
    let cap ← Run.ofExcept ((Page.cap s.environment).mapError Fault.ofNumeral)
    let page := Page.within cap q.number q.size
    s.useEngine
    let (records, total) ← World.onStore
      (Store.listExecutions
        { ruleId := .str id, success := Json.ofOption .bool q.success, offset := .int page.offset,
          limit := .int page.size })
    let items ← Run.ofExcept (showRecords records)
    return .value 200 (page.headers total)
      (.obj [("items", .arr items), ("total", .int total), ("page", .int page.number),
        ("page_size", .int page.size)])

/-- What the body of a request to run a rule asks for. -/
def readRunBody (body : Json) : Schema.Checked ManualRun :=
  ((Schema.recordFields body).also ManualRun.readFields).under (.name "body")

/-- What a problem was found in: the value at its place, or what lacks a value there. -/
def causeOf (v : Json) : Schema.Problem → Json
  | ⟨.name s :: rest, d⟩ =>
    match v.get? s with
    | some w => causeOf w ⟨rest, d⟩
    | none => v
  | _ => v

/-- Answers with problems of a body. The answer repeats what they were found in, and cannot be
written when that has numbers that are not finite or halves of surrogate pairs. -/
def showProblems (body : Json) (problems : List Schema.Problem) : Answer :=
  let causes := problems.map (causeOf (.obj [("body", body)]))
  if causes.all fun v => v.isFinite && v.isUnicode then .problems problems else .crash

/-- The outcome of a run as it is shown. -/
def showOutcome (o : Engine.Outcome) : Json :=
  (Json.obj (o.toFields ++
    (match o.recordId with
      | none => []
      | some "" => []
      | some id => [("executionId", .str id)]))).finite

def runRule (s : Service) (id : String) (r : ManualRun) : Run World Answer := do
  let t : Engine.Trigger :=
    { ruleId := .str id, type := .str r.triggerType, payload := .obj r.triggerData,
      triggeredBy := .ofText? r.triggeredBy, limit := Json.ofOption .double r.limit }
  s.useEngine
  match ← Run.attempt (s.setup.execute t) with
  | .ok o => return .ok (showOutcome o)
  | .error e =>
    match answerOf? e with
    | some answer => return answer
    | none => .raise e

def healthLogger : String := "health"

def health (s : Service) : Run World Answer := do
  let reached ← Run.attempt (do
    s.reach
    World.onStore Store.reach)
  let ok ←
    match reached with
    | .ok () => pure true
    | .error e => do
      World.note (Log.failure healthLogger "Database health check failed" [] e.text)
      pure false
  let w ← Run.read
  return .ok (.obj [("status", .str (if ok then "ok" else "degraded")),
    ("timestamp_utc", .str (w.store.now.iso ++ "Z")),
    ("database", .obj [("ok", .bool ok)]),
    ("job_consumer", .obj [("enabled", .bool s.hasConsumer),
      ("connected", .bool (s.hasConsumer && w.connected)),
      ("topic", .str s.setup.settings.jobTopic)])])

/-- Makes sure that there is an engine; it is built on first use. -/
def needEngine (s : Service) : Run World Unit := do
  let w ← Run.read
  if !w.hasEngine then s.setup.build

/-- Runs a rule as the text of a body asks. The text is read before there has to be an engine. -/
def runAsked (s : Service) (id text : String) : Run World Answer :=
  match Json.read text with
  | .error (.malformed left) =>
    let position := Json.ReadFault.position text (.malformed left)
    .done (.problems [⟨[.name "body", .index position], .unreadableBody⟩])
  | .error (.tooManyDigits _) => .done unreadable
  | .ok body => do
    needEngine s
    match readRunBody body with
    | .ok q => runRule s id q
    | .error problems => return showProblems body problems

/-- The answer of a route to a request with its method. -/
def respondAt (s : Service) (r : Request) (t : Target) : Route → Run World Answer
  | .health => health s
  | .rule id => getRule s id
  | .enable id => do
    needEngine s
    switchRule s id Rule.active
  | .disable id => do
    needEngine s
    switchRule s id Rule.inactive
  | .executions id => do
    needEngine s
    match readListRequest t with
    | .ok q => listRecords s id q
    | .error problems => return .problems problems
  | .run id =>
    if r.body = "" then do
      needEngine s
      return .problems [⟨[.name "body"], .missing⟩]
    else
      match r.bodyText? with
      | none => .done unreadable
      | some text => runAsked s id text

/-- The answer of a route. An error that nothing answers is a crash. -/
def respondOn (s : Service) (r : Request) (t : Target) (route : Route) : Run World Answer := do
  if r.verb = route.method then
    match ← Run.attempt (respondAt s r t route) with
    | .ok answer => return answer.written
    | .error _ => return .crash
  else return .value 405 [("allow", route.method)] (.obj [("detail", .str "Method Not Allowed")])

/-- The answer to a request for a target, sent on at most so many times. -/
def respondTo (s : Service) (r : Request) : Nat → Target → Run World Answer
  | left, t =>
    let path := t.plainPath
    match route? path with
    | some route => respondOn s r t route
    | none =>
      let bare := withoutSlashes path
      match route? bare, left with
      | none, _ => .done (.refuse 404 "Not Found")
      | some _, 0 => .raise (.foreign ⟨.redirects, []⟩)
      | some _, left + 1 => respondTo s r left (t.sentOn bare)

/-- How often a request is sent on at most. -/
def maxRedirects : Nat := 20

/-- The answer to a request. -/
def respond (s : Service) (r : Request) : Run World Answer := do
  Run.ofExcept r.check
  let t ← Run.ofExcept (Target.read r.target)
  let answer ← respondTo s r maxRedirects t
  return if r.verb = "HEAD" then answer.headOnly else answer

end TaskRules.Api
