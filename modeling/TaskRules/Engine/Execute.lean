import TaskRules.Action.Perform
import TaskRules.Condition.Source
import TaskRules.Engine.Outcome
import TaskRules.Engine.Reading
import TaskRules.Payload

/-!
One run of a rule: one trigger in, one record out. The rule is loaded; when it is missing or
inactive the run is skipped, and recorded only if that is asked for. Otherwise its condition is
evaluated and, when it holds, its action dispatched. The run ends with exactly one record: skipped,
success or failure. A failure is recorded first and then raised, so that the queue can decide
whether to deliver the job again.

What a run needs from outside stands in one structure over an arbitrary state, so nothing here
depends on how rules, records, actions or clocks work.
-/

namespace TaskRules.Engine

/-- What comes of a dispatch: its result, or the end of the waiting time, which found the dispatch
started or not. -/
inductive Dispatched where
  | ended (result : Action.Result)
  | late (started : Bool)

/-- What comes of a dispatch that has started. -/
def Dispatched.of : Option Action.Result → Dispatched
  | some result => .ended result
  | none => .late true

/-- What a run needs from outside. -/
structure Collaborators (σ : Type) where
  findRule : Json → Run σ (Option Rule)
  /-- Dispatches a rule's action, for at most so long when a limit is given. -/
  dispatch : Option Json → Rule → Payload → Action.Context → Run σ Dispatched
  /-- Adds a record to the store of records. -/
  create : Execution.Draft → Run σ Execution
  clock : Run σ Reading
  log : Log.Record → Run σ Unit

/-- How an engine runs rules. -/
structure Policy where
  /-- The longest time for an action in seconds; null and zero are no limit. -/
  limit : Json := .null
  /-- Whether runs of missing and inactive rules are recorded. -/
  recordMissing : Json := .bool false

/-- A request to run a rule. -/
structure Trigger where
  ruleId : Json
  type : Json
  payload : Json
  triggeredBy : Json := .null
  jobId : Json := .null
  /-- A limit that takes the place of the policy's. -/
  limit : Json := .null

/-- The limit that counts: a positive number of seconds. A value that is neither empty nor a number
cannot be compared. -/
def positiveLimit? (limit : Json) : Except Fault (Option Json) :=
  match limit.numeric? with
  | some (.int n) => .ok (if 0 < n then some limit else none)
  | some (.double x) => .ok (if x.le (.ofInt 0) then none else some limit)
  | none =>
    if limit.truthy then
      .error (.unordered "<=" limit (.int 0))
    else .ok none

def logger : String := "automation_orchestrator"

def recorderLogger : String := "execution_recorder"

def unavailable : String := "Rule not found or inactive"

def timeoutText : String := "timeout"

def successOutcome : String := "SUCCESS"

def failureOutcome : String := "FAILURE"

/-- Writes a record. A record that cannot be written is an error of its own kind, so that it is not
taken for a failure of the rule. -/
def write (c : Collaborators σ) (draft : Execution.Draft) : Run σ Execution := do
  match ← Run.attempt (c.create draft) with
  | .ok record => return record
  | .error e =>
    c.log (Log.failure recorderLogger "Audit write failed"
      [("rule_id", draft.ruleId), ("outcome", draft.outcome), ("job_id", draft.jobId)] e.text)
    .raise (.auditFailed draft.ruleId e.text)

/-- The milliseconds since a reading. -/
def sinceMs (c : Collaborators σ) (started : Reading) : Run σ Int := do
  let now ← c.clock
  .ofExcept (Reading.elapsedMs started now)

/-- What the records of one run have in common. -/
structure Header where
  trigger : Trigger
  data : Json
  started : Reading
  owner : Json

/-- Records how a run ended. -/
def record (c : Collaborators σ) (h : Header) (success : Bool) (outcome : String)
    (result : Json) (error : Option String) : Run σ Execution := do
  let elapsed ← sinceMs c h.started
  write c
    { ruleId := h.trigger.ruleId
      triggerType := .str h.trigger.type.display
      triggerData := h.data
      actionResult := result
      success := .bool success
      outcome := .str outcome
      elapsedMs := .int elapsed
      errorMessage := .ofText? error
      triggeredById := h.trigger.triggeredBy
      createdBy := h.trigger.triggeredBy.orElse h.owner
      jobId := h.trigger.jobId }

/-- The rule that a trigger names, in log records. -/
def Trigger.ruleText (t : Trigger) : String := t.ruleId.display

def enter (c : Collaborators σ) (t : Trigger) (s : State) : Run σ Unit :=
  c.log (Log.debug logger ("Rule " ++ t.ruleText ++ " -> " ++ s.name))

/-- A run of a rule that is missing or inactive. -/
def skipUnavailable (c : Collaborators σ) (p : Policy) (h : Header) : Run σ Outcome := do
  c.log (Log.warning logger ("Rule " ++ h.trigger.ruleText ++ " not found or inactive"))
  let elapsed ← sinceMs c h.started
  let outcome : Outcome :=
    { success := .bool false, elapsedMs := .int elapsed, skipped := true, error := .str unavailable,
      state := some State.recordedSkipped.name }
  if p.recordMissing.truthy then
    let saved ← record c h false Execution.skippedOutcome .null (some unavailable)
    return { outcome with recordId := some saved.id, elapsedMs := saved.elapsedMs.toJson }
  else return outcome

/-- A run of a rule whose condition does not hold. -/
def skipUnmet (c : Collaborators σ) (h : Header) : Run σ Outcome := do
  enter c h.trigger .skipped
  c.log (Log.debug logger
    ("Rule " ++ h.trigger.ruleText ++ " conditions not met, skipping execution"))
  let saved ← record c h true Execution.skippedOutcome .null none
  return { success := .bool true, elapsedMs := saved.elapsedMs.toJson, skipped := true,
           recordId := some saved.id, state := some State.recordedSkipped.name }

/-- A run that ended with a timeout. -/
def failLate (c : Collaborators σ) (h : Header) (limit : Json) (cancelled : Bool) (e : Fault) :
    Run σ Outcome := do
  c.log (Log.error logger ("Rule " ++ h.trigger.ruleText ++ " timed out after " ++ limit.display ++
    "s (dispatch " ++ (if cancelled then "cancelled before start" else "still running") ++ ")"))
  let _ ← record c h false failureOutcome .null (some timeoutText)
  .raise e

/-- A run whose action raised an error. -/
def failRaised (c : Collaborators σ) (h : Header) (e : Fault) : Run σ Outcome := do
  match e with
  | .timedOut _ limit cancelled => failLate c h limit cancelled.truthy e
  | e =>
    c.log (Log.failure logger "Rule execution failed"
      [("rule_id", h.trigger.ruleId), ("state", .str State.actionDispatched.name)] e.text)
    let _ ← record c h false failureOutcome .null (some e.message)
    .raise e

/-- A run whose action reported a failure. -/
def failReported (c : Collaborators σ) (h : Header) (rule : Rule) (result : Action.Result) :
    Run σ Outcome := do
  let text := (result.error.orElse (.str "Action failed")).display
  c.log (Log.error logger ("Rule " ++ h.trigger.ruleText ++ " action " ++ rule.actionType ++
    " failed: " ++ text))
  let _ ← record c h false failureOutcome .null (some text)
  .raise (.actionFailed text result.retryable result.data)

/-- A run whose action succeeded. -/
def succeed (c : Collaborators σ) (h : Header) (result : Action.Result) : Run σ Outcome := do
  let saved ← record c h true successOutcome result.data none
  c.log (Log.info logger ("Rule " ++ h.trigger.ruleText ++ " executed successfully in " ++
    saved.elapsedMs.toJson.display ++ "ms"))
  return { success := .bool true, elapsedMs := saved.elapsedMs.toJson, result := result.data,
           recordId := some saved.id, state := some State.recordedSuccess.name }

/-- The dispatch of a rule's action and what follows from its end. -/
def act (c : Collaborators σ) (p : Policy) (h : Header) (rule : Rule) (payload : Payload) :
    Run σ Outcome := do
  let limit := if h.trigger.limit.isNull then p.limit else h.trigger.limit
  enter c h.trigger .actionDispatched
  let context : Action.Context :=
    { ruleId := .str rule.id
      owner := .ofText? rule.createdBy
      triggeredBy := h.trigger.triggeredBy }
  let dispatch : Run σ Dispatched := do
    let counted ← Run.ofExcept (positiveLimit? limit)
    c.dispatch counted rule payload context
  match ← Run.attempt dispatch with
  | .ok (.ended result) =>
    if result.success.truthy then succeed c h result else failReported c h rule result
  | .ok (.late started) =>
    failLate c h limit (!started) (.timedOut (.str rule.id) limit (.bool (!started)))
  | .error e => failRaised c h e

/-- A run of a rule that is active. -/
def runActive (c : Collaborators σ) (p : Policy) (h : Header) (rule : Rule)
    (payload : Payload) : Run σ Outcome := do
  enter c h.trigger .loaded
  let (met, notes) := Condition.isMet rule (.obj payload.named)
  notes.forM c.log
  enter c h.trigger .conditionsEvaluated
  if met then act c p h rule payload else skipUnmet c h

/-- Runs a rule for a trigger. -/
def execute (c : Collaborators σ) (p : Policy) (t : Trigger) : Run σ Outcome := do
  let payload ← Run.ofExcept (Payload.read t.payload)
  c.log (Log.info logger ("Executing automation rule " ++ t.ruleText ++ " for trigger " ++
    t.type.display))
  let rule ← c.findRule t.ruleId
  let started ← c.clock
  let h : Header := ⟨t, Payload.snapshot t.payload, started, .ofText? (rule.bind (·.createdBy))⟩
  match rule with
  | none => skipUnavailable c p h
  | some rule => if rule.isActive then runActive c p h rule payload else skipUnavailable c p h

end TaskRules.Engine
