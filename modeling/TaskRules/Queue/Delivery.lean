import TaskRules.Engine.Execute
import TaskRules.Job

/-!
Deliveries of job messages. A message that is no job is invalid. A job whose run fails is sent again
with the next attempt while attempts remain and the error allows it; otherwise it is dropped.
-/

namespace TaskRules.Queue

/-- What becomes of a delivered message. -/
inductive Disposition where
  | done
  | retry
  | dropped
  | invalid
  deriving DecidableEq

def Disposition.name : Disposition → String
  | .done => "DONE"
  | .retry => "RETRY"
  | .dropped => "DROPPED"
  | .invalid => "INVALID"

/-- A message as it arrives. -/
inductive Raw where
  | text (s : String)
  | bytes (b : List UInt8)

namespace Raw

/-- A message as a client hands it over, in bytes. -/
def sent : Raw → Except Fault Raw
  | .text s => if Text.isWhole s.toList then .ok (.bytes (Text.utf8 s.toList))
    else .error (.notEncodable s.toList)
  | r => .ok r

/-- The text of a message; bytes have to be UTF-8. -/
def text? : Raw → Option String
  | .text s => some s
  | .bytes b => (Text.ofUtf8? b).map String.ofList

/-- The length of a message, in code points or bytes. -/
def length : Raw → Nat
  | .text s => Text.size s.toList
  | .bytes b => b.length

/-- The job that a message writes. -/
def job? (r : Raw) : Option Job :=
  match r.text? with
  | none => none
  | some s =>
    match Json.read s with
    | .error _ => none
    | .ok v => (Job.read v).toOption

end Raw

/-- What deliveries need from outside. -/
structure Collaborators (σ : Type) where
  execute : Engine.Trigger → Run σ Engine.Outcome
  /-- Publishes a text on the topic of jobs. -/
  publish : String → Run σ Unit
  log : Log.Record → Run σ Unit

def logger : String := "AutomationJobConsumer"

/-- The run that a job asks for. -/
def trigger (j : Job) : Engine.Trigger :=
  { ruleId := .str j.ruleId, type := .str j.triggerType, payload := .obj j.triggerData,
    triggeredBy := .ofText? j.triggeredBy, jobId := .ofText? j.jobId }

/-- The job in log records. -/
def jobText (j : Job) : String :=
  "Automation job rule=" ++ j.ruleId ++ " job=" ++ (Json.ofText? j.jobId).display

/-- Whether an attempt is below the most that are allowed, which has to be a number. -/
def attemptsRemain (attempt : Int) (maxAttempts : Json) : Except Fault Bool :=
  match maxAttempts.numeric? with
  | some most => .ok (Json.Numeric.lt (.int attempt) most)
  | none =>
    .error (.unordered "<" (.int attempt) maxAttempts)

/-- Runs a job and decides what becomes of it. -/
def run (c : Collaborators σ) (maxAttempts : Json) (j : Job) : Run σ Disposition := do
  match ← Run.attempt (c.execute (trigger j)) with
  | .ok _ => return .done
  | .error e =>
    let again ←
      if e.retryable then Run.ofExcept (attemptsRemain j.attempt maxAttempts) else pure false
    if again then
      c.log (Log.warning logger (jobText j ++ " attempt=" ++ decimal j.attempt ++ "/" ++
        maxAttempts.display ++ " failed, will retry: " ++ e.text))
      return .retry
    else
      c.log (Log.error logger (jobText j ++ " dropped after attempt " ++ decimal j.attempt ++
        " (retryable=" ++ (Json.bool e.retryable).display ++ "): " ++ e.text))
      return .dropped

/-- Sends a job again. A failure to send is logged and otherwise ignored. -/
def sendAgain (c : Collaborators σ) (j : Job) : Run σ Unit := do
  let send : Run σ Unit := do c.publish (← Run.ofExcept j.again.message).text
  match ← Run.attempt send with
  | .ok () => return ()
  | .error e =>
    c.log (Log.failure logger "Automation job republish failed"
      [("rule_id", .str j.ruleId), ("job_id", .ofText? j.jobId)] e.text)

/-- Handles one delivered message. -/
def handle (c : Collaborators σ) (maxAttempts : Json) (raw : Raw) (topic : Json) :
    Run σ Disposition := do
  match raw.job? with
  | none =>
    c.log (Log.warning logger ("Invalid automation job topic=" ++ topic.display ++
      " payload_len=" ++ decimal raw.length))
    return .invalid
  | some j =>
    match ← run c maxAttempts j with
    | .retry =>
      sendAgain c j
      return .retry
    | d => return d

end TaskRules.Queue
