import TaskRules.Action.Kind
import TaskRules.Schema.Check
import TaskRules.Json.Plain
import TaskRules.Json.Writer

/-!
Jobs: messages that ask for one run of a rule. A job counts the attempts to run it; one that is sent
again is the same job with the next attempt.
-/

namespace TaskRules

structure Job where
  ruleId : String
  triggerType : String
  triggerData : Json.Fields := []
  triggeredBy : Option String := none
  jobId : Option String := none
  attempt : Int := 1

namespace Job

open Schema (Checked required optional nullable)

def readFields (fields : Json.Fields) : Checked Job :=
  (((((Checked.and (.ok Job.mk)
    (required fields ["ruleId", "rule_id"] Schema.filledText)).and
    (required fields ["triggerType", "trigger_type"] (Schema.oneOf triggerTypes))).and
    (optional fields ["triggerData", "trigger_data"] [] Schema.object)).and
    (optional fields ["triggeredById", "triggered_by_id"] none (nullable Schema.text))).and
    (optional fields ["jobId", "job_id"] none (nullable Schema.text))).and
    (optional fields ["attempt"] 1 (Schema.wholeFrom 1))

/-- The job that a message's value writes. -/
def read (v : Json) : Checked Job := (Schema.formFields "AutomationJob" v).also readFields

/-- The job in plain JSON with all its fields. -/
def toFields (j : Job) : Except Fault Json.Fields := do
  return [("ruleId", .str j.ruleId), ("triggerType", .str j.triggerType),
    ("triggerData", ← Json.plain j.triggerData), ("triggeredById", .ofText? j.triggeredBy),
    ("jobId", .ofText? j.jobId), ("attempt", .int j.attempt)]

/-- The message of a job; fields without a value are left out. -/
def message (j : Job) : Except Fault Json := do
  return .obj ((← j.toFields).filter fun p => !p.2.isNull)

/-- The same job with the next attempt. -/
def again (j : Job) : Job := { j with attempt := j.attempt + 1 }

end Job

/-- A request to run a rule by hand. -/
structure ManualRun where
  triggerType : String
  triggerData : Json.Fields
  triggeredBy : Option String
  limit : Option Double

namespace ManualRun

open Schema (Checked required optional nullable)

def readFields (fields : Json.Fields) : Checked ManualRun :=
  (((Checked.and (.ok ManualRun.mk)
    (required fields ["trigger_type"] (Schema.oneOf triggerTypes))).and
    (optional fields ["trigger_data"] [] Schema.object)).and
    (optional fields ["triggered_by_id"] none (nullable Schema.text))).and
    (optional fields ["timeout_sec"] none (nullable (Schema.numberFrom 0)))

def read (v : Json) : Checked ManualRun := (Schema.formFields "ManualRunRequest" v).also readFields

def toFields (r : ManualRun) : Except Fault Json.Fields := do
  return [("trigger_type", .str r.triggerType), ("trigger_data", ← Json.plain r.triggerData),
    ("triggered_by_id", .ofText? r.triggeredBy), ("timeout_sec", Json.ofOption .double r.limit)]

end ManualRun
end TaskRules
