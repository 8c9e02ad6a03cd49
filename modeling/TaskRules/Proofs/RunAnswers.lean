import TaskRules.Proofs.CreationProgress
import TaskRules.Proofs.RunFaults

/-!
Running a rule over HTTP. The service has an answer of its own for four of the engine's errors. Of
those that a run can fail with one is left over: that the number or slug of a new task is taken,
which a run of a rule that adds tasks fails with when its last claim is refused. It leaves the
handler as it is, and the client is told of an internal error.

Proved:
- `runRule_answers`, `runRule_raises`: the answer is the one that the error has, if it has one.
- `engine_errors_are_answered`: every other error of the engine that a run fails with is answered,
  with the status and the reason of its kind.
-/

namespace TaskRules.Api
open TaskRules.Engine
open TaskRules.Action (isTaken)

/-- The trigger of a run by hand. -/
def triggerOf (id : String) (r : ManualRun) : Trigger where
  ruleId := .str id
  type := .str r.triggerType
  payload := .obj r.triggerData
  triggeredBy := .ofText? r.triggeredBy
  limit := Json.ofOption .double r.limit

/-- The status and the reason of the answer to an error, by its kind. -/
inductive Answers : Fault → Nat → String → Prop
  | late (rule limit cancelled : Json) : Answers (.timedOut rule limit cancelled) 504 "timeout"
  | reported (message : String) (retryable data : Json) :
      Answers (.actionFailed message retryable data) 422 message
  | missing (entity : String) (id : Json) :
      Answers (.notFound entity id) 404 (entity ++ " " ++ id.display ++ " not found")
  | unrecorded (rule : Json) (cause : String) :
      Answers (.auditFailed rule cause) 503 "Audit write failed"

section Runs
variable {s : Service} (own : s.isForeign = false) {id : String} {r : ManualRun} {w w' : World}
  {e : Fault} (raised : s.setup.execute (triggerOf id r) w = (.error e, w'))
include own raised

theorem runRule_fails : runRule s id r w =
    (match answerOf? e with
      | some answer => pure answer
      | none => .raise e : Run World Answer) w' := by
  have used : s.useEngine w = (.ok (), w) := by simp [Service.useEngine, own]; rfl
  have attempted : Run.attempt (s.setup.execute (triggerOf id r)) w = (.ok (.error e), w') := by
    rw [Run.attempt_apply, raised]
  rw [runRule, Run.bind_of_ok used]
  exact Run.bind_of_ok attempted _

theorem runRule_answers {status : Nat} {reason : String} (h : Answers e status reason) :
    runRule s id r w = (.ok (.refuse status reason), w') := by
  rw [runRule_fails own raised]
  cases h <;> rfl

theorem runRule_raises (h : isTaken e = true) : runRule s id r w = (.error e, w') := by
  rw [runRule_fails own raised]
  cases e <;> first | rfl | cases h

end Runs

/-- Of the engine's errors that a run fails with, only that a number is taken is not answered, and
only a rule that adds tasks meets it. -/
theorem engine_errors_are_answered {s : Service} {maxAttempts : Json}
    (standard : s.setup.registry = .standard maxAttempts) (own : s.isForeign = false) {w w' : World}
    (outside : StoreOutside w) {id : String} {r : ManualRun} {e : Fault}
    (raised : s.setup.execute (triggerOf id r) w = (.error e, w')) (engine : e.isEngine = true) :
    (∃ status reason, Answers e status reason ∧ 400 ≤ status ∧ status < 600 ∧
      runRule s id r w = (.ok (.refuse status reason), w')) ∨
    (isTaken e = true ∧ runRule s id r w = (.error e, w') ∧
      ∃ stored, w.store.db.rule? id = some stored ∧ stored.rule.actionType = "CREATE_TASK") := by
  have answered : ∀ {status reason}, Answers e status reason → _ :=
    fun h => runRule_answers own raised h
  have reason := (execute_fails (standard_fails standard outside id) s.setup.policy
    (t := triggerOf id r) rfl).fails w ⟨[], .refl w.store⟩ e (congrArg Prod.fst raised)
  cases reason with
  | store h =>
    cases h with
    | outside foreign =>
      rw [foreign] at engine
      cases engine
    | missing entity id =>
      exact .inl ⟨_, _, .missing entity id, by decide, by decide, answered (.missing ..)⟩
  | late rule limit cancelled =>
    exact .inl ⟨_, _, .late rule limit cancelled, by decide, by decide, answered (.late ..)⟩
  | reported message retryable data =>
    exact .inl ⟨_, _, .reported message retryable data, by decide, by decide,
      answered (.reported ..)⟩
  | unrecorded rule cause =>
    exact .inl ⟨_, _, .unrecorded rule cause, by decide, by decide, answered (.unrecorded ..)⟩
  | taken h stored creates =>
    obtain ⟨stored, found, rfl⟩ := stored
    exact .inr ⟨h, runRule_raises own raised h, stored, found, creates⟩

/-- A service with the handlers of all kinds and five seconds for each action. -/
def webService : Service where
  setup := { settings := { limit := .int 5 }, registry := .standard (.int 3) }

def byHand : ManualRun where
  triggerType := "TASK_CREATED"
  triggerData := []
  triggeredBy := none
  limit := none

/-- A world with one rule. -/
def withRule (w : World) (actionType : String) (config : Json) : World :=
  { w with store := { w.store with db := { w.store.db with
      rules := [
        { rule :=
            { id := "r-1", name := "Follow up", status := Rule.active
              triggerType := "TASK_CREATED", actionType := actionType, triggerConfig := .null
              conditions := .null, actionConfig := config, projectId := none, createdBy := none
              description := none }
          createdAt := newYear, updatedAt := newYear }] } } }

/-- The run of a rule that labels a task which is not there is answered with 404. -/
theorem a_missing_task_is_answered :
    ∃ w', webService.setup.execute (triggerOf "r-1" byHand)
        (withRule webWorld "ADD_LABEL" (.obj [("taskId", .str "t-9"), ("labelId", .str "l-1")])) =
          (.error (.notFound "Task" (.str "t-9")), w') ∧
      runRule webService "r-1" byHand
        (withRule webWorld "ADD_LABEL" (.obj [("taskId", .str "t-9"), ("labelId", .str "l-1")])) =
          (.ok (.refuse 404 "Task t-9 not found"), w') := by
  generalize given : withRule webWorld "ADD_LABEL"
    (.obj [("taskId", .str "t-9"), ("labelId", .str "l-1")]) = w
  have failed : (webService.setup.execute (triggerOf "r-1" byHand) w).1 =
      .error (.notFound "Task" (.str "t-9")) := by
    rw [← given]
    rfl
  have outside : StoreOutside w := by
    rw [← given]
    rintro e ⟨⟩
  rcases raised : webService.setup.execute (triggerOf "r-1" byHand) w with ⟨r, w'⟩
  rw [raised] at failed
  obtain rfl : r = .error (.notFound "Task" (.str "t-9")) := failed
  obtain ⟨status, reason, answers, -, -, answered⟩ | ⟨taken, -⟩ :=
    engine_errors_are_answered rfl rfl outside raised rfl
  · cases answers
    exact ⟨w', rfl, answered⟩
  · cases taken

/-- The run of a rule that adds a task to a project in which the next number's slug is in use raises
an error of the engine. -/
theorem a_refused_number_is_not_answered :
    ∃ e, (runRule webService "r-1" byHand
        (withRule renumbered "CREATE_TASK" (webConfig "Follow up"))).1 = .error e ∧
      e.isEngine = true :=
  ⟨_, rfl, rfl⟩

end TaskRules.Api
