import TaskRules.Proofs.ActionAtomicity
import TaskRules.Proofs.TaskCreation

/-!
The course of one action that creates a task, request by request. A run finds its project, chooses a
status, and then looks up a number and claims it until a claim is granted or no attempt is left;
once the task is there it tells clients and ends with the task's id, number and slug.

Proved:
- `readCreateTask_words`: what a configuration that was read says about its texts.
- `dispatch_stage`: the dispatch of such an action starts the course.
-/

namespace TaskRules.Action

/-! ## Configurations -/

theorem wordOf_whole {names : List String} {v : Json} {s : String}
    (h : wordOf names v = .ok s) : Text.isWhole s.toList = true := by
  unfold wordOf at h
  split at h
  · exact Schema.oneOf_whole h
  · exact Schema.oneOf_whole h

/-- The texts of a configuration that are looked into when it is read. -/
theorem readCreateTask_words {fields : Json.Fields} {c : CreateTask}
    (h : readCreateTask fields = .ok c) :
    fields ≠ [] ∧ Text.isWhole c.projectId.toList = true ∧ Text.isWhole c.type.toList = true ∧
      Text.isWhole c.priority.toList = true := by
  obtain ⟨g₉, sprint, h₉, -, rfl⟩ := Schema.and_ok h
  obtain ⟨g₈, start, h₈, -, rfl⟩ := Schema.and_ok h₉
  obtain ⟨g₇, due, h₇, -, rfl⟩ := Schema.and_ok h₈
  obtain ⟨g₆, assignees, h₆, -, rfl⟩ := Schema.and_ok h₇
  obtain ⟨g₅, status, h₅, -, rfl⟩ := Schema.and_ok h₆
  obtain ⟨g₄, priority, h₄, hpriority, rfl⟩ := Schema.and_ok h₅
  obtain ⟨g₃, type, h₃, htype, rfl⟩ := Schema.and_ok h₄
  obtain ⟨g₂, description, h₂, -, rfl⟩ := Schema.and_ok h₃
  obtain ⟨g₁, title, h₁, -, rfl⟩ := Schema.and_ok h₂
  obtain ⟨g₀, project, hmk, hproject, rfl⟩ := Schema.and_ok h₁
  cases hmk
  obtain ⟨f, hf, hv⟩ := Schema.required_ok hproject
  refine ⟨List.ne_nil_of_mem hf, Schema.filledText_whole hv, ?_, ?_⟩
  · rcases Schema.optional_ok htype with rfl | ⟨f, -, hv⟩
    · exact (by decide : Text.isWhole "TASK".toList = true)
    · exact wordOf_whole hv
  · rcases Schema.optional_ok hpriority with rfl | ⟨f, -, hv⟩
    · exact (by decide : Text.isWhole "MEDIUM".toList = true)
    · exact wordOf_whole hv

/-! ## The course -/

/-- What one action that creates a task was asked. -/
structure Creation where
  config : CreateTask
  payload : Payload
  context : Context

/-- The task that an action creates under a status and a number. -/
def Creation.draft (j : Creation) (project : Project) (statusId : String) (number : Int) :
    Task.Draft :=
  newTask j.config (newTitle j.config j.payload.named) statusId j.context project number

/-- What an action reports of the task that it created. -/
def created (t : TaskView) : Result :=
  .ok [("taskId", .str t.id), ("taskNumber", t.number.toJson), ("slug", .str t.slug)]

/-- Where an action is: `left` counts the attempts that are left after the one it is in. -/
inductive Phase where
  | finding
  | choosing
  | looking (statusId : String) (left : Nat)
  | claiming (statusId : String) (left : Nat) (number : Int)
  | noting (statusId : String) (left : Nat)
  | telling (t : TaskView)
  | ended (t : TaskView)

/-- The phase after the project was found: a configured status is not looked up. -/
def Creation.chosen (j : Creation) (attempts : Nat) : Phase :=
  match orElse j.config.statusId none with
  | some id => .looking id (attempts - 1)
  | none => .choosing

/-- What is left to be requested in each phase, at most. -/
def Phase.todo (attempts : Nat) : Phase → Nat
  | .finding => 3 * attempts + 2
  | .choosing => 3 * attempts + 1
  | .looking _ left => 3 * left + 3
  | .claiming _ left _ => 3 * left + 2
  | .noting _ left => 3 * left + 4
  | .telling _ => 1
  | .ended _ => 0

/-- The scripts of the phases, as far as their requests are answered as the course has it. -/
inductive Stage (project : Project) (attempts : Nat) (j : Creation) :
    Phase → Script (Option Result) → Prop
  | finding {next : Except Fault (Option Project) → Script (Option Result)}
      (rest : Stage project attempts j (j.chosen attempts) (next (.ok (some project)))) :
      Stage project attempts j .finding (.ask (.findProject (.str j.config.projectId)) next)
  | choosing {next : Except Fault (Option String) → Script (Option Result)}
      (unset : orElse j.config.statusId none = none) (rest : ∀ id, id ≠ "" →
        Stage project attempts j (.looking id (attempts - 1)) (next (.ok (some id)))) :
      Stage project attempts j .choosing
        (.ask (.defaultStatus (.ofText? project.workflowId)) next)
  | looking {statusId : String} {left : Nat} {next : Except Fault Int → Script (Option Result)}
      (rest : ∀ n, Stage project attempts j (.claiming statusId left n) (next (.ok n))) :
      Stage project attempts j (.looking statusId left)
        (.ask (.nextNumber (.str project.id)) next)
  | claiming {statusId : String} {left : Nat} {number : Int}
      {next : Except Fault TaskView → Script (Option Result)}
      (granted : ∀ t, Stage project attempts j (.telling t) (next (.ok t)))
      (taken : ∀ less, left = less + 1 → ∀ p n s,
        Stage project attempts j (.noting statusId less) (next (.error (.sequenceTaken p n s)))) :
      Stage project attempts j (.claiming statusId left number)
        (.ask (.createTask (j.draft project statusId number) (textsJson j.config.assigneeIds)) next)
  | noting {statusId : String} {left : Nat} {r : Log.Record}
      {next : Except Fault Unit → Script (Option Result)}
      (rest : Stage project attempts j (.looking statusId left) (next (.ok ()))) :
      Stage project attempts j (.noting statusId left) (.ask (.log r) next)
  | telling {t : TaskView} {e : Event} {next : Except Fault Unit → Script (Option Result)}
      (rest : Stage project attempts j (.ended t) (next (.ok ()))) :
      Stage project attempts j (.telling t) (.ask (.emit e) next)
  | ended (t : TaskView) :
      Stage project attempts j (.ended t) (.done (.ok (some (created t))))

/-- Telling clients about a new task, and the result. -/
def report (t : TaskView) : Script Result := do
  tell Event.taskCreated
    [("projectId", .str t.projectId), ("taskId", .str t.id), ("task", .obj t.eventFields)]
  return created t

/-- The rest of a dispatch around the creation of a task. -/
def finish (x : Script TaskView) : Script (Option Result) :=
  Script.settle Registry.configFailure (x >>= report >>= fun r => pure (some r))

theorem finish_created (project : Project) (attempts : Nat) (j : Creation) (t : TaskView) :
    Stage project attempts j (.telling t) (finish (pure t)) :=
  .telling (.ended t)

/-- Claiming numbers with some attempts left. -/
theorem claimNumber_stage (project : Project) (attempts : Nat) (j : Creation) (statusId : String)
    (left : Nat) :
    Stage project attempts j (.looking statusId left)
      (finish (claimNumber (j.draft project statusId) j.config.assigneeIds project attempts
        left)) := by
  induction left with
  | zero =>
    refine .looking fun n => .claiming (fun t => finish_created ..) ?_
    intro less h
    cases h
  | succ left ih =>
    refine .looking fun n => .claiming (fun t => finish_created ..) ?_
    intro less h p number s
    cases h
    exact .noting ih

theorem orElse_some {id : String} (h : id ≠ "") : orElse (some id) none = some id := by
  unfold orElse
  split
  · rename_i heq
    cases heq
  · rename_i heq
    cases heq
    exact absurd rfl h
  · rename_i heq
    cases heq
    rfl

theorem orElse_filled {a : Option String} {id : String} (h : orElse a none = some id) :
    id ≠ "" := by
  cases a with
  | none => cases h
  | some s =>
    by_cases hs : s = ""
    · subst hs
      cases h
    · rw [orElse_some hs] at h
      cases h
      exact hs

/-- An action that creates a task, from the choice of its status on. -/
def fromStatus (maxAttempts : Json) (j : Creation) (project : Project) (status : Script String) :
    Script (Option Result) :=
  Script.settle Registry.configFailure ((do
    let statusId ← status
    let attempts ← Script.done (attemptsOf maxAttempts)
    let task ← claimNumber (j.draft project statusId) j.config.assigneeIds project attempts
      (attempts - 1)
    report task) >>= fun r => pure (some r))

theorem fromStatus_stage {maxAttempts : Json} {attempts : Nat}
    (hmax : attemptsOf maxAttempts = .ok attempts) (j : Creation) (project : Project) {id : String}
    (hid : id ≠ "") :
    Stage project attempts j (.looking id (attempts - 1))
      (fromStatus maxAttempts j project (statusFound project (some id))) := by
  rw [fromStatus, statusFound, orElse_some hid, hmax]
  exact claimNumber_stage project attempts j id (attempts - 1)

theorem dispatch_createTask (maxAttempts : Json) {fields : Json.Fields} {j : Creation}
    (hread : readCreateTask fields = .ok j.config) :
    (Registry.standard maxAttempts).dispatch (.str "CREATE_TASK") (.obj fields) (.ok j.payload)
        j.context =
      Script.settle Registry.configFailure
        (createTask maxAttempts j.config j.payload.named j.context >>= fun r => pure (some r)) := by
  have htruthy : (Json.obj fields).truthy = true := by
    have hne := (readCreateTask_words hread).1
    cases fields with
    | nil => exact absurd rfl hne
    | cons f rest => rfl
  have hfields : readFields .createTask fields = .ok (.createTask j.config) := by
    rw [readFields, hread]
    rfl
  have hhandler : (Registry.standard maxAttempts).handlerFor (.str "CREATE_TASK") =
      .ok (.standard maxAttempts .createTask) := rfl
  rw [Registry.dispatch, hhandler]
  dsimp only
  rw [htruthy]
  show Registry.handle (.standard maxAttempts .createTask) fields (.ok j.payload) j.context = _
  rw [Registry.handle, Handler.standard]
  dsimp only
  rw [hfields]
  rfl

/-- The dispatch of an action that creates a task, from its first request on. -/
theorem dispatch_stage {maxAttempts : Json} {attempts : Nat}
    (hmax : attemptsOf maxAttempts = .ok attempts) {fields : Json.Fields} {j : Creation}
    (hread : readCreateTask fields = .ok j.config) (project : Project) :
    Stage project attempts j .finding
      ((Registry.standard maxAttempts).dispatch (.str "CREATE_TASK") (.obj fields) (.ok j.payload)
        j.context) := by
  rw [dispatch_createTask maxAttempts hread]
  refine .finding ?_
  show Stage project attempts j (j.chosen attempts)
    (fromStatus maxAttempts j project (newStatus j.config project))
  rw [Creation.chosen]
  cases hchosen : orElse j.config.statusId none with
  | some id =>
    rw [newStatus_configured hchosen]
    exact fromStatus_stage hmax j project (orElse_filled hchosen)
  | none =>
    rw [newStatus_default hchosen]
    exact .choosing hchosen fun id hid => fromStatus_stage hmax j project hid

end TaskRules.Action
