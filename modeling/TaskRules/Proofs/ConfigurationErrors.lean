import TaskRules.Proofs.AuditTrail
import TaskRules.Proofs.FruitlessRuns

/-!
Errors of a rule's configuration. An action whose kind nobody knows, whose configuration is missing
or malformed, or which is about a task that neither the configuration nor the payload names, is
declined by its dispatch before anything is requested but a line in the log. The run then records
one failure, raises an error that tells that no retry can help, and the queue drops the job.

Proved:
- `Misconfigured.declines`: a misconfigured action is declined with a text, which depends on the
  rule and the payload only.
- `misconfigured_fails`: the run of a misconfigured rule records the text once, raises it as final,
  and does nothing else.
- `deliver_final`: a job whose run fails for good is dropped, whatever its attempt is and however
  many there may be.
- `misconfigured_fails_for_good`: both, for a rule that is due.
-/

namespace TaskRules.Action

/-! ## Misconfigured actions -/

/-- The task that the configuration of an action on a task names, if it names one; the other two
kinds of action are about no task that is there. -/
def Config.task? : Config → Option (Option String)
  | .assignTask c => some c.taskId
  | .changeStatus c => some c.taskId
  | .addLabel c => some c.taskId
  | .addComment c => some c.taskId
  | .changePriority c => some c.taskId
  | .setDueDate c => some c.taskId
  | .sendNotification _ => none
  | .createTask _ => none

/-- A payload that names no task: what it has for an id, its own or its task's, is empty. -/
structure Taskless (payload : Json.Fields) : Prop where
  own : ∀ id, Json.Fields.get? payload "taskId" = some id → id.truthy = false
  nested : ∀ task id, Json.Fields.get? payload "task" = some (.obj task) →
    Json.Fields.get? task "id" = some id → id.truthy = false

/-- The errors of a configuration: an unknown kind; a configuration that is missing or empty, is no
object, or is refused by the form of its kind; and one of an action on a task that is named neither
there nor in the payload. -/
inductive Misconfigured (kind config : Json) (payload : Json.Fields) : Prop
  | unknown (h : Registry.kind? kind = none)
  | empty (h : config.truthy = false)
  | formless (h : ∀ fields, config ≠ .obj fields)
  | refused {k : ActionKind} {fields : Json.Fields} {problems : List Schema.Problem}
      (known : Registry.kind? kind = some k) (given : config = .obj fields)
      (h : readFields k fields = .error problems)
  | adrift {k : ActionKind} {fields : Json.Fields} {c : Config} {configured : Option String}
      (known : Registry.kind? kind = some k) (given : config = .obj fields)
      (read : readFields k fields = .ok c) (about : c.task? = some configured)
      (unnamed : configured = none ∨ configured = some "") (h : Taskless payload)

/-- A script that ends with a failure of some text and requests nothing but lines in the log. -/
inductive Declines (text : String) : Script (Option Result) → Prop
  | done : Declines text (.done (.ok (some (.failure text))))
  | log {r : Log.Record} {next : Except Fault Unit → Script (Option Result)}
      (rest : Declines text (next (.ok ()))) : Declines text (.ask (.log r) next)

theorem taskIdOf_missing {configured : Option String} {payload : Json.Fields}
    (unnamed : configured = none ∨ configured = some "") (h : Taskless payload) :
    taskIdOf configured payload = .error .taskIdMissing := by
  have own : (Json.Fields.get? payload "taskId").filter Json.truthy = none := by
    simpa [Option.filter_eq_none_iff] using h.own
  have segments : Condition.segments "task.id" = ["task", "id"] := by decide
  have letters : Text.allDigits ['i', 'd'] = false := by decide
  have nested : ∃ found, Condition.resolve (.obj payload) "task.id" = .ok found ∧
      found.filter Json.truthy = none := by
    rw [Condition.resolve, segments]
    cases htask : Json.Fields.get? payload "task" with
    | none => exact ⟨none, by simp [Condition.walk, Condition.hop, htask], rfl⟩
    | some task =>
      cases task with
      | obj fields =>
        have empty := h.nested fields
        cases hid : Json.Fields.get? fields "id" with
        | none => exact ⟨none, by simp [Condition.walk, Condition.hop, htask, hid], rfl⟩
        | some id =>
          refine ⟨some id, by simp [Condition.walk, Condition.hop, htask, hid], ?_⟩
          simp [empty id htask hid]
      | arr items => exact ⟨none, by simp [Condition.walk, Condition.hop, htask, letters], rfl⟩
      | _ => exact ⟨none, by simp [Condition.walk, Condition.hop, htask], rfl⟩
  obtain ⟨found, hfound, none⟩ := nested
  unfold taskIdOf
  rcases unnamed with rfl | rfl
  · simp [orElse, own, hfound, none]
  · simp [orElse, own, hfound, none]

theorem change_missing {configured : Option String} {payload : Json.Fields} {e : Fault}
    (missing : taskIdOf configured payload = .error e) (changes : TaskChanges) :
    change configured payload changes = .raise e := by
  rw [change, missing]
  rfl

/-- An action on a task that is not named does nothing. -/
theorem perform_adrift {c : Config} {configured : Option String} {payload : Payload} {e : Fault}
    (about : c.task? = some configured) (missing : taskIdOf configured payload.named = .error e)
    (maxAttempts : Json) (context : Context) :
    perform maxAttempts c payload context = .raise e := by
  cases c with
  | sendNotification c => cases about
  | createTask c => cases about
  | addComment c =>
    cases about
    rw [perform, comment, missing]
    rfl
  | _ c =>
    cases about
    show change _ _ _ >>= _ = _
    rw [change_missing missing]
    rfl

/-! ## Declined actions -/

section Declined
variable {kind config : Json} {k : ActionKind} {fields : Json.Fields} (payload : Payload)
  (maxAttempts : Json) (context : Context)

theorem dispatch_known (known : Registry.kind? kind = some k) :
    (Registry.standard maxAttempts).dispatch kind config (.ok payload) context =
      if !config.truthy then pure (some (.failure "Action configuration is required"))
      else
        match config with
        | .obj fields =>
          Registry.handle (.standard maxAttempts k) fields (.ok payload) context
        | _ => pure (some (.failure "Action configuration must be an object")) := by
  have found : (Registry.standard maxAttempts).handlerFor kind = .ok (.standard maxAttempts k) := by
    rw [Registry.handlerFor, known]
    dsimp only
    rw [find_standard]
  unfold Registry.dispatch
  split
  · rename_i e he
    rw [found] at he
    cases he
  · rename_i handler hhandler
    rw [found] at hhandler
    cases hhandler
    rfl

/-- A configuration that is an object with fields is handed to the handler. -/
theorem dispatch_given (known : Registry.kind? kind = some k)
    (given : (Json.obj fields).truthy = true) :
    (Registry.standard maxAttempts).dispatch kind (.obj fields) (.ok payload) context =
      Registry.handle (.standard maxAttempts k) fields (.ok payload) context := by
  rw [dispatch_known payload maxAttempts context known]
  simp only [given, Bool.not_true, Bool.false_eq_true, if_false]

theorem handle_refused {problems : List Schema.Problem}
    (h : readFields k fields = .error problems) :
    Registry.handle (.standard maxAttempts k) fields (.ok payload) context =
      pure (some (.failure ("Invalid " ++ k.name ++ " configuration: " ++
        Schema.describe problems))) := by
  rw [Registry.handle, Handler.standard]
  dsimp only
  rw [h]
  rfl

/-- A configuration that is accepted is carried out. -/
theorem handle_accepted {c : Config} (read : readFields k fields = .ok c) :
    Registry.handle (.standard maxAttempts k) fields (.ok payload) context =
      (perform maxAttempts c payload context >>= fun r => pure (some r)).settle
        Registry.configFailure := by
  rw [Registry.handle, Handler.standard]
  dsimp only
  rw [read]
  rfl

theorem handle_adrift {c : Config} {configured : Option String} (read : readFields k fields = .ok c)
    (about : c.task? = some configured)
    (missing : taskIdOf configured payload.named = .error .taskIdMissing) :
    Registry.handle (.standard maxAttempts k) fields (.ok payload) context =
      pure (some (.failure Fault.taskIdMissing.text)) := by
  rw [handle_accepted payload maxAttempts context read, perform_adrift about missing]
  rfl

/-- A misconfigured action is declined, with a text that is not empty. -/
theorem Misconfigured.declines {named : Json.Fields} (h : Misconfigured kind config named) :
    ∃ text, text ≠ "" ∧ ∀ payload : Payload, payload.named = named → ∀ maxAttempts context,
      Declines text
        ((Registry.standard maxAttempts).dispatch kind config (.ok payload) context) := by
  cases known : Registry.kind? kind with
  | none =>
    refine ⟨"Unsupported action type: " ++ kind.display, by simp, fun payload _ m context => ?_⟩
    rw [Registry.dispatch, Registry.handlerFor, known]
    dsimp only
    exact .log .done
  | some k =>
    by_cases given : config.truthy = true
    · cases h with
      | unknown h => rw [known] at h; cases h
      | empty h => rw [given] at h; cases h
      | formless h =>
        refine ⟨"Action configuration must be an object", by decide, fun payload _ m context => ?_⟩
        rw [dispatch_known payload m context known, given]
        cases config with
        | obj fields => exact absurd rfl (h fields)
        | _ => exact .done
      | @refused _ fields problems known' object h =>
        obtain rfl : k = _ := Option.some.inj (known.symm.trans known')
        subst object
        refine ⟨"Invalid " ++ k.name ++ " configuration: " ++ Schema.describe problems,
          by simp, fun payload _ m context => ?_⟩
        rw [dispatch_given payload m context known given, handle_refused payload m context h]
        exact .done
      | adrift known' object read about unnamed taskless =>
        obtain rfl : k = _ := Option.some.inj (known.symm.trans known')
        subst object
        refine ⟨Fault.taskIdMissing.text, by decide, ?_⟩
        rintro payload rfl m context
        rw [dispatch_given payload m context known given,
          handle_adrift payload m context read about (taskIdOf_missing unnamed taskless)]
        exact .done
    · refine ⟨"Action configuration is required", by decide, fun payload _ m context => ?_⟩
      rw [Bool.not_eq_true] at given
      rw [dispatch_known payload m context known, given]
      exact .done

end Declined
end TaskRules.Action

namespace TaskRules.Engine
open TaskRules.Action (Declines Misconfigured)

/-! ## Their runs -/

/-- A script that declines only writes to the log. -/
theorem declines_run (s : Setup) {text : String} {x : Action.Script (Option Action.Result)}
    (h : Declines text x) (w : World) :
    ∃ log, x.run s.answer w = (.ok (some (.failure text)), { w with log := log }) := by
  induction h generalizing w with
  | done => exact ⟨w.log, rfl⟩
  | @log r next rest ih => exact ih { w with log := w.log ++ [.record r] }

/-- Look-ups of rules are answered as they were at the start, whatever a run has done. -/
theorem grown_keep (s : Setup) (w₀ : World) :
    s.collaborators.Keep fun w => ∃ added, w₀.store.Grown added w.store where
  findRule id := by
    refine ⟨fun w h => ?_⟩
    show ∃ added, w₀.store.Grown added (Store.findRule id w.store).2
    rw [Store.findRule, Store.query_apply]
    exact h
  dispatch limit rule payload context := by
    constructor
    rintro w ⟨added, grown⟩
    have untouched := (dispatchWithin_keeps s limit rule payload context).state w (.refl w)
    exact ⟨added ++ [], grown.trans untouched.store.grown⟩
  create draft := by
    constructor
    rintro w ⟨added, grown⟩
    show ∃ added, w₀.store.Grown added (s.createRecord draft w).2.store
    unfold Setup.createRecord
    cases s.auditFault with
    | some fault => exact ⟨added, grown⟩
    | none =>
      rcases Store.createExecution_cases draft w.store with ⟨e, -, more⟩ | ⟨row, -, -, more⟩
      · exact ⟨added ++ [], grown.trans more⟩
      · exact ⟨added ++ [row], grown.trans more⟩
  clock := by
    refine ⟨fun w h => ?_⟩
    show ∃ added, w₀.store.Grown added (World.clock w).2.store
    rw [clock_store]
    exact h
  log _ := ⟨fun _ h => h⟩

/-- A run that fails for good: it raises a text, with a flag that no retry can help; it leaves one
record, which tells the text; and it changes, requests and delivers nothing else. -/
structure FailsForGood (s : Setup) (o : Order) (w : World) (text : String) : Prop where
  worded : text ≠ ""
  raised : (s.execute o.trigger w).1 = .error (.actionFailed text (.bool false) (.obj []))
  recorded : ∃ row : Execution, o.RecordedBy row ∧ row.outcome = failureOutcome ∧
    row.success = false ∧ row.errorMessage = some text ∧
    (s.execute o.trigger w).2.store.db =
      { w.store.db with executions := w.store.db.executions ++ [row] }
  /-- Whatever was requested made no change and told no event. -/
  quiet : ∀ a ∈ (s.watch o.trigger w).2.1.2, ∀ x ∈ a.made, x.Quiet
  received : (s.execute o.trigger w).2.received = w.received
  calls : (s.execute o.trigger w).2.calls = w.calls

theorem failureText_failure {text : String} (worded : text ≠ "") :
    failureText (.failure text) = text := by
  have given : (Json.str text).truthy = true := by simpa [Json.truthy] using worded
  simp [failureText, Action.Result.failure, Json.orElse, given, Json.display]

/-- The worlds that a run can come to from a world, its limit given: the clock goes on, records may
have been added, and a run with a limit still has a free worker. -/
def Within (s : Setup) (limit : Option Json) (w w' : World) : Prop :=
  (w'.readings ⊆ w.readings ∧ ∃ added, w.store.Grown added w'.store) ∧
    (limit.isSome → w'.pool.HasRoom s.workers)

/-- A served run whose action reports a failure raises the failure, and its one record tells it. -/
theorem execute_reports {s : Setup} {sound : World → Prop} (steady : Steady s.collaborators sound)
    {o : Order} {w : World} (served : Served s o.trigger w) {counted : Option Json}
    (hl : positiveLimit? (o.trigger.limitUnder s.policy) = .ok counted) {r : Rule}
    (finds : ∀ w', sound w' → (s.collaborators.findRule o.trigger.ruleId w').1 = .ok (some r))
    (due : isDue o.trigger (some r) = true) {result : Action.Result}
    (failed : result.success.truthy = false)
    (reports : ∀ w' payload context, payload.named = o.trigger.payload.fields → sound w' →
      (s.collaborators.dispatch counted r payload context w').1 = .ok (.ended result))
    (initially : sound w) :
    (s.execute o.trigger w).1 = .error (failureOf result) ∧
      ∃ row : Execution, o.RecordedBy row ∧ row.outcome = failureOutcome ∧ row.success = false ∧
        row.errorMessage = some (failureText result) ∧
        w.store.Grown [row] (s.execute o.trigger w).2.store := by
  obtain ⟨h, n, stored, w', same, data, hrun⟩ := execute_reported steady s.policy o.isPayload hl
    finds due failed reports initially
  let draft := h.failed n result
  have hcalls : calls s.collaborators s.policy o.trigger w =
      [.found o.trigger.ruleId (.ok (some r)), .dispatched r (.ok (.ended result)),
        .created draft stored] := by
    rw [calls, hrun]
  have healthy := served.healthy
  rw [hcalls] at healthy
  obtain ⟨saved, rfl⟩ := healthy draft stored (by simp [creates])
  have answer := (observed_follows s.collaborators s.policy o.trigger).answer w []
  rw [hrun] at answer
  obtain ⟨-, -, -, -, kept⟩ := execute_runs served
  obtain ⟨added, grown, rows⟩ := kept.rows
  replace rows : List.Forall₂ _ (taken (calls s.collaborators s.policy o.trigger w)) added := rows
  rw [hcalls] at rows
  obtain ⟨row, rfl, keeps⟩ : ∃ row, added = [row] ∧ row.Keeps draft := by
    cases rows with
    | cons keeps rest =>
      cases rest
      exact ⟨_, rfl, keeps⟩
  exact ⟨answer.symm, row, Order.recordedBy_of_keeps same data keeps, keeps.outcome _ rfl,
    keeps.success _ rfl, keeps.errorMessage _ rfl, grown⟩

section Misconfigured
variable {s : Setup} {maxAttempts : Json} (hs : s.registry = .standard maxAttempts)
include hs

theorem within_steady {w : World} (timely : Timely w) (limit : Option Json) :
    Steady s.collaborators (Within s limit w) :=
  ((collaborators_steady s timely).and (grown_keep s w)).and
    (.given fun _ => collaborators_keep_room hs)

theorem dispatchWithin_declined {limit : Option Json} {rule : Rule} {payload : Payload}
    {text : String}
    (declines : ∀ maxAttempts context, Declines text
      ((Action.Registry.standard maxAttempts).dispatch (.str rule.actionType) rule.actionConfig
        (.ok payload) context))
    (context : Action.Context) {w : World} (room : limit.isSome → w.pool.HasRoom s.workers) :
    (s.dispatchWithin limit rule payload context w).1 = .ok (.ended (.failure text)) := by
  obtain ⟨taken, given, r, w', hread, hwithin⟩ := dispatchWithin_ends hs rule payload context room
  obtain ⟨log, hrun⟩ := declines_run s (declines maxAttempts context) { w with pool := taken }
  rw [Setup.dispatchRead, hs, hrun] at hread
  have same : Except.ok (some (Action.Result.failure text)) = r.map some := congrArg Prod.fst hread
  rw [hwithin]
  cases r with
  | error e => cases same
  | ok result =>
    cases same
    rfl

/-- A misconfigured rule that is due fails for good. -/
theorem misconfigured_fails {o : Order} {w : World} {r : Rule}
    (found : (Store.findRule (.str o.ruleId) w.store).1 = .ok (some r))
    (due : isDue o.trigger (some r) = true)
    (bad : Misconfigured (.str r.actionType) r.actionConfig o.trigger.payload.fields)
    (served : Served s o.trigger w)
    (room : ∀ limit, positiveLimit? (o.trigger.limitUnder s.policy) = .ok (some limit) →
      w.pool.HasRoom s.workers) :
    ∃ text, FailsForGood s o w text := by
  obtain ⟨text, worded, declines⟩ := bad.declines
  obtain ⟨limit, hl⟩ := positiveLimit_of_isLimit served.limit
  have steady := within_steady hs served.timely limit
  have initially : Within s limit w w := by
    refine ⟨⟨List.Subset.refl _, [], .refl w.store⟩, fun limited => ?_⟩
    obtain ⟨limit, rfl⟩ := Option.isSome_iff_exists.mp limited
    exact room limit hl
  have finds : ∀ w', Within s limit w w' →
      (s.collaborators.findRule o.trigger.ruleId w').1 = .ok (some r) := by
    rintro w' ⟨⟨-, added, grown⟩, -⟩
    exact (Store.findRule_grown _ grown).trans found
  have reports : ∀ w' payload context, payload.named = o.trigger.payload.fields →
      Within s limit w w' →
      (s.collaborators.dispatch limit r payload context w').1 = .ok (.ended (.failure text)) := by
    rintro w' payload context named ⟨-, room⟩
    exact dispatchWithin_declined hs (declines payload named) context room
  have failed : (Action.Result.failure text).success.truthy = false := rfl
  obtain ⟨raised, row, recorded, outcome, success, message, grown⟩ :=
    execute_reports steady served hl finds due failed reports initially
  obtain ⟨_, _, _, _, -, -, hwatch⟩ := execute_reported (steady.follow s.traced_follow) s.policy
    o.isPayload hl (fun p => finds p.1) due failed (fun p => reports p.1) (s := (w, [])) initially
  have fruitless : ∀ d ∈ dispatches (s.watch o.trigger w).2.2, ¬Succeeds d := by
    rw [Setup.watch, hwatch]
    simp [dispatches, Succeeds, failed]
  obtain ⟨kept, quiet⟩ := execute_barren hs o.trigger w fruitless
  rw [failureOf, failureText_failure worded] at raised
  rw [failureText_failure worded] at message
  refine ⟨text, worded, raised, ⟨row, recorded, outcome, success, message, ?_⟩, quiet,
    kept.received, kept.calls⟩
  rw [kept.tables, grown.executions]

end Misconfigured
end TaskRules.Engine

namespace TaskRules.Queue
open TaskRules.Engine

/-! ## Their jobs -/

/-- The order that a job carries out. -/
def orderOf (j : Job) : Order where
  ruleId := j.ruleId
  type := .str j.triggerType
  payload := some j.triggerData
  triggeredBy := j.triggeredBy
  jobId := j.jobId

/-- A job whose run fails with a final error is dropped and not sent again, whichever attempt it is
and whatever the most is. -/
theorem deliver_final {c : Collaborators σ} (log : ∀ r s, (c.log r s).1 = .ok ()) {raw : Raw}
    {j : Job} (hj : raw.job? = some j) {s : σ} {e : Fault}
    (failed : (c.execute (trigger j) s).1 = .error e) (final : e.retryable = false)
    (most topic : Json) :
    deliver c most raw topic s = ⟨raw, s, [.ran (trigger j) (.error e)], .ok .dropped⟩ := by
  have hexecute : Run.attempt ((watched c).execute (trigger j)) (s, []) =
      (.ok (.error e), ((c.execute (trigger j) s).2, [.ran (trigger j) (.error e)])) := by
    simp [watched, failed]
  have hlog : ∀ r (s : σ) l, (watched c).log r (s, l) = (.ok (), ((c.log r s).2, l)) := by
    intro r s l
    simp [watched, log]
  have hrun : ∃ s', run (watched c) most j (s, []) =
      (.ok .dropped, (s', [.ran (trigger j) (.error e)])) := by
    rw [run, Run.bind_of_ok hexecute]
    dsimp only
    rw [final, if_neg Bool.false_ne_true]
    exact ⟨_, Run.bind_of_ok (hlog ..) _⟩
  obtain ⟨s', hrun⟩ := hrun
  rw [deliver, handle, hj]
  dsimp only
  rw [Run.bind_of_ok hrun]
  rfl

/-- A misconfigured rule that is due fails once and for good, and a job for it is dropped at its
first delivery. -/
theorem misconfigured_fails_for_good {s : Setup} {maxAttempts : Json}
    (standard : s.registry = .standard maxAttempts) {o : Order} {w : World} {r : Rule}
    (found : (Store.findRule (.str o.ruleId) w.store).1 = .ok (some r))
    (due : isDue o.trigger (some r) = true)
    (bad : Action.Misconfigured (.str r.actionType) r.actionConfig o.trigger.payload.fields)
    (served : Served s o.trigger w)
    (room : ∀ limit, positiveLimit? (o.trigger.limitUnder s.policy) = .ok (some limit) →
      w.pool.HasRoom s.workers) :
    ∃ text, FailsForGood s o w text ∧
      ∀ j raw, orderOf j = o → raw.job? = some j → ∀ most topic,
        deliver (collaborators s) most raw topic w =
          ⟨raw, w, [.ran (trigger j) (.error (.actionFailed text (.bool false) (.obj [])))],
            .ok .dropped⟩ := by
  obtain ⟨text, fails⟩ := misconfigured_fails standard found due bad served room
  refine ⟨text, fails, ?_⟩
  rintro j raw rfl hj most topic
  exact deliver_final (fun _ _ => rfl) hj fails.raised rfl most topic

/-- An engine with the handlers of all kinds, some workers and five seconds for each action. -/
def hurried : Setup where
  settings := { limit := .int 5 }
  notifier := .listener none
  registry := .standard (.int 3)

/-- A rule that comments on a task without naming one. -/
def aimless : World where
  store :=
    { db :=
        { rules := [
            { rule :=
                { id := "r-1", name := "Greet", status := Rule.active, triggerType := "TASK_CREATED"
                  actionType := "ADD_COMMENT", triggerConfig := .null, conditions := .null
                  actionConfig := .obj [("content", .str "hi")]
                  projectId := none, createdBy := some "u-1", description := none }
              createdAt := launchDay, updatedAt := launchDay }] }
      used := fun _ => 0
      now := launchDay }

theorem aimless_served : Served hurried (orderOf secondJob).trigger aimless where
  limit := .inr rfl
  timely := timely_of_still rfl
  healthy draft stored hmem := by
    have taken : (creates (calls hurried.collaborators hurried.policy (orderOf secondJob).trigger
      aimless)).all (·.2.isOk) = true := by decide +kernel
    have := List.all_eq_true.mp taken _ hmem
    cases stored with
    | ok saved => exact ⟨saved, rfl⟩
    | error e => cases this

theorem an_aimless_rule_fails_for_good :
    ∃ text, FailsForGood hurried (orderOf secondJob) aimless text ∧
      ∀ j raw, orderOf j = orderOf secondJob → raw.job? = some j → ∀ most topic,
        deliver (collaborators hurried) most raw topic aimless =
          ⟨raw, aimless, [.ran (trigger j) (.error (.actionFailed text (.bool false) (.obj [])))],
            .ok .dropped⟩ := by
  have taskless : Action.Taskless (orderOf secondJob).trigger.payload.fields := by
    constructor
    · intro id h
      cases h
    · intro task id h
      cases h
  exact misconfigured_fails_for_good rfl rfl (by decide +kernel)
    (.adrift rfl rfl rfl rfl (.inl rfl) taskless) aimless_served
    fun _ _ => .idle (by decide)

end TaskRules.Queue
