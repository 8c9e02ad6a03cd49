import TaskRules.Engine.Execute
import TaskRules.Proofs.Runs

/-!
What a run of a rule does to the stores and to the action, call by call. `observed` notes the
look-up of the rule, the dispatch of its action and every record handed to the store of records,
each with what was answered; the collaborators may answer in any way, and the state is any state.

Rules of the collaborators (`Dependable`):
  log       a log takes every record
  clock     a clock tells a time, and between two of its times the milliseconds can be told
  dispatch  what a successful action reports is an object
The exits of a run need the first two only (`Steady`), and tell of what the action reports no more
than is asked (`Reporting`).

Proved:
- `observed_follows`: a run that is observed does what it does unobserved.
- `execute_exit`: every run whose rule could be looked up leaves by one of five exits (`Exit`).
- `execute_keeps_account`: at most one dispatch and at most one record, each exactly when it is
  due; the record says how the action ended; a record that is refused is what the run fails with,
  and what the run answers agrees with a record that is kept.
-/

namespace TaskRules.Engine

/-! ## Observing -/

/-- A call of a run on its collaborators, with the answer. -/
inductive Call where
  | found (id : Json) (answer : Except Fault (Option Rule))
  | dispatched (rule : Rule) (ending : Except Fault Dispatched)
  | created (draft : Execution.Draft) (answer : Except Fault Execution)

/-- A run on the first of two states whose answer is noted in the second. -/
def noting (call : Except Fault α → Call) (x : Run σ α) : Run (σ × List Call) α := fun s =>
  let (r, s') := x s.1
  (r, (s', s.2 ++ [call r]))

/-- The same collaborators, with their calls noted. -/
def observed (c : Collaborators σ) : Collaborators (σ × List Call) where
  findRule id := noting (.found id) (c.findRule id)
  dispatch limit rule payload context :=
    noting (.dispatched rule) (c.dispatch limit rule payload context)
  create draft := noting (.created draft) (c.create draft)
  clock := .first c.clock
  log r := .first (c.log r)

/-- The calls of a run. -/
def calls (c : Collaborators σ) (p : Policy) (t : Trigger) (s : σ) : List Call :=
  (execute (observed c) p t (s, [])).2.2

/-- How the dispatches ended. -/
def dispatches (l : List Call) : List (Except Fault Dispatched) :=
  l.filterMap fun
    | .dispatched _ ending => some ending
    | _ => none

/-- The records handed over, with the store's answers. -/
def creates (l : List Call) : List (Execution.Draft × Except Fault Execution) :=
  l.filterMap fun
    | .created draft answer => some (draft, answer)
    | _ => none

@[simp] theorem noting_apply (call : Except Fault α → Call) (x : Run σ α) (s : σ) (l : List Call) :
    noting call x (s, l) = ((x s).1, ((x s).2, l ++ [call (x s).1])) := rfl

theorem noting_follows (call : Except Fault α → Call) (x : Run σ α) :
    Run.Follows (noting call x) x :=
  ⟨fun _ _ => rfl, fun _ _ => rfl⟩

/-- Collaborators over two states that do on the first what others do. -/
structure Collaborators.Follow (c' : Collaborators (σ × τ)) (c : Collaborators σ) : Prop where
  findRule : ∀ id, Run.Follows (c'.findRule id) (c.findRule id)
  dispatch : ∀ limit rule payload context,
    Run.Follows (c'.dispatch limit rule payload context) (c.dispatch limit rule payload context)
  create : ∀ draft, Run.Follows (c'.create draft) (c.create draft)
  clock : Run.Follows c'.clock c.clock
  log : ∀ r, Run.Follows (c'.log r) (c.log r)

theorem observed_follow (c : Collaborators σ) : (observed c).Follow c where
  findRule _ := noting_follows _ _
  dispatch _ _ _ _ := noting_follows _ _
  create _ := noting_follows _ _
  clock := .ofFirst _
  log _ := .ofFirst _

section Follows
variable {c' : Collaborators (σ × τ)} {c : Collaborators σ} (hc : c'.Follow c) (p : Policy)
  (h : Header)
include hc

theorem enter_follows (t : Trigger) (st : State) : Run.Follows (enter c' t st) (enter c t st) :=
  hc.log _

theorem sinceMs_follows (started : Reading) :
    Run.Follows (sinceMs c' started) (sinceMs c started) :=
  .bind hc.clock fun _ => .ofResult _

theorem write_follows (draft : Execution.Draft) : Run.Follows (write c' draft) (write c draft) := by
  refine .bind (.attempt (hc.create draft)) fun r => ?_
  cases r with
  | ok saved => exact .ofPure saved
  | error e => exact .bind (hc.log _) fun _ => .ofRaise _

theorem record_follows (success : Bool) (outcome : String) (result : Json)
    (error : Option String) :
    Run.Follows (record c' h success outcome result error)
      (record c h success outcome result error) :=
  .bind (sinceMs_follows hc _) fun _ => write_follows hc _

theorem skipUnavailable_follows :
    Run.Follows (skipUnavailable c' p h) (skipUnavailable c p h) := by
  refine .bind (hc.log _) fun _ => .bind (sinceMs_follows hc _) fun _ => ?_
  split
  · exact .bind (record_follows hc h ..) fun _ => .ofPure _
  · exact .ofPure _

theorem skipUnmet_follows : Run.Follows (skipUnmet c' h) (skipUnmet c h) :=
  .bind (enter_follows hc ..) fun _ => .bind (hc.log _) fun _ =>
    .bind (record_follows hc h ..) fun _ => .ofPure _

theorem failLate_follows (limit : Json) (cancelled : Bool) (e : Fault) :
    Run.Follows (failLate c' h limit cancelled e) (failLate c h limit cancelled e) :=
  .bind (hc.log _) fun _ => .bind (record_follows hc h ..) fun _ => .ofRaise _

theorem failRaised_follows (e : Fault) :
    Run.Follows (failRaised c' h e) (failRaised c h e) := by
  unfold failRaised
  split
  · exact failLate_follows hc h ..
  · exact .bind (hc.log _) fun _ => .bind (record_follows hc h ..) fun _ => .ofRaise _

theorem failReported_follows (rule : Rule) (result : Action.Result) :
    Run.Follows (failReported c' h rule result) (failReported c h rule result) :=
  .bind (hc.log _) fun _ => .bind (record_follows hc h ..) fun _ => .ofRaise _

theorem succeed_follows (result : Action.Result) :
    Run.Follows (succeed c' h result) (succeed c h result) :=
  .bind (record_follows hc h ..) fun _ => .bind (hc.log _) fun _ => .ofPure _

theorem act_follows (rule : Rule) (payload : Payload) :
    Run.Follows (act c' p h rule payload) (act c p h rule payload) := by
  refine .bind (enter_follows hc ..) fun _ => .bind (.attempt ?_) fun r => ?_
  · exact .bind (.ofResult _) fun _ => hc.dispatch ..
  · rcases r with e | (result | started)
    · exact failRaised_follows hc h e
    · dsimp only
      split
      · exact succeed_follows hc h result
      · exact failReported_follows hc h rule result
    · exact failLate_follows hc h ..

theorem runActive_follows (rule : Rule) (payload : Payload) :
    Run.Follows (runActive c' p h rule payload) (runActive c p h rule payload) := by
  unfold runActive
  rcases Condition.isMet rule (.obj payload.named) with ⟨met, notes⟩
  refine .bind (enter_follows hc ..) fun _ => .bind (.forM (fun _ => hc.log _) _) fun _ =>
    .bind (enter_follows hc ..) fun _ => ?_
  cases met with
  | true => exact act_follows hc p h rule payload
  | false => exact skipUnmet_follows hc h

/-- A run with collaborators that follow others follows the run with those. -/
theorem execute_follows (t : Trigger) : Run.Follows (execute c' p t) (execute c p t) := by
  refine .bind (.ofResult _) fun _ => .bind (hc.log _) fun _ => ?_
  refine .bind (hc.findRule _) fun r => .bind hc.clock fun started => ?_
  cases r with
  | none => exact skipUnavailable_follows hc p _
  | some rule =>
    dsimp only
    split
    · exact runActive_follows hc p ..
    · exact skipUnavailable_follows hc p _

end Follows

/-- Observing a run changes neither what it answers nor the state it leaves. -/
theorem observed_follows (c : Collaborators σ) (p : Policy) (t : Trigger) :
    Run.Follows (execute (observed c) p t) (execute c p t) :=
  execute_follows (observed_follow c) p t

/-! ## Collaborators -/

/-- A time that the clock tells in one of some states. -/
def Tells (c : Collaborators σ) (sound : σ → Prop) (now : Reading) : Prop :=
  ∃ s s', sound s ∧ c.clock s = (.ok now, s')

/-- Collaborators that a run can rely on, in states that no call leaves. Rules can be missing, and
look-ups, dispatches and records can fail. -/
structure Dependable (c : Collaborators σ) (sound : σ → Prop) : Prop where
  log : ∀ r s, sound s → ∃ s', c.log r s = (.ok (), s') ∧ sound s'
  clock : ∀ s, sound s → ∃ now s', c.clock s = (.ok now, s') ∧ sound s'
  /-- The milliseconds between two of the clock's times can be told. -/
  spans : ∀ a b, Tells c sound a → Tells c sound b → ∃ n, Reading.elapsedMs a b = .ok n
  findRule : ∀ id s, sound s → sound (c.findRule id s).2
  dispatch : ∀ limit rule payload context s, sound s →
    sound (c.dispatch limit rule payload context s).2
  /-- A successful action reports an object. -/
  reports : ∀ limit rule payload context s result, sound s →
    (c.dispatch limit rule payload context s).1 = .ok (.ended result) →
    result.success.truthy = true → ∃ fields, result.data = .obj fields
  create : ∀ draft s, sound s → sound (c.create draft s).2

/-- Collaborators that a run can rely on, whatever its action reports. -/
structure Steady (c : Collaborators σ) (sound : σ → Prop) : Prop where
  log : ∀ r s, sound s → ∃ s', c.log r s = (.ok (), s') ∧ sound s'
  clock : ∀ s, sound s → ∃ now s', c.clock s = (.ok now, s') ∧ sound s'
  spans : ∀ a b, Tells c sound a → Tells c sound b → ∃ n, Reading.elapsedMs a b = .ok n
  findRule : ∀ id s, sound s → sound (c.findRule id s).2
  dispatch : ∀ limit rule payload context s, sound s →
    sound (c.dispatch limit rule payload context s).2
  create : ∀ draft s, sound s → sound (c.create draft s).2

/-- Collaborators whose successful actions report data of one kind. -/
def Reporting (c : Collaborators σ) (sound : σ → Prop) (kind : Json → Prop) : Prop :=
  ∀ limit rule payload context s result, sound s →
    (c.dispatch limit rule payload context s).1 = .ok (.ended result) →
    result.success.truthy = true → kind result.data

theorem Dependable.steady {c : Collaborators σ} {sound : σ → Prop} (hc : Dependable c sound) :
    Steady c sound where
  log := hc.log
  clock := hc.clock
  spans := hc.spans
  findRule := hc.findRule
  dispatch := hc.dispatch
  create := hc.create

theorem Dependable.reporting {c : Collaborators σ} {sound : σ → Prop} (hc : Dependable c sound) :
    Reporting c sound fun data => ∃ fields, data = .obj fields := hc.reports

/-- The record of a run. -/
def Header.draft (h : Header) (elapsed : Int) (success : Bool) (outcome : String) (result : Json)
    (error : Option String) : Execution.Draft where
  ruleId := h.trigger.ruleId
  triggerType := .str h.trigger.type.display
  triggerData := h.data
  actionResult := result
  success := .bool success
  outcome := .str outcome
  elapsedMs := .int elapsed
  errorMessage := .ofText? error
  triggeredById := h.trigger.triggeredBy
  createdBy := h.trigger.triggeredBy.orElse h.owner
  jobId := h.trigger.jobId

/-- What a run goes on with after a record was handed over. -/
def written (ruleId : Json) : Except Fault Execution → Except Fault Execution
  | .ok saved => .ok saved
  | .error e => .error (.auditFailed ruleId e.text)

section Parts
variable {c : Collaborators σ} {sound : σ → Prop} (hc : Steady c sound) {h : Header}
  (hh : Tells c sound h.started) {s : σ} (hs : sound s) (l : List Call)
include hc hs

theorem log_silent (r : Log.Record) :
    ∃ s', (observed c).log r (s, l) = (.ok (), (s', l)) ∧ sound s' := by
  obtain ⟨s', hlog, hs'⟩ := hc.log r s hs
  refine ⟨s', ?_, hs'⟩
  simp [observed, hlog]

theorem logs_silent (rs : List Log.Record) :
    ∃ s', rs.forM (observed c).log (s, l) = (.ok (), (s', l)) ∧ sound s' := by
  induction rs generalizing s with
  | nil => exact ⟨s, rfl, hs⟩
  | cons r rest ih =>
    obtain ⟨s₁, hlog, hs₁⟩ := log_silent hc hs l r
    obtain ⟨s₂, hrest, hs₂⟩ := ih hs₁
    exact ⟨s₂, (Run.bind_of_ok hlog _).trans hrest, hs₂⟩

include hh

theorem sinceMs_silent :
    ∃ n s', sinceMs (observed c) h.started (s, l) = (.ok n, (s', l)) ∧ sound s' := by
  obtain ⟨now, s', hclock, hs'⟩ := hc.clock s hs
  obtain ⟨n, hn⟩ := hc.spans _ _ hh ⟨s, s', hs, hclock⟩
  refine ⟨n, s', ?_, hs'⟩
  have hnow : (observed c).clock (s, l) = (.ok now, (s', l)) := by simp [observed, hclock]
  rw [sinceMs, Run.bind_of_ok hnow, Run.ofExcept_apply, hn]

/-- One record is handed over. -/
theorem record_creates (success : Bool) (outcome : String) (result : Json)
    (error : Option String) :
    ∃ n answer s', sound s' ∧
      record (observed c) h success outcome result error (s, l) =
        (written h.trigger.ruleId answer,
          (s', l ++ [.created (h.draft n success outcome result error) answer])) := by
  obtain ⟨n, s₁, hsince, hs₁⟩ := sinceMs_silent hc hh hs l
  let draft := h.draft n success outcome result error
  have hcreate : Run.attempt ((observed c).create draft) (s₁, l) =
      (.ok (c.create draft s₁).1,
        ((c.create draft s₁).2, l ++ [.created draft (c.create draft s₁).1])) := rfl
  have hs₂ := hc.create draft s₁ hs₁
  refine ⟨n, (c.create draft s₁).1, ?_⟩
  rw [record, Run.bind_of_ok hsince]
  show ∃ s', _ ∧ write (observed c) draft (s₁, l) = _
  rw [write, Run.bind_of_ok hcreate]
  cases (c.create draft s₁).1 with
  | ok saved => exact ⟨_, hs₂, rfl⟩
  | error e =>
    obtain ⟨s₃, hlog, hs₃⟩ := log_silent hc hs₂ (l ++ [.created draft (.error e)])
      (Log.failure recorderLogger "Audit write failed"
        [("rule_id", draft.ruleId), ("outcome", draft.outcome), ("job_id", draft.jobId)] e.text)
    refine ⟨s₃, hs₃, ?_⟩
    dsimp only
    rw [Run.bind_of_ok hlog]
    rfl

end Parts

/-! ## Exits -/

/-- The limit that counts for a run. -/
def Trigger.limitUnder (t : Trigger) (p : Policy) : Json :=
  if t.limit.isNull then p.limit else t.limit

/-- Whether a dispatch ended with success. -/
def Succeeds : Except Fault Dispatched → Prop
  | .ok (.ended result) => result.success.truthy = true
  | _ => False

/-- What a run fails with when its dispatch ended without success. -/
inductive Fails (limit : Json) (rule : Rule) : Except Fault Dispatched → Fault → Prop
  | raised (e : Fault) : Fails limit rule (.error e) e
  | late (started : Bool) :
      Fails limit rule (.ok (.late started)) (.timedOut (.str rule.id) limit (.bool (!started)))
  | reported (result : Action.Result) (failed : result.success.truthy = false) :
      Fails limit rule (.ok (.ended result))
        (.actionFailed (result.error.orElse (.str "Action failed")).display result.retryable
          result.data)

/-- Whether a rule is there and active. -/
def isLive (rule : Option Rule) : Bool := rule.any (·.isActive)

/-- Whether a rule is live and its conditions match the payload of a trigger. -/
def isDue (t : Trigger) (rule : Option Rule) : Bool :=
  rule.any fun r => r.isActive && (Condition.isMet r (.obj t.payload.fields)).1

/-- What a run answers after a record was handed over. -/
def told (ruleId : Json) (answer : Except Fault Execution)
    (next : Execution → Except Fault Outcome) : Except Fault Outcome :=
  match written ruleId answer with
  | .ok saved => next saved
  | .error e => .error e

/-- The outcome of a skipped run. -/
def skippedOutcome (success error elapsed : Json) (recordId : Option String) : Outcome where
  success := success
  elapsedMs := elapsed
  skipped := true
  error := error
  recordId := recordId
  state := some State.recordedSkipped.name

/-- The outcome of a run whose action succeeded. -/
def succeededOutcome (data : Json) (saved : Execution) : Outcome where
  success := .bool true
  elapsedMs := saved.elapsedMs.toJson
  result := data
  recordId := some saved.id
  state := some State.recordedSuccess.name

/-- The exits of a run whose action, when it succeeds, reports data of one kind: the calls after the
look-up of the rule, and what the run answers. -/
inductive Exit (kind : Json → Prop) (p : Policy) (h : Header) (rule : Option Rule) :
    List Call → Except Fault Outcome → Prop
  | silent (n : Int) (live : isLive rule = false) (unrecorded : p.recordMissing.truthy = false) :
      Exit kind p h rule [] (.ok (skippedOutcome (.bool false) (.str unavailable) (.int n) none))
  | unavailable (n : Int) (answer : Except Fault Execution) (live : isLive rule = false)
      (recorded : p.recordMissing.truthy = true) :
      Exit kind p h rule
        [.created (h.draft n false Execution.skippedOutcome .null (some unavailable)) answer]
        (told h.trigger.ruleId answer fun saved => .ok (skippedOutcome (.bool false)
          (.str unavailable) saved.elapsedMs.toJson (some saved.id)))
  | unmet (n : Int) (answer : Except Fault Execution) (live : isLive rule = true)
      (idle : isDue h.trigger rule = false) :
      Exit kind p h rule [.created (h.draft n true Execution.skippedOutcome .null none) answer]
        (told h.trigger.ruleId answer fun saved => .ok (skippedOutcome (.bool true) .null
          saved.elapsedMs.toJson (some saved.id)))
  | failed (n : Int) (answer : Except Fault Execution) (text : String) {r : Rule}
      {ending : Except Fault Dispatched} {e : Fault} (found : rule = some r)
      (due : isDue h.trigger rule = true) (fails : Fails (h.trigger.limitUnder p) r ending e) :
      Exit kind p h rule
        [.dispatched r ending, .created (h.draft n false failureOutcome .null (some text)) answer]
        (told h.trigger.ruleId answer fun _ => .error e)
  | succeeded (n : Int) (answer : Except Fault Execution) {r : Rule} {result : Action.Result}
      (found : rule = some r) (due : isDue h.trigger rule = true)
      (success : result.success.truthy = true) (reported : kind result.data) :
      Exit kind p h rule
        [.dispatched r (.ok (.ended result)),
          .created (h.draft n true successOutcome result.data none) answer]
        (told h.trigger.ruleId answer fun saved => .ok (succeededOutcome result.data saved))

section Exits
variable {c : Collaborators σ} {sound : σ → Prop} {kind : Json → Prop} (hc : Steady c sound)
  {h : Header} (hh : Tells c sound h.started) {s : σ} (hs : sound s) (l : List Call)
include hc hh hs

/-- A run that ends soon after its record makes no other call. -/
theorem record_then (success : Bool) (outcome : String) (result : Json) (error : Option String)
    (next : Execution → Run (σ × List Call) Outcome)
    (answerOf : Execution → Except Fault Outcome)
    (hnext : ∀ saved s l, sound s → ∃ s', next saved (s, l) = (answerOf saved, (s', l))) :
    ∃ n answer s', (record (observed c) h success outcome result error >>= next) (s, l) =
      (told h.trigger.ruleId answer answerOf,
        (s', l ++ [.created (h.draft n success outcome result error) answer])) := by
  obtain ⟨n, answer, s₁, hs₁, hrecord⟩ := record_creates hc hh hs l success outcome result error
  cases answer with
  | ok saved =>
    obtain ⟨s₂, h₂⟩ := hnext saved s₁ (l ++ [_]) hs₁
    exact ⟨n, .ok saved, s₂, (Run.bind_of_ok hrecord _).trans h₂⟩
  | error e => exact ⟨n, .error e, s₁, Run.bind_of_error hrecord _⟩

theorem skipUnavailable_exit (p : Policy) {rule : Option Rule} (live : isLive rule = false) :
    ∃ answer s' made, skipUnavailable (observed c) p h (s, l) = (answer, (s', l ++ made)) ∧
      Exit kind p h rule made answer := by
  obtain ⟨s₁, hlog, hs₁⟩ := log_silent hc hs l
    (Log.warning logger ("Rule " ++ h.trigger.ruleText ++ " not found or inactive"))
  obtain ⟨n, s₂, hsince, hs₂⟩ := sinceMs_silent hc hh hs₁ l
  rw [skipUnavailable, Run.bind_of_ok hlog, Run.bind_of_ok hsince]
  cases recorded : p.recordMissing.truthy with
  | false => exact ⟨_, s₂, [], by simp; rfl, .silent n live recorded⟩
  | true =>
    obtain ⟨m, answer, s₃, h₃⟩ := record_then hc hh hs₂ l false Execution.skippedOutcome .null
      (some unavailable) _ _ fun saved s l _ => ⟨s, rfl⟩
    exact ⟨_, s₃, _, h₃, .unavailable m answer live recorded⟩

theorem skipUnmet_exit (p : Policy) {rule : Option Rule} (live : isLive rule = true)
    (idle : isDue h.trigger rule = false) :
    ∃ answer s' made, skipUnmet (observed c) h (s, l) = (answer, (s', l ++ made)) ∧
      Exit kind p h rule made answer := by
  obtain ⟨s₁, henter, hs₁⟩ := log_silent hc hs l
    (Log.debug logger ("Rule " ++ h.trigger.ruleText ++ " -> " ++ State.skipped.name))
  obtain ⟨s₂, hlog, hs₂⟩ := log_silent hc hs₁ l (Log.debug logger
    ("Rule " ++ h.trigger.ruleText ++ " conditions not met, skipping execution"))
  obtain ⟨n, answer, s₃, h₃⟩ := record_then hc hh hs₂ l true Execution.skippedOutcome .null none
    _ _ fun saved s l _ => ⟨s, rfl⟩
  refine ⟨_, s₃, _, ?_, .unmet n answer live idle⟩
  rw [skipUnmet, enter, Run.bind_of_ok henter, Run.bind_of_ok hlog]
  exact h₃

/-- A failure is recorded and then raised. -/
theorem failure_then (r : Log.Record) (text : String) (e : Fault) :
    ∃ n answer s', ((observed c).log r >>= fun _ =>
        record (observed c) h false failureOutcome .null (some text) >>= fun _ => .raise e) (s, l) =
      (told h.trigger.ruleId answer fun _ => .error e,
        (s', l ++ [.created (h.draft n false failureOutcome .null (some text)) answer])) := by
  obtain ⟨s₁, hlog, hs₁⟩ := log_silent hc hs l r
  obtain ⟨n, answer, s₂, h₂⟩ := record_then hc hh hs₁ l false failureOutcome .null (some text)
    (fun _ => .raise e) (fun _ => .error e) fun saved s l _ => ⟨s, rfl⟩
  exact ⟨n, answer, s₂, (Run.bind_of_ok hlog _).trans h₂⟩

theorem failRaised_then (e : Fault) :
    ∃ n answer text s', failRaised (observed c) h e (s, l) =
      (told h.trigger.ruleId answer fun _ => .error e,
        (s', l ++ [.created (h.draft n false failureOutcome .null (some text)) answer])) := by
  unfold failRaised
  split
  · obtain ⟨n, answer, s', h'⟩ := failure_then hc hh hs l _ timeoutText _
    exact ⟨n, answer, _, s', h'⟩
  · obtain ⟨n, answer, s', h'⟩ := failure_then hc hh hs l _ _ e
    exact ⟨n, answer, _, s', h'⟩

theorem succeed_then (result : Action.Result) :
    ∃ n answer s', succeed (observed c) h result (s, l) =
      (told h.trigger.ruleId answer fun saved => .ok (succeededOutcome result.data saved),
        (s', l ++ [.created (h.draft n true successOutcome result.data none) answer])) := by
  refine record_then hc hh hs l true successOutcome result.data none _ _ fun saved s l hs => ?_
  obtain ⟨s₁, hlog, -⟩ := log_silent hc hs l (Log.info logger ("Rule " ++ h.trigger.ruleText ++
    " executed successfully in " ++ saved.elapsedMs.toJson.display ++ "ms"))
  exact ⟨s₁, Run.bind_of_ok hlog _⟩

variable (hr : Reporting c sound kind)
include hr

theorem act_exit (p : Policy) {counted : Option Json}
    (hl : positiveLimit? (h.trigger.limitUnder p) = .ok counted) (rule : Rule)
    (payload : Payload) (due : isDue h.trigger (some rule) = true) :
    ∃ answer s' made, act (observed c) p h rule payload (s, l) = (answer, (s', l ++ made)) ∧
      Exit kind p h (some rule) made answer := by
  obtain ⟨s₁, henter, hs₁⟩ := log_silent hc hs l
    (Log.debug logger ("Rule " ++ h.trigger.ruleText ++ " -> " ++ State.actionDispatched.name))
  let context : Action.Context :=
    { ruleId := .str rule.id
      owner := .ofText? rule.createdBy
      triggeredBy := h.trigger.triggeredBy }
  rcases hd : c.dispatch counted rule payload context s₁ with ⟨ending, s₂⟩
  have hs₂ : sound s₂ := by
    have := hc.dispatch counted rule payload context s₁ hs₁
    rwa [hd] at this
  have hdispatch : Run.attempt (Run.ofExcept (positiveLimit? (h.trigger.limitUnder p)) >>=
      fun counted => (observed c).dispatch counted rule payload context) (s₁, l) =
      (.ok ending, (s₂, l ++ [.dispatched rule ending])) := by
    rw [hl, Run.attempt_apply, Run.bind_of_ok (Run.ofExcept_apply _ _)]
    show (Except.ok (c.dispatch counted rule payload context s₁).1,
      ((c.dispatch counted rule payload context s₁).2,
        l ++ [Call.dispatched rule (c.dispatch counted rule payload context s₁).1])) = _
    rw [hd]
  rw [act, enter, Run.bind_of_ok henter]
  refine Exists.imp (fun answer => Exists.imp fun s' => Exists.imp fun made => And.imp_left
    (Run.bind_of_ok hdispatch _).trans) ?_
  rcases ending with e | (result | started)
  · obtain ⟨n, answer, text, s₃, h₃⟩ := failRaised_then hc hh hs₂ (l ++ [.dispatched rule _]) e
    rw [List.append_assoc] at h₃
    exact ⟨_, s₃, _, h₃, .failed n answer text rfl due (.raised e)⟩
  · dsimp only
    cases success : result.success.truthy with
    | true =>
      have reported := hr counted rule payload context s₁ result hs₁ (by rw [hd]) success
      obtain ⟨n, answer, s₃, h₃⟩ := succeed_then hc hh hs₂ (l ++ [.dispatched rule _]) result
      rw [List.append_assoc] at h₃
      exact ⟨_, s₃, _, h₃, .succeeded n answer rfl due success reported⟩
    | false =>
      obtain ⟨n, answer, s₃, h₃⟩ := failure_then hc hh hs₂ (l ++ [.dispatched rule _]) _ _ _
      rw [List.append_assoc] at h₃
      exact ⟨_, s₃, _, h₃, .failed n answer _ rfl due (.reported result success)⟩
  · obtain ⟨n, answer, s₃, h₃⟩ := failure_then hc hh hs₂ (l ++ [.dispatched rule _]) _ timeoutText _
    rw [List.append_assoc] at h₃
    exact ⟨_, s₃, _, h₃, .failed n answer _ rfl due (.late started)⟩

theorem runActive_exit (p : Policy) {counted : Option Json}
    (hl : positiveLimit? (h.trigger.limitUnder p) = .ok counted) {rule : Rule}
    (live : rule.isActive = true) {payload : Payload}
    (hp : payload.named = h.trigger.payload.fields) :
    ∃ answer s' made, runActive (observed c) p h rule payload (s, l) = (answer, (s', l ++ made)) ∧
      Exit kind p h (some rule) made answer := by
  have due : isDue h.trigger (some rule) = (Condition.isMet rule (.obj payload.named)).1 := by
    simp [isDue, live, hp]
  unfold runActive
  rcases hm : Condition.isMet rule (.obj payload.named) with ⟨met, notes⟩
  rw [hm] at due
  obtain ⟨s₁, henter, hs₁⟩ := log_silent hc hs l
    (Log.debug logger ("Rule " ++ h.trigger.ruleText ++ " -> " ++ State.loaded.name))
  obtain ⟨s₂, hnotes, hs₂⟩ := logs_silent hc hs₁ l notes
  obtain ⟨s₃, hleave, hs₃⟩ := log_silent hc hs₂ l
    (Log.debug logger ("Rule " ++ h.trigger.ruleText ++ " -> " ++ State.conditionsEvaluated.name))
  dsimp only
  rw [enter, Run.bind_of_ok henter, Run.bind_of_ok hnotes, enter, Run.bind_of_ok hleave]
  cases met with
  | true => exact act_exit hc hh hs₃ l hr p hl rule payload due
  | false => exact skipUnmet_exit hc hh hs₃ l p (by simp [isLive, live]) due

end Exits

/-! ## The account -/

/-- A payload as triggers bring it: nothing, or an object. -/
def IsPayload (v : Json) : Prop := v = .null ∨ ∃ fields, v = .obj fields

/-- A limit in seconds: none, or a number. -/
def IsLimit (v : Json) : Prop := v = .null ∨ v.numeric?.isSome

theorem read_of_isPayload {v : Json} (hv : IsPayload v) :
    ∃ payload, Payload.read v = .ok payload ∧ payload.named = v.fields := by
  rcases hv with rfl | ⟨fields, rfl⟩
  · exact ⟨{}, rfl, rfl⟩
  · have named : (Payload.ofFields fields).named = fields := by
      rw [Payload.named, Payload.ofFields, List.filterMap_map]
      exact List.filterMap_some
    cases fields with
    | nil => exact ⟨{}, rfl, rfl⟩
    | cons f rest => exact ⟨_, rfl, named⟩

theorem positiveLimit_of_isLimit {v : Json} (hv : IsLimit v) :
    ∃ counted, positiveLimit? v = .ok counted := by
  rcases hv with rfl | hv
  · exact ⟨none, rfl⟩
  · obtain ⟨n, hn⟩ := Option.isSome_iff_exists.mp hv
    rw [positiveLimit?, hn]
    cases n with
    | int n => exact ⟨_, rfl⟩
    | double x => exact ⟨_, rfl⟩

/-- How a run leaves after the look-up of its rule: with the error of the look-up, or by an exit. -/
inductive Leaves (kind : Json → Prop) (p : Policy) (t : Trigger) :
    Except Fault (Option Rule) → List Call → Except Fault Outcome → Prop
  | unread (e : Fault) : Leaves kind p t (.error e) [] (.error e)
  | read {h : Header} {rule : Option Rule} {made : List Call} {answer : Except Fault Outcome}
      (same : h.trigger = t) (exit : Exit kind p h rule made answer)
      (data : h.data = Payload.snapshot t.payload) : Leaves kind p t (.ok rule) made answer

/-- A run looks up its rule, and every run whose rule could be looked up leaves by an exit. -/
theorem execute_exit {c : Collaborators σ} {sound : σ → Prop} {kind : Json → Prop}
    (hc : Steady c sound) (hr : Reporting c sound kind) (p : Policy) (t : Trigger)
    (hp : IsPayload t.payload) (hl : IsLimit (t.limitUnder p)) {s : σ} (hs : sound s) :
    ∃ found answer s' made,
      execute (observed c) p t (s, []) = (answer, (s', .found t.ruleId found :: made)) ∧
        Leaves kind p t found made answer := by
  obtain ⟨payload, hread, named⟩ := read_of_isPayload hp
  obtain ⟨counted, hcounted⟩ := positiveLimit_of_isLimit hl
  obtain ⟨s₁, hlog, hs₁⟩ := log_silent hc hs [] (Log.info logger ("Executing automation rule " ++
    t.ruleText ++ " for trigger " ++ t.type.display))
  rcases hf : c.findRule t.ruleId s₁ with ⟨found, s₂⟩
  have hs₂ : sound s₂ := by
    have := hc.findRule t.ruleId s₁ hs₁
    rwa [hf] at this
  have hfind : (observed c).findRule t.ruleId (s₁, []) =
      (found, (s₂, [.found t.ruleId found])) := by
    simp [observed, hf]
  rw [execute, hread, Run.bind_of_ok (Run.ofExcept_apply _ _), Run.bind_of_ok hlog]
  cases found with
  | error e => exact ⟨_, _, s₂, [], Run.bind_of_error hfind _, .unread e⟩
  | ok rule =>
    obtain ⟨started, s₃, hclock, hs₃⟩ := hc.clock s₂ hs₂
    have hstart : (observed c).clock (s₂, [.found t.ruleId (.ok rule)]) =
        (.ok started, (s₃, [.found t.ruleId (.ok rule)])) := by
      simp [observed, hclock]
    rw [Run.bind_of_ok hfind, Run.bind_of_ok hstart]
    let h : Header := ⟨t, Payload.snapshot t.payload, started, .ofText? (rule.bind (·.createdBy))⟩
    have hh : Tells c sound h.started := ⟨s₂, s₃, hs₂, hclock⟩
    cases rule with
    | none =>
      have idle : isLive none = false := rfl
      obtain ⟨answer, s', made, hrun, exit⟩ := skipUnavailable_exit hc hh hs₃ [_] p idle
      exact ⟨_, answer, s', made, hrun, .read rfl exit rfl⟩
    | some rule =>
      dsimp only
      cases live : rule.isActive with
      | true =>
        obtain ⟨answer, s', made, hrun, exit⟩ :=
          runActive_exit hc hh hs₃ [_] hr p hcounted live named
        exact ⟨_, answer, s', made, hrun, .read rfl exit rfl⟩
      | false =>
        have idle : isLive (some rule) = false := by simp [isLive, live]
        obtain ⟨answer, s', made, hrun, exit⟩ := skipUnavailable_exit hc hh hs₃ [_] p idle
        exact ⟨_, answer, s', made, hrun, .read rfl exit rfl⟩

/-- What one record tells, given how the dispatches ended: its outcome names how they did, and the
run answers what the record says, or that the record was refused. -/
structure Recorded (p : Policy) (t : Trigger) (rule : Option Rule)
    (endings : List (Except Fault Dispatched)) (draft : Execution.Draft)
    (stored : Except Fault Execution) (answer : Except Fault Outcome) : Prop where
  success : draft.outcome = .str successOutcome ↔ ∃ d ∈ endings, Succeeds d
  failure : draft.outcome = .str failureOutcome ↔ ∃ d ∈ endings, ¬ Succeeds d
  skipped : draft.outcome = .str Execution.skippedOutcome ↔ endings = []
  result : draft.actionResult ≠ .null ↔ draft.outcome = .str successOutcome
  error : draft.errorMessage ≠ .null ↔ draft.success = .bool false
  refused : ∀ e, stored = .error e → answer = .error (.auditFailed t.ruleId e.text)
  returned : ∀ saved, stored = .ok saved → draft.outcome ≠ .str failureOutcome →
    ∃ o, answer = .ok o ∧ o.success = draft.success ∧ o.result = draft.actionResult ∧
      o.error = draft.errorMessage ∧ o.recordId = some saved.id ∧
      (o.skipped = true ↔ endings = [])
  raised : ∀ saved, stored = .ok saved → draft.outcome = .str failureOutcome →
    ∃ r d e, rule = some r ∧ d ∈ endings ∧ Fails (t.limitUnder p) r d e ∧ answer = .error e

/-- The account of a run whose rule could be looked up: its calls after the look-up, and what it
answers. -/
structure Account (p : Policy) (t : Trigger) (rule : Option Rule) (made : List Call)
    (answer : Except Fault Outcome) : Prop where
  creates : (creates made).length = if isLive rule || p.recordMissing.truthy then 1 else 0
  dispatches : (dispatches made).length = if isDue t rule then 1 else 0
  own : ∀ r ending, .dispatched r ending ∈ made → rule = some r
  records : ∀ draft stored, (draft, stored) ∈ Engine.creates made →
    Recorded p t rule (Engine.dispatches made) draft stored answer
  silent : Engine.creates made = [] →
    ∃ o, answer = .ok o ∧ o.success = .bool false ∧ o.skipped = true ∧ o.recordId = none

theorem isDue_of_not_live {t : Trigger} {rule : Option Rule} (live : isLive rule = false) :
    isDue t rule = false := by
  cases rule with
  | none => rfl
  | some r =>
    have hr : r.isActive = false := live
    simp [isDue, hr]

theorem isLive_of_due {t : Trigger} {rule : Option Rule} (due : isDue t rule = true) :
    isLive rule = true := by
  cases live : isLive rule with
  | true => rfl
  | false => rw [isDue_of_not_live live] at due; exact due

theorem not_succeeds_of_fails {limit : Json} {rule : Rule} {d : Except Fault Dispatched} {e : Fault}
    (h : Fails limit rule d e) : ¬ Succeeds d := by
  cases h with
  | raised e => exact id
  | late started => exact id
  | reported result failed =>
    intro success
    have : result.success.truthy = true := success
    rw [failed] at this
    cases this

/-- The record of a run without a dispatch. -/
theorem recorded_skip {p : Policy} {h : Header} {rule : Option Rule} (n : Int)
    (stored : Except Fault Execution) (success : Bool) (error : Option String)
    (herror : error.isSome = !success) :
    Recorded p h.trigger rule []
      (h.draft n success Execution.skippedOutcome .null error) stored
      (told h.trigger.ruleId stored fun saved => .ok (skippedOutcome (.bool success)
        (.ofText? error) saved.elapsedMs.toJson (some saved.id))) where
  success := by simp [Header.draft, Execution.skippedOutcome, successOutcome]
  failure := by simp [Header.draft, Execution.skippedOutcome, failureOutcome]
  skipped := by simp [Header.draft]
  result := by simp [Header.draft, Execution.skippedOutcome, successOutcome]
  error := by
    cases error with
    | none => cases success <;> simp_all [Header.draft, Json.ofText?, Json.ofOption]
    | some text => cases success <;> simp_all [Header.draft, Json.ofText?, Json.ofOption]
  refused := by
    rintro e rfl
    rfl
  returned := by
    rintro saved rfl -
    exact ⟨_, rfl, rfl, rfl, rfl, rfl, by simp [skippedOutcome]⟩
  raised := by simp [Header.draft, Execution.skippedOutcome, failureOutcome]

/-- The record of a run whose dispatch ended without success. -/
theorem recorded_failure {p : Policy} {h : Header} {r : Rule} {ending : Except Fault Dispatched}
    {e : Fault} (fails : Fails (h.trigger.limitUnder p) r ending e) (n : Int)
    (stored : Except Fault Execution) (text : String) :
    Recorded p h.trigger (some r) [ending] (h.draft n false failureOutcome .null (some text)) stored
      (told h.trigger.ruleId stored fun _ => .error e) where
  success := by
    simp [Header.draft, successOutcome, failureOutcome, not_succeeds_of_fails fails]
  failure := by simp [Header.draft, not_succeeds_of_fails fails]
  skipped := by simp [Header.draft, Execution.skippedOutcome, failureOutcome]
  result := by simp [Header.draft, successOutcome, failureOutcome]
  error := by simp [Header.draft, Json.ofText?, Json.ofOption]
  refused := by
    rintro e rfl
    rfl
  returned := by simp [Header.draft]
  raised := by
    rintro saved rfl -
    exact ⟨r, ending, e, rfl, List.mem_singleton_self _, fails, rfl⟩

/-- The record of a run whose action succeeded. -/
theorem recorded_success {p : Policy} {h : Header} {rule : Option Rule} {result : Action.Result}
    {fields : Json.Fields} (success : result.success.truthy = true)
    (reported : result.data = .obj fields) (n : Int) (stored : Except Fault Execution) :
    Recorded p h.trigger rule [.ok (.ended result)]
      (h.draft n true successOutcome result.data none) stored
      (told h.trigger.ruleId stored fun saved => .ok (succeededOutcome result.data saved)) where
  success := by simp [Header.draft, Succeeds, success]
  failure := by simp [Header.draft, Succeeds, success, successOutcome, failureOutcome]
  skipped := by simp [Header.draft, Execution.skippedOutcome, successOutcome]
  result := by simp [Header.draft, reported]
  error := by simp [Header.draft, Json.ofText?, Json.ofOption]
  refused := by
    rintro e rfl
    rfl
  returned := by
    rintro saved rfl -
    exact ⟨_, rfl, rfl, rfl, rfl, rfl, by simp [succeededOutcome]⟩
  raised := by simp [Header.draft, successOutcome, failureOutcome]

theorem account_of_skip {p : Policy} {t : Trigger} {rule : Option Rule} {draft : Execution.Draft}
    {stored : Except Fault Execution} {answer : Except Fault Outcome}
    (owed : (isLive rule || p.recordMissing.truthy) = true) (idle : isDue t rule = false)
    (record : Recorded p t rule [] draft stored answer) :
    Account p t rule [.created draft stored] answer where
  creates := by simp [Engine.creates, owed]
  dispatches := by simp [Engine.dispatches, idle]
  own := by simp
  records := by
    intro draft' stored' hmem
    obtain ⟨rfl, rfl⟩ : draft' = draft ∧ stored' = stored := by simpa [Engine.creates] using hmem
    exact record
  silent := by simp [Engine.creates]

theorem account_of_dispatch {p : Policy} {t : Trigger} {r : Rule}
    {ending : Except Fault Dispatched} {draft : Execution.Draft} {stored : Except Fault Execution}
    {answer : Except Fault Outcome} (due : isDue t (some r) = true)
    (record : Recorded p t (some r) [ending] draft stored answer) :
    Account p t (some r) [.dispatched r ending, .created draft stored] answer where
  creates := by simp [Engine.creates, isLive_of_due due]
  dispatches := by simp [Engine.dispatches, due]
  own := by
    intro r' ending' hmem
    obtain ⟨rfl, -⟩ : r' = r ∧ ending' = ending := by simpa using hmem
    rfl
  records := by
    intro draft' stored' hmem
    obtain ⟨rfl, rfl⟩ : draft' = draft ∧ stored' = stored := by simpa [Engine.creates] using hmem
    exact record
  silent := by simp [Engine.creates]

theorem Exit.account {p : Policy} {h : Header} {rule : Option Rule} {made : List Call}
    {answer : Except Fault Outcome}
    (exit : Exit (fun data => ∃ fields, data = .obj fields) p h rule made answer) :
    Account p h.trigger rule made answer := by
  cases exit with
  | silent n live unrecorded =>
    refine ⟨?_, ?_, ?_, ?_, fun _ => ⟨_, rfl, rfl, rfl, rfl⟩⟩
    · simp [Engine.creates, live, unrecorded]
    · simp [Engine.dispatches, isDue_of_not_live live]
    · simp
    · simp [Engine.creates]
  | unavailable n stored live recorded =>
    exact account_of_skip (by simp [recorded]) (isDue_of_not_live live)
      (recorded_skip n stored false (some Engine.unavailable) rfl)
  | unmet n stored live idle =>
    exact account_of_skip (by simp [live]) idle (recorded_skip n stored true none rfl)
  | failed n stored text found due fails =>
    subst found
    exact account_of_dispatch due (recorded_failure fails n stored text)
  | succeeded n stored found due success reported =>
    obtain ⟨fields, reported⟩ := reported
    subst found
    exact account_of_dispatch due (recorded_success success reported n stored)

/-- A run of a rule keeps its account, whatever the store of rules, the action and the store of
records answer. -/
theorem execute_keeps_account {c : Collaborators σ} {sound : σ → Prop} (hc : Dependable c sound)
    (p : Policy) (t : Trigger) (hp : IsPayload t.payload) (hl : IsLimit (t.limitUnder p)) {s : σ}
    (hs : sound s) :
    ∃ found made, calls c p t s = .found t.ruleId found :: made ∧
      match found with
      | .error e => made = [] ∧ (execute c p t s).1 = .error e
      | .ok rule => Account p t rule made (execute c p t s).1 := by
  obtain ⟨found, answer, s', made, hrun, leaves⟩ := execute_exit hc.steady hc.reporting p t hp hl hs
  have same := (observed_follows c p t).answer s []
  rw [hrun] at same
  refine ⟨found, made, by rw [calls, hrun], ?_⟩
  rw [← same]
  cases leaves with
  | unread e => exact ⟨rfl, rfl⟩
  | read ht exit =>
    subst ht
    exact exit.account

/-- A rule without conditions whose action does not end in time, and a store that takes no record;
the clock counts its readings. -/
def latecomer : Collaborators Nat where
  findRule _ := .done (some
    { id := "r-1", name := "Escalate", status := Rule.active, triggerType := "TASK_CREATED",
      actionType := "ADD_COMMENT", triggerConfig := .obj [], conditions := .null,
      actionConfig := .obj [], projectId := none, createdBy := none, description := none })
  dispatch _ _ _ _ := .done (.late true)
  create _ := .raise (.ofForeign .connection "refused")
  clock n := (.ok (.int n), n + 1)
  log _ := .done ()

theorem latecomer_dependable : Dependable latecomer fun _ => True where
  log _ s _ := ⟨s, rfl, trivial⟩
  clock s _ := ⟨.int s, s + 1, rfl, trivial⟩
  spans := by
    rintro a b ⟨s, s', -, ha⟩ ⟨u, u', -, hb⟩
    simp only [latecomer, Prod.mk.injEq, Except.ok.injEq] at ha hb
    rw [← ha.1, ← hb.1]
    exact ⟨_, rfl⟩
  findRule _ _ _ := trivial
  dispatch _ _ _ _ _ _ := trivial
  reports := by
    intro _ _ _ _ _ _ _ h
    cases h
  create _ _ _ := trivial

def lateTrigger : Trigger :=
  { ruleId := .str "r-1", type := .str "TASK_CREATED", payload := .null, limit := .int 5 }

theorem a_late_action_keeps_its_account :
    ∃ found made, calls latecomer {} lateTrigger 0 = .found (.str "r-1") found :: made ∧
      match found with
      | .error e => made = [] ∧ (execute latecomer {} lateTrigger 0).1 = .error e
      | .ok rule => Account {} lateTrigger rule made (execute latecomer {} lateTrigger 0).1 :=
  execute_keeps_account latecomer_dependable {} lateTrigger (.inl rfl) (.inr rfl) trivial

end TaskRules.Engine
