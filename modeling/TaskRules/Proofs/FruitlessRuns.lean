import TaskRules.Proofs.FreeWorkers
import TaskRules.Proofs.RecordStore

/-!
Runs without a dispatch that succeeds. Such a dispatch stores nothing and tells nobody, and apart
from it a run only writes its record. When the action of a due rule reports a failure, the run
hands over one record with the text that was reported, and raises that text with the flag and the
data of the report.

Proved:
- `dispatchWithin_fruitless`: a dispatch that does not succeed does nothing.
- `execute_barren`: a run without a dispatch that succeeds changes nothing but records.
- `execute_reported`: the run of a due rule whose action reports a failure, call by call.
-/

namespace TaskRules.Store

/-- Handing over a record changes no other table. -/
theorem createExecution_spares (d : Execution.Draft) (s : Store) :
    (createExecution d s).2.db =
      { s.db with executions := (createExecution d s).2.db.executions } := by
  unfold createExecution insert
  cases s.outage with
  | some e => rfl
  | none =>
    dsimp only
    cases s.refusal? with
    | some e => rfl
    | none =>
      rcases hf : insertExecution s.db s.now (s.nextId .execution) d with e | ⟨saved, db⟩
      · rfl
      · obtain ⟨row, -, -, rfl⟩ := insertExecution_ok hf
        rfl

end TaskRules.Store

namespace TaskRules.Engine

/-! ## Dispatches -/

section Dispatches
variable {s : Setup} {maxAttempts : Json} (hs : s.registry = .standard maxAttempts) (rule : Rule)
  (payload : Payload) (context : Action.Context)
include hs

theorem read_fruitless {w w' : World} {r : Except Fault (Option Action.Result)}
    (hread : s.dispatchRead (.str rule.actionType) rule.actionConfig payload context w = (r, w'))
    (fruitless : ¬Succeeds (r.map .of)) :
    Undone w w' ∧ ∀ x ∈ s.requests rule payload context w, x.Quiet := by
  have one := Action.dispatch_oneChange maxAttempts (.str rule.actionType) rule.actionConfig
    (.ok payload) context
  obtain ⟨r', w'', made, hnoted, hatomic⟩ := run_atomic s one w []
  rw [Setup.dispatchRead, hs, Action.run_of_noted hnoted] at hread
  cases hread
  rw [Setup.requests, hs, hnoted]
  rcases hatomic with ⟨undone, quiet, -⟩ | ⟨-, ending, rfl, result, rfl, success⟩
  · exact ⟨undone, quiet⟩
  · exact absurd success fruitless

/-- A dispatch that does not succeed stores nothing and tells nobody. -/
theorem dispatchWithin_fruitless (limit : Option Json) {w : World}
    (fruitless : ¬Succeeds (s.dispatchWithin limit rule payload context w).1) :
    Undone w (s.dispatchWithin limit rule payload context w).2 ∧
      ∀ x ∈ s.requestsWithin limit rule payload context w, x.Quiet := by
  cases limit with
  | none =>
    rcases hr : s.dispatchRead (.str rule.actionType) rule.actionConfig payload context w with
      ⟨_ | ending, w'⟩
    · rw [Setup.dispatchWithin, Run.bind_of_error hr] at fruitless ⊢
      exact read_fruitless hs rule payload context hr fruitless
    · rw [Setup.dispatchWithin, Run.bind_of_ok hr] at fruitless ⊢
      exact read_fruitless hs rule payload context hr fruitless
  | some limit =>
    unfold Setup.dispatchWithin Setup.dispatchPooled at fruitless ⊢
    unfold Setup.requestsWithin
    dsimp only at fruitless ⊢
    by_cases running : (w.pool.submit.2.takeAll s.workers).isRunning w.pool.submit.1 = true
    · simp only [running, if_true] at fruitless ⊢
      rcases hr : s.dispatchRead (.str rule.actionType) rule.actionConfig payload context
        { w with pool := w.pool.submit.2.takeAll s.workers } with ⟨e | (_ | result), w'⟩
      all_goals
        rw [hr] at fruitless
        obtain ⟨undone, quiet⟩ := read_fruitless hs rule payload context hr fruitless
        exact ⟨⟨undone.db, undone.received, undone.calls⟩, quiet⟩
    · simp only [running]
      exact ⟨⟨rfl, rfl, rfl⟩, by simp⟩

end Dispatches

/-! ## Barren runs -/

/-- Nothing was delivered in between, and no table changed but that of records. -/
structure OnlyRecords (w w' : World) : Prop where
  tables : w'.store.db = { w.store.db with executions := w'.store.db.executions }
  received : w'.received = w.received
  calls : w'.calls = w.calls

theorem OnlyRecords.refl (w : World) : OnlyRecords w w := ⟨rfl, rfl, rfl⟩

theorem OnlyRecords.trans {w₁ w₂ w₃ : World} (h : OnlyRecords w₁ w₂)
    (h' : OnlyRecords w₂ w₃) : OnlyRecords w₁ w₃ :=
  ⟨by rw [h'.tables, h.tables], h'.received.trans h.received, h'.calls.trans h.calls⟩

theorem Undone.onlyRecords {w w' : World} (h : Undone w w') : OnlyRecords w w' :=
  ⟨by rw [h.db], h.received, h.calls⟩

/-- While no dispatch succeeded, nothing was done but writing records. -/
structure Barren (w₀ : World) (p : World × List Act) : Prop where
  idle : (∀ a ∈ p.2, ¬Succeeds a.ending) → OnlyRecords w₀ p.1 ∧ ∀ a ∈ p.2, ∀ x ∈ a.made, x.Quiet

theorem Barren.pass {w₀ w w' : World} {acts : List Act} (h : Barren w₀ (w, acts))
    (kept : OnlyRecords w w') : Barren w₀ (w', acts) := by
  constructor
  intro fruitless
  obtain ⟨before, quiet⟩ := h.idle fruitless
  exact ⟨before.trans kept, quiet⟩

theorem Barren.snoc {w₀ w w' : World} {acts : List Act} (h : Barren w₀ (w, acts)) {a : Act}
    (barren : ¬Succeeds a.ending → OnlyRecords w w' ∧ ∀ x ∈ a.made, x.Quiet) :
    Barren w₀ (w', acts ++ [a]) := by
  constructor
  intro fruitless
  simp only [List.forall_mem_append, List.forall_mem_singleton] at fruitless ⊢
  obtain ⟨before, quiet⟩ := h.idle fruitless.1
  obtain ⟨kept, quiet'⟩ := barren fruitless.2
  exact ⟨before.trans kept, quiet, quiet'⟩

theorem createRecord_onlyRecords (s : Setup) (d : Execution.Draft) (w : World) :
    OnlyRecords w (s.createRecord d w).2 := by
  unfold Setup.createRecord
  cases s.auditFault with
  | some fault => exact .refl w
  | none => exact ⟨Store.createExecution_spares d w.store, rfl, rfl⟩

theorem clock_onlyRecords (w : World) : OnlyRecords w (World.clock w).2 := by
  unfold World.clock
  split
  · exact .refl w
  · exact .refl w
  · exact ⟨rfl, rfl, rfl⟩

theorem barren_keep {s : Setup} {maxAttempts : Json} (hs : s.registry = .standard maxAttempts)
    (w₀ : World) : s.traced.Keep (Barren w₀) where
  findRule id := by
    refine ⟨fun (w, acts) h => h.pass ?_⟩
    show OnlyRecords w { w with store := (Store.findRule id w.store).2 }
    rw [Store.findRule, Store.query_apply]
    exact .refl w
  dispatch limit rule payload context := by
    refine ⟨fun (w, acts) h => h.snoc fun fruitless => ?_⟩
    obtain ⟨undone, quiet⟩ := dispatchWithin_fruitless hs rule payload context limit fruitless
    exact ⟨undone.onlyRecords, quiet⟩
  create d := ⟨fun (w, _) h => h.pass (createRecord_onlyRecords s d w)⟩
  clock := ⟨fun (w, _) h => h.pass (clock_onlyRecords w)⟩
  log _ := ⟨fun (_, _) h => h.pass ⟨rfl, rfl, rfl⟩⟩

/-- A run without a dispatch that succeeds changes no table but that of records, and tells
nobody. -/
theorem execute_barren {s : Setup} {maxAttempts : Json} (hs : s.registry = .standard maxAttempts)
    (t : Trigger) (w : World) (fruitless : ∀ d ∈ dispatches (s.watch t w).2.2, ¬Succeeds d) :
    OnlyRecords w (s.execute t w).2 ∧ ∀ a ∈ (s.watch t w).2.1.2, ∀ x ∈ a.made, x.Quiet := by
  have initially : Barren w (w, []) := ⟨fun _ => ⟨.refl w, by simp⟩⟩
  have barren := (execute_keeps (barren_keep hs w) s.policy t).state _ initially
  have matched : Matches (s.watch t w).2.1.2 (s.watch t w).2.2 :=
    (execute_keeps (matches_keep hs) s.policy t).state ((w, []), []) ⟨rfl, by simp⟩
  have state : (s.watch t w).2.1 = (execute s.traced s.policy t (w, [])).2 :=
    (observed_follows s.traced s.policy t).state (w, []) []
  have world := (execute_follows s.traced_follow s.policy t).state w []
  rw [Setup.execute, ← world, state]
  refine barren.idle fun a ha => fruitless a.ending ?_
  rw [← matched.endings, state]
  exact List.mem_map_of_mem ha

/-! ## Reported failures -/

/-- A property of the states that calls leave may be added to those that they rely on. -/
theorem Steady.and {c : Collaborators σ} {sound I : σ → Prop} (hc : Steady c sound)
    (keep : c.Keep I) : Steady c fun s => sound s ∧ I s where
  log r s hs := by
    obtain ⟨s', hlog, hs'⟩ := hc.log r s hs.1
    have kept := (keep.log r).state s hs.2
    rw [hlog] at kept
    exact ⟨s', hlog, hs', kept⟩
  clock s hs := by
    obtain ⟨now, s', hclock, hs'⟩ := hc.clock s hs.1
    have kept := keep.clock.state s hs.2
    rw [hclock] at kept
    exact ⟨now, s', hclock, hs', kept⟩
  spans := by
    rintro a b ⟨s, s', hs, ha⟩ ⟨u, u', hu, hb⟩
    exact hc.spans a b ⟨s, s', hs.1, ha⟩ ⟨u, u', hu.1, hb⟩
  findRule id s hs := ⟨hc.findRule id s hs.1, (keep.findRule id).state s hs.2⟩
  dispatch limit rule payload context s hs :=
    ⟨hc.dispatch limit rule payload context s hs.1,
      (keep.dispatch limit rule payload context).state s hs.2⟩
  create draft s hs := ⟨hc.create draft s hs.1, (keep.create draft).state s hs.2⟩

/-- What calls keep under a condition of its own. -/
theorem Collaborators.Keep.given {c : Collaborators σ} {I : σ → Prop} {P : Prop}
    (keep : P → c.Keep I) : c.Keep fun s => P → I s where
  findRule id := ⟨fun s hs hp => ((keep hp).findRule id).state s (hs hp)⟩
  dispatch limit rule payload context :=
    ⟨fun s hs hp => ((keep hp).dispatch limit rule payload context).state s (hs hp)⟩
  create draft := ⟨fun s hs hp => ((keep hp).create draft).state s (hs hp)⟩
  clock := ⟨fun s hs hp => (keep hp).clock.state s (hs hp)⟩
  log r := ⟨fun s hs hp => ((keep hp).log r).state s (hs hp)⟩

/-- The text of a failure that an action reports. -/
def failureText (result : Action.Result) : String :=
  (result.error.orElse (.str "Action failed")).display

/-- What a run raises for a failure that its action reports. -/
def failureOf (result : Action.Result) : Fault :=
  .actionFailed (failureText result) result.retryable result.data

/-- The record of a run whose action reports a failure. -/
def Header.failed (h : Header) (elapsed : Int) (result : Action.Result) : Execution.Draft :=
  h.draft elapsed false failureOutcome .null (some (failureText result))

section Reports
variable {c : Collaborators σ} {sound : σ → Prop} (hc : Steady c sound) {h : Header}
  (hh : Tells c sound h.started) {s : σ} (hs : sound s) (l : List Call)
include hc hs

/-- The run of a rule whose conditions match gets to its action. -/
theorem runActive_met (p : Policy) {rule : Rule} {payload : Payload}
    (met : (Condition.isMet rule (.obj payload.named)).1 = true) :
    ∃ s', sound s' ∧
      runActive (observed c) p h rule payload (s, l) =
        act (observed c) p h rule payload (s', l) := by
  obtain ⟨s₁, henter, hs₁⟩ := log_silent hc hs l
    (Log.debug logger ("Rule " ++ h.trigger.ruleText ++ " -> " ++ State.loaded.name))
  obtain ⟨s₂, hnotes, hs₂⟩ := logs_silent hc hs₁ l (Condition.isMet rule (.obj payload.named)).2
  obtain ⟨s₃, hleave, hs₃⟩ := log_silent hc hs₂ l
    (Log.debug logger ("Rule " ++ h.trigger.ruleText ++ " -> " ++ State.conditionsEvaluated.name))
  refine ⟨s₃, hs₃, ?_⟩
  unfold runActive
  dsimp only
  rw [enter, Run.bind_of_ok henter, Run.bind_of_ok hnotes, enter, Run.bind_of_ok hleave, met,
    if_pos rfl]

include hh

theorem act_reported (p : Policy) {counted : Option Json}
    (hl : positiveLimit? (h.trigger.limitUnder p) = .ok counted) {rule : Rule} {payload : Payload}
    {result : Action.Result} (failed : result.success.truthy = false)
    (reports : ∀ s context, sound s →
      (c.dispatch counted rule payload context s).1 = .ok (.ended result)) :
    ∃ n stored s', act (observed c) p h rule payload (s, l) =
      (told h.trigger.ruleId stored fun _ => .error (failureOf result),
        (s', l ++ [.dispatched rule (.ok (.ended result)),
          .created (h.failed n result) stored])) := by
  obtain ⟨s₁, henter, hs₁⟩ := log_silent hc hs l
    (Log.debug logger ("Rule " ++ h.trigger.ruleText ++ " -> " ++ State.actionDispatched.name))
  let context : Action.Context :=
    { ruleId := .str rule.id
      owner := .ofText? rule.createdBy
      triggeredBy := h.trigger.triggeredBy }
  have hs₂ := hc.dispatch counted rule payload context s₁ hs₁
  have hdispatch : Run.attempt (Run.ofExcept (positiveLimit? (h.trigger.limitUnder p)) >>=
      fun counted => (observed c).dispatch counted rule payload context) (s₁, l) =
      (.ok (.ok (.ended result)), ((c.dispatch counted rule payload context s₁).2,
        l ++ [.dispatched rule (.ok (.ended result))])) := by
    rw [hl, Run.attempt_apply, Run.bind_of_ok (Run.ofExcept_apply _ _)]
    simp [observed, reports s₁ context hs₁]
  obtain ⟨n, stored, s₃, h₃⟩ := failure_then hc hh hs₂
    (l ++ [.dispatched rule (.ok (.ended result))]) (Log.error logger ("Rule " ++
      h.trigger.ruleText ++ " action " ++ rule.actionType ++ " failed: " ++ failureText result))
    (failureText result) (failureOf result)
  refine ⟨n, stored, s₃, ?_⟩
  rw [List.append_assoc] at h₃
  rw [act, enter, Run.bind_of_ok henter]
  refine (Run.bind_of_ok hdispatch _).trans ?_
  dsimp only
  rw [failed, if_neg Bool.false_ne_true]
  exact h₃

end Reports

/-- A run of a due rule whose action reports a failure hands over one record, which tells the
failure, and raises the failure unless the record is refused. -/
theorem execute_reported {c : Collaborators σ} {sound : σ → Prop} (hc : Steady c sound)
    (p : Policy) {t : Trigger} (hp : IsPayload t.payload) {counted : Option Json}
    (hl : positiveLimit? (t.limitUnder p) = .ok counted) {rule : Rule}
    (found : ∀ s, sound s → (c.findRule t.ruleId s).1 = .ok (some rule))
    (due : isDue t (some rule) = true) {result : Action.Result}
    (failed : result.success.truthy = false)
    (reports : ∀ s payload context, payload.named = t.payload.fields → sound s →
      (c.dispatch counted rule payload context s).1 = .ok (.ended result)) {s : σ} (hs : sound s) :
    ∃ (h : Header) (n : Int) (stored : Except Fault Execution) (s' : σ),
      h.trigger = t ∧ h.data = Payload.snapshot t.payload ∧
      execute (observed c) p t (s, []) =
        (told t.ruleId stored fun _ => .error (failureOf result),
          (s', [.found t.ruleId (.ok (some rule)), .dispatched rule (.ok (.ended result)),
            .created (h.failed n result) stored])) := by
  obtain ⟨payload, hread, named⟩ := read_of_isPayload hp
  obtain ⟨s₁, hlog, hs₁⟩ := log_silent hc hs [] (Log.info logger ("Executing automation rule " ++
    t.ruleText ++ " for trigger " ++ t.type.display))
  have hs₂ := hc.findRule t.ruleId s₁ hs₁
  have hfind : (observed c).findRule t.ruleId (s₁, []) = (.ok (some rule),
      ((c.findRule t.ruleId s₁).2, [.found t.ruleId (.ok (some rule))])) := by
    simp [observed, found s₁ hs₁]
  obtain ⟨started, s₃, hclock, hs₃⟩ := hc.clock _ hs₂
  have hstart : (observed c).clock ((c.findRule t.ruleId s₁).2, [.found t.ruleId (.ok (some rule))])
      = (.ok started, (s₃, [.found t.ruleId (.ok (some rule))])) := by
    simp [observed, hclock]
  let h : Header := ⟨t, Payload.snapshot t.payload, started, .ofText? rule.createdBy⟩
  have hh : Tells c sound h.started := ⟨_, s₃, hs₂, hclock⟩
  obtain ⟨active, met⟩ : rule.isActive = true ∧
      (Condition.isMet rule (.obj payload.named)).1 = true := by
    simpa [isDue, named] using due
  obtain ⟨s₄, hs₄, hmet⟩ := runActive_met hc hs₃ [.found t.ruleId (.ok (some rule))] p met
  obtain ⟨n, stored, s₅, hact⟩ := act_reported hc hh hs₄ [.found t.ruleId (.ok (some rule))] p hl
    failed fun s context hs => reports s payload context named hs
  refine ⟨h, n, stored, s₅, rfl, rfl, ?_⟩
  rw [execute, hread, Run.bind_of_ok (Run.ofExcept_apply _ _), Run.bind_of_ok hlog,
    Run.bind_of_ok hfind, Run.bind_of_ok hstart]
  dsimp only
  rw [if_pos active]
  exact hmet.trans hact

end TaskRules.Engine
