import TaskRules.Proofs.AuditTrail
import TaskRules.Proofs.PlainObjects

/-!
Requests to switch a rule on or off. The engine's status change is committed before the rule is read
again and shown, so a request that is answered well has done what it says, but one that is not may
have done it too: the conditions and the configurations of a stored rule can be any JSON, and only
objects and null can be shown.

Proved:
- `switchRule_cases`: all that a switch can do.
- `showRule_ok`, `showRule_presentable`: what is shown of a rule, and which rules are shown.
- `switch_tells`: a switch that answers 200 has set the status that it shows and changed nothing
  else; one that does not has changed nothing, or met a rule that cannot be shown.
- `a_rule_with_listed_conditions_is_switched_off`: the change that such a switch leaves behind.
-/

namespace TaskRules

/-! ## Showing a rule -/

/-- A rule that can be shown: its configurations and its conditions are objects or null, and its
texts have no lone halves. -/
structure StoredRule.Presentable (r : StoredRule) : Prop where
  triggerConfig : ∃ fields, r.rule.triggerConfig = Json.ofOption .obj fields
  conditions : ∃ fields, r.rule.conditions = Json.ofOption .obj fields
  actionConfig : ∃ fields, r.rule.actionConfig = Json.ofOption .obj fields
  whole : (Json.obj r.rule.toFields).isUnicode = true

theorem shownTime_isUnicode (m : Moment) : (shownTime (some (.plain m))).isUnicode = true := by
  have shown : shownTime (some (.plain m)) = .str m.iso := rfl
  rw [shown, Json.isUnicode_str]
  exact Text.isWhole_iso m

namespace RuleView

theorem objectColumn_of {v : Json} {fields : Option Json.Fields}
    (h : v = Json.ofOption .obj fields) : objectColumn v = .ok fields := by
  subst h
  cases fields <;> rfl

/-- The view of a rule with its configurations and its conditions as they are shown. -/
def viewed (r : StoredRule) (trigger conditions action : Option Json.Fields) : RuleView where
  id := r.rule.id
  name := r.rule.name
  description := r.rule.description
  status := r.rule.status
  triggerType := r.rule.triggerType
  triggerConfig := trigger
  conditions := conditions
  actionType := r.rule.actionType
  actionConfig := action
  projectId := r.rule.projectId
  createdBy := r.rule.createdBy
  createdAt := some (.plain r.createdAt)
  updatedAt := some (.plain r.updatedAt)

theorem ofStored_ok {r : StoredRule} {view : RuleView} (h : ofStored r = .ok view) :
    ∃ trigger conditions action, view = viewed r trigger conditions action := by
  obtain ⟨f, action, hf, -, rfl⟩ := Schema.and_ok h
  obtain ⟨g, conditions, hg, -, rfl⟩ := Schema.and_ok hf
  obtain ⟨k, trigger, hk, -, rfl⟩ := Schema.and_ok hg
  cases hk
  exact ⟨trigger, conditions, action, rfl⟩

theorem toFields_status {view : RuleView} {fields : Json.Fields}
    (h : view.toFields = .ok fields) :
    Json.Fields.get? fields "status" = some (.str view.status) := by
  obtain ⟨trigger, -, h⟩ := ok_of_bind h
  obtain ⟨conditions, -, h⟩ := ok_of_bind h
  obtain ⟨action, -, h⟩ := ok_of_bind h
  cases h
  rfl

/-- A rule that can be shown has a view, whose fields can be written. -/
theorem ofStored_presentable {r : StoredRule} (h : r.Presentable) :
    ∃ view fields, ofStored r = .ok view ∧ view.toFields = .ok fields ∧
      (Json.obj fields).isUnicode = true := by
  obtain ⟨trigger, htrigger⟩ := h.triggerConfig
  obtain ⟨conditions, hconditions⟩ := h.conditions
  obtain ⟨action, haction⟩ := h.actionConfig
  have whole := h.whole
  simp only [Rule.toFields, Json.isUnicode_obj, htrigger, hconditions, haction, List.all_cons,
    List.all_nil, Bool.and_true, Bool.and_eq_true] at whole
  obtain ⟨⟨-, id⟩, ⟨-, name⟩, ⟨-, status⟩, ⟨-, triggerType⟩, ⟨-, actionType⟩, ⟨-, wtrigger⟩,
    ⟨-, wconditions⟩, ⟨-, waction⟩, ⟨-, projectId⟩, ⟨-, createdBy⟩, -, description⟩ := whole
  obtain ⟨shownTrigger, ptrigger, utrigger⟩ := Json.plain?_isUnicode wtrigger
  obtain ⟨shownConditions, pconditions, uconditions⟩ := Json.plain?_isUnicode wconditions
  obtain ⟨shownAction, paction, uaction⟩ := Json.plain?_isUnicode waction
  have view : ofStored r = .ok (viewed r trigger conditions action) := by
    rw [ofStored, objectColumn_of htrigger, objectColumn_of hconditions, objectColumn_of haction]
    rfl
  have created := shownTime_isUnicode r.createdAt
  have updated := shownTime_isUnicode r.updatedAt
  refine ⟨_, _, view, by rw [toFields, viewed, ptrigger, pconditions, paction]; rfl, ?_⟩
  simp only [Json.isUnicode_obj, List.all_cons, List.all_nil, Bool.and_true, Bool.and_eq_true,
    id, name, status, triggerType, actionType, projectId, createdBy, description, utrigger,
    uconditions, uaction, created, updated]
  decide

end RuleView

namespace Api

open Engine (Setup World)
open Store (Switched SameButStatus)

/-- What is shown of a rule has its status. -/
theorem showRule_ok {r : StoredRule} {w w' : World} {answer : Answer}
    (h : showRule r w = (.ok answer, w')) :
    ∃ fields, answer = .ok (.obj fields) ∧
      Json.Fields.get? fields "status" = some (.str r.rule.status) := by
  unfold showRule at h
  cases hview : RuleView.ofStored r with
  | ok view =>
    rw [hview] at h
    obtain ⟨fields, _, hfields, ended⟩ := Run.ok_of_bind h
    obtain ⟨trigger, conditions, action, rfl⟩ := RuleView.ofStored_ok hview
    cases ended
    exact ⟨fields, rfl, RuleView.toFields_status (congrArg Prod.fst hfields)⟩
  | error problems =>
    rw [hview] at h
    cases h

/-- A rule that can be shown is shown, and the answer can be written. -/
theorem showRule_presentable {r : StoredRule} (h : r.Presentable) (w : World) :
    ∃ fields, showRule r w = (.ok (.ok (.obj fields)), w) ∧
      (Json.obj fields).isUnicode = true := by
  obtain ⟨view, fields, hview, hfields, whole⟩ := RuleView.ofStored_presentable h
  refine ⟨fields, ?_, whole⟩
  unfold showRule
  rw [hview]
  dsimp only
  rw [hfields]
  rfl

/-! ## Switching a rule -/

/-- Two rows that are found in turn under an id differ in their status and their stamp alone. -/
theorem sameButStatus_of_found {id : String} {rows rows' : List StoredRule} {r r' : StoredRule}
    {P : StoredRule → StoredRule → Prop}
    (h : List.Forall₂ (fun r r' => SameButStatus r r' ∧ P r r') rows rows')
    (found : rows.find? (·.rule.id == id) = some r)
    (found' : rows'.find? (·.rule.id == id) = some r') : SameButStatus r r' := by
  induction h with
  | nil => cases found
  | @cons first first' rest rest' same _ ih =>
    have ids : first'.rule.id = first.rule.id := by rw [same.1.rule]
    rw [List.find?_cons] at found found'
    rw [ids] at found'
    by_cases mine : (first.rule.id == id) = true
    · rw [mine] at found found'
      cases found
      cases found'
      exact same.1
    · rw [Bool.not_eq_true] at mine
      rw [mine] at found found'
      exact ih found found'

/-- A switch leaves the world when it fails or finds no rule; otherwise it sets the status, and is
answered by what is read of the rule afterwards. -/
theorem switchRule_cases (s : Service) (id status : String) (w : World) :
    (∃ e, switchRule s id status w = (.error e, w)) ∨
      switchRule s id status w = (.ok ruleMissing, w) ∨
      ∃ store, Switched id status w.store store ∧ store.refusal? = none ∧
        switchRule s id status w = getRule s id { w with store := store } := by
  unfold switchRule Service.useEngine
  cases s.isForeign with
  | true => exact .inl ⟨_, rfl⟩
  | false =>
    rw [if_neg Bool.false_ne_true]
    show (∃ e, (World.onStore (Store.setStatus (.str id) (.str status)) >>= _) w = _) ∨
      (World.onStore (Store.setStatus (.str id) (.str status)) >>= _) w = _ ∨
        ∃ store, _ ∧ _ ∧ (World.onStore (Store.setStatus (.str id) (.str status)) >>= _) w = _
    rcases Store.setStatus_cases id status w.store with
      ⟨e, hset⟩ | hset | ⟨rule, store, hset, switched⟩
    · left
      exact ⟨e, Run.bind_of_error (Engine.onStore_apply hset) _⟩
    · right; left
      rw [Run.bind_of_ok (Engine.onStore_apply hset)]
      rfl
    · right; right
      have reachable : store.refusal? = none := by
        rw [Store.refusal?, switched.outage, switched.hasTables]
        cases refused : w.store.refusal? with
        | none => exact refused
        | some e =>
          have : Store.setStatus (.str id) (.str status) w.store = (.error e, w.store) := by
            simp only [Store.setStatus, Store.mutate, refused]
          rw [this] at hset
          cases hset
      refine ⟨store, switched, reachable, ?_⟩
      rw [Run.bind_of_ok (Engine.onStore_apply hset)]

/-- A stored rule is looked up over a connection that works. -/
theorem storedRule_apply {s : Service} {w : World} (connected : s.outage = none)
    (reachable : w.store.refusal? = none) (id : String) :
    storedRule s id w = (.ok (w.store.db.rule? id), w) := by
  have asked : Store.query (fun db => .ok (db.rule? id)) w.store =
      (.ok (w.store.db.rule? id), w.store) := Store.query_ok reachable rfl
  unfold storedRule Service.reach
  rw [connected]
  exact Engine.onStore_apply asked

/-- A rule that is stored is read as it is shown. -/
theorem getRule_found {s : Service} {id : String} {w : World} {r : StoredRule}
    (connected : s.outage = none) (reachable : w.store.refusal? = none)
    (found : w.store.db.rule? id = some r) : getRule s id w = showRule r w := by
  have stored := storedRule_apply connected reachable id
  rw [found] at stored
  rw [getRule, Run.bind_of_ok stored]

/-- The route of a request to switch a rule on or off. -/
def switchRoute (on : Bool) (id : String) : Route := if on then .enable id else .disable id

theorem respondAt_switch (s : Service) (r : Request) (t : Target) (on : Bool) (id : String) :
    respondAt s r t (switchRoute on id) = (do
      needEngine s
      switchRule s id (statusOf on)) := by
  cases on <;> rfl

/-- An engine that is built on first use changes nothing stored. -/
theorem needEngine_store (s : Service) (w : World) :
    ∃ w', needEngine s w = (.ok (), w') ∧ w'.store = w.store := by
  have read : (Run.read : Run World World) w = (.ok w, w) := rfl
  rw [needEngine, Run.bind_of_ok read]
  cases w.hasEngine with
  | true => exact ⟨w, rfl, rfl⟩
  | false => exact ⟨_, rfl, rfl⟩

/-- The answer that is sent for what a route gives. -/
def sent : Except Fault Answer → Answer
  | .ok answer => answer.written
  | .error _ => .crash

theorem respondOn_apply {s : Service} {r : Request} {t : Target} {route : Route}
    (method : r.verb = route.method) (w : World) :
    respondOn s r t route w =
      (.ok (sent (respondAt s r t route w).1), (respondAt s r t route w).2) := by
  rw [respondOn, if_pos method, Run.bind_of_ok (Run.attempt_apply _ w)]
  cases (respondAt s r t route w).1 with
  | ok answer => rfl
  | error e => rfl

/-- A rule that is read and sent well is sent with its status. -/
theorem getRule_sent {s : Service} {id : String} {w : World} {r : StoredRule}
    (reachable : w.store.refusal? = none) (found : w.store.db.rule? id = some r)
    (well : (sent (getRule s id w).1).status = 200) :
    ∃ fields, sent (getRule s id w).1 = .ok (.obj fields) ∧
      Json.Fields.get? fields "status" = some (.str r.rule.status) := by
  cases connected : s.outage with
  | some e =>
    have failed : getRule s id w = (.error e, w) := by
      unfold getRule storedRule Service.reach
      rw [connected]
      rfl
    rw [failed] at well
    cases well
  | none =>
    rw [getRule_found connected reachable found] at well ⊢
    rcases shown : showRule r w with ⟨answer | answer, w'⟩
    · rw [shown] at well
      cases well
    · obtain ⟨fields, rfl, status⟩ := showRule_ok shown
      rw [shown] at well
      refine ⟨fields, ?_, status⟩
      unfold sent Answer.ok Answer.written at well ⊢
      by_cases whole : (Json.obj fields).isUnicode = true
      · simp only [whole, if_true]
      · simp [whole, Answer.status, Answer.crash] at well

/-- A rule that is read and not sent well cannot be shown, unless it could not be read. -/
theorem getRule_unsent {s : Service} {id : String} {w : World} {r : StoredRule}
    (reachable : w.store.refusal? = none) (found : w.store.db.rule? id = some r)
    (badly : (sent (getRule s id w).1).status ≠ 200) :
    s.outage.isSome = true ∨ ¬ r.Presentable := by
  cases connected : s.outage with
  | some e => exact .inl rfl
  | none =>
    right
    intro presentable
    obtain ⟨fields, shown, whole⟩ := showRule_presentable presentable w
    rw [getRule_found connected reachable found, shown] at badly
    apply badly
    simp [sent, Answer.ok, Answer.written, whole, Answer.status]

/-- A switch that was made: the rule before and after it. -/
structure Toggled (id status : String) (w w' : World) (before after : StoredRule) : Prop where
  switched : Switched id status w.store w'.store
  was : w.store.db.rule? id = some before
  is : w'.store.db.rule? id = some after
  same : SameButStatus before after
  status : after.rule.status = status

theorem toggled_of_switched {id status : String} {w w' : World}
    (h : Switched id status w.store w'.store) :
    ∃ before after, Toggled id status w w' before after := by
  obtain ⟨before, after, was, is, hstatus⟩ := h.status
  exact ⟨before, after, h, was, is, sameButStatus_of_found h.rows was is, hstatus⟩

/-- A request to switch a rule on or off is always answered. When the answer is 200, the rule has
the status that was asked for, and shows it; its other fields but the stamp are as before, and so is
everything else. When the answer is another one, everything is as before; or else the status was set
all the same, and the rule could not be read again or cannot be shown. -/
theorem switch_tells (s : Service) (r : Request) (t : Target) (on : Bool) (id : String) (w : World)
    (post : r.verb = "POST") :
    ∃ answer w', respondOn s r t (switchRoute on id) w = (.ok answer, w') ∧
      (answer.status = 200 → ∃ before after fields,
        Toggled id (statusOf on) w w' before after ∧ answer = .ok (.obj fields) ∧
          Json.Fields.get? fields "status" = some (.str (statusOf on))) ∧
      (answer.status ≠ 200 → w'.store.db = w.store.db ∨ ∃ before after,
        Toggled id (statusOf on) w w' before after ∧
          (s.outage.isSome = true ∨ ¬ after.Presentable)) := by
  obtain ⟨w₁, needed, same⟩ := needEngine_store s w
  have method : r.verb = (switchRoute on id).method := by
    cases on <;> exact post
  rw [respondOn_apply method, respondAt_switch, Run.bind_of_ok needed]
  rcases switchRule_cases s id (statusOf on) w₁ with
    ⟨e, failed⟩ | missing | ⟨store, switched, reachable, shown⟩
  · rw [failed]
    refine ⟨_, _, rfl, fun well => ?_, fun _ => .inl (congrArg Store.db same)⟩
    cases well
  · have refused : (sent (.ok ruleMissing)).status = 404 := by decide +kernel
    rw [missing]
    refine ⟨_, _, rfl, fun well => ?_, fun _ => .inl (congrArg Store.db same)⟩
    cases refused.symm.trans well
  · rw [shown]
    rw [same] at switched
    have still : (getRule s id { w₁ with store := store }).2 = { w₁ with store := store } :=
      (getRule_still s id).state _ rfl
    obtain ⟨before, after, toggled⟩ : ∃ before after,
        Toggled id (statusOf on) w { w₁ with store := store } before after :=
      toggled_of_switched switched
    rw [still]
    refine ⟨_, _, rfl, fun well => ?_, fun badly => ?_⟩
    · obtain ⟨fields, answer, status⟩ := getRule_sent reachable toggled.is well
      rw [toggled.status] at status
      exact ⟨before, after, fields, toggled, answer, status⟩
    · exact .inr ⟨before, after, toggled, getRule_unsent reachable toggled.is badly⟩

/-! ## A rule whose conditions are a list -/

/-- A world with one active rule, under some conditions. -/
def ruledBy (conditions : Json) : World :=
  let db := Queue.greeting.store.db
  { Queue.greeting with
    store := { Queue.greeting.store with
      db := { db with rules := db.rules.map fun r => { r with rule.conditions := conditions } } } }

def offRequest : Request where
  method := "POST"
  target := "/api/v1/automation/rules/r-1/disable"

/-- The request to switch the rule off. -/
def switchOff : Run World Answer :=
  respondOn recordingService offRequest ⟨offRequest.target.toList, []⟩ (switchRoute false "r-1")

/-- The status of an answer, if there is one. -/
def statusIn : Except Fault Answer → Option Nat
  | .ok answer => some answer.status
  | .error _ => none

theorem a_rule_is_switched_off :
    offRequest.verb = "POST" ∧ ∃ answer w', switchOff (ruledBy .null) = (.ok answer, w') ∧
      answer.status = 200 ∧ ∃ before after,
        Toggled "r-1" Rule.inactive (ruledBy .null) w' before after := by
  have post : offRequest.verb = "POST" := by decide +kernel
  obtain ⟨answer, w', run, well, -⟩ := switch_tells recordingService offRequest
    ⟨offRequest.target.toList, []⟩ false "r-1" (ruledBy .null) post
  have status : statusIn (switchOff (ruledBy .null)).1 = some 200 := by decide +kernel
  rw [switchOff, run] at status
  obtain ⟨before, after, -, toggled, -⟩ := well (Option.some.inj status)
  exact ⟨post, answer, w', run, Option.some.inj status, before, after, toggled⟩

/-- Conditions as rule authors may write them: a list, all of whose items have to hold. -/
def listedConditions : Json :=
  .arr [.obj [("field", .str "task.type"), ("operator", .str "equals"), ("value", .str "BUG")]]

theorem a_rule_with_listed_conditions_is_switched_off :
    let w := ruledBy listedConditions
    statusIn (switchOff w).1 = some 500 ∧
      (w.store.db.rule? "r-1").map (·.rule.status) = some Rule.active ∧
      ((switchOff w).2.store.db.rule? "r-1").map (·.rule.status) = some Rule.inactive := by
  decide +kernel

end Api
end TaskRules
