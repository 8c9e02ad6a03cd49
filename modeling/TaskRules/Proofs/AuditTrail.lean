import TaskRules.Api.Respond
import TaskRules.Proofs.RecordStore
import TaskRules.Proofs.SingleCommit

/-!
The trail that a history of runs and requests leaves in the store. Runs add records and touch no
rule; switches change the status of one rule; reading and listing change nothing. So whatever the
order of the steps, the records of a rule are those of its runs, and its status is the one that the
latest switch left (`left`).

A run owes a record when the look-up of its rule was answered and the rule is active, or runs of
other rules are recorded too (`Setup.owes`).

Rules of a history (`AllServed`):
  limit    the time limit of a run is none, or a number
  clock    the milliseconds between any two readings can be told
  records  every record that a run hands over is taken

Proved:
- `execute_records`, `execute_dispatches`: the record of one run, and what it may dispatch.
- `Step.advances`, `advances`: what a step does to records and rules, and by induction a history.
- `history_leaves_its_trail`: the trail of a history.
- `a_lone_half_leaves_no_record`: a run whose rule cannot be looked up owes nothing.
-/

namespace TaskRules.Engine

/-! ## One run -/

/-- A request to run a rule as callers make it. -/
structure Order where
  ruleId : String
  type : Json
  payload : Option Json.Fields := none
  triggeredBy : Option String := none
  jobId : Option String := none
  limit : Json := .null

def Order.trigger (o : Order) : Trigger where
  ruleId := .str o.ruleId
  type := o.type
  payload := Json.ofOption .obj o.payload
  triggeredBy := .ofText? o.triggeredBy
  jobId := .ofText? o.jobId
  limit := o.limit

/-- A row that records a run of an order. -/
structure Order.RecordedBy (o : Order) (row : Execution) : Prop where
  ruleId : row.ruleId = o.ruleId
  triggerType : row.triggerType = o.type.display
  triggerData : row.triggerData = Payload.snapshot o.trigger.payload
  triggeredById : row.triggeredById = o.triggeredBy
  jobId : row.jobId = o.jobId

/-- The drafts that the store of records took. -/
def taken (l : List Call) : List Execution.Draft :=
  l.filterMap fun
    | .created draft (.ok _) => some draft
    | _ => none

/-- What a run has done to the store: its look-ups were answered from the rules at the start, and
every draft that was taken has its row. -/
structure Kept (w₀ : World) (p : World × List Call) : Prop where
  found : ∀ id answer, .found id answer ∈ p.2 → answer = (Store.findRule id w₀.store).1
  rows : ∃ added, w₀.store.Grown added p.1.store ∧
    List.Forall₂ (fun draft row => Execution.Keeps row draft) (taken p.2) added

theorem Kept.snoc {w₀ w w' : World} {l : List Call} (h : Kept w₀ (w, l)) {call : Call}
    (found : ∀ id answer, call = .found id answer → answer = (Store.findRule id w.store).1)
    (row : ∃ added, w.store.Grown added w'.store ∧
      List.Forall₂ (fun draft row => Execution.Keeps row draft) (taken [call]) added) :
    Kept w₀ (w', l ++ [call]) := by
  obtain ⟨before, grown, rows⟩ := h.rows
  obtain ⟨added, more, row⟩ := row
  constructor
  · intro id answer hmem
    rcases List.mem_append.mp hmem with hmem | hmem
    · exact h.found id answer hmem
    · rw [found id answer (List.mem_singleton.mp hmem).symm, Store.findRule_grown id grown]
  · refine ⟨before ++ added, grown.trans more, ?_⟩
    show List.Forall₂ _ (taken (l ++ [call])) _
    rw [taken, List.filterMap_append]
    exact List.rel_append rows row

theorem Kept.pass {w₀ w w' : World} {l : List Call} (h : Kept w₀ (w, l))
    (same : w'.store = w.store) : Kept w₀ (w', l) :=
  ⟨h.found, by rw [same]; exact h.rows⟩

theorem clock_store (w : World) : (World.clock w).2.store = w.store := by
  unfold World.clock
  split
  · rfl
  · rfl
  · rfl

theorem kept_keep (s : Setup) (w₀ : World) : (observed s.collaborators).Keep (Kept w₀) where
  findRule id := by
    refine ⟨fun (w, l) h => h.snoc ?_ ⟨[], ?_, .nil⟩⟩
    · rintro id' answer ⟨⟩
      rfl
    · show w.store.Grown [] (Store.findRule id w.store).2
      rw [Store.findRule, Store.query_apply]
      exact .refl w.store
  dispatch limit rule payload context := by
    refine ⟨fun (w, l) h => h.snoc (fun _ _ other => ?_) ⟨[], ?_, .nil⟩⟩
    · cases other
    · exact ((dispatchWithin_keeps s limit rule payload context).state w (.refl w)).store.grown
  create draft := by
    refine ⟨fun (w, l) h => h.snoc (fun _ _ other => ?_) ?_⟩
    · cases other
    · show ∃ added, w.store.Grown added (s.createRecord draft w).2.store ∧
        List.Forall₂ _ (taken [.created draft (s.createRecord draft w).1]) added
      unfold Setup.createRecord
      cases s.auditFault with
      | some fault => exact ⟨[], .refl w.store, .nil⟩
      | none =>
        show ∃ added, w.store.Grown added (Store.createExecution draft w.store).2 ∧
          List.Forall₂ _ (taken [.created draft (Store.createExecution draft w.store).1]) added
        rcases Store.createExecution_cases draft w.store with
          ⟨e, refused, grown⟩ | ⟨row, keeps, saved, grown⟩
        · rw [refused]
          exact ⟨[], grown, .nil⟩
        · rw [saved]
          exact ⟨[row], grown, .cons keeps .nil⟩
  clock := ⟨fun (w, _) h => h.pass (clock_store w)⟩
  log _ := ⟨fun (_, _) h => h.pass rfl⟩

/-- The store of records takes every record of a run, and the clock tells times. -/
structure Served (s : Setup) (t : Trigger) (w : World) : Prop where
  limit : IsLimit (t.limitUnder s.policy)
  timely : Timely w
  healthy : ∀ draft stored, (draft, stored) ∈ creates (calls s.collaborators s.policy t w) →
    ∃ saved, stored = .ok saved

/-- Whether a run of an order owes a record: the look-up of the rule has to be answered, and the
rule to be active unless other runs are recorded too. -/
def Setup.owes (s : Setup) (o : Order) (w : World) : Bool :=
  match (Store.findRule (.str o.ruleId) w.store).1 with
  | .ok rule => isLive rule || s.policy.recordMissing.truthy
  | .error _ => false

theorem Exit.drafts {kind : Json → Prop} {p : Policy} {h : Header} {rule : Option Rule}
    {made : List Call} {answer : Except Fault Outcome} (exit : Exit kind p h rule made answer) :
    (isLive rule || p.recordMissing.truthy) = false ∧ creates made = [] ∨
      (isLive rule || p.recordMissing.truthy) = true ∧
        ∃ n success outcome result error stored,
          creates made = [(h.draft n success outcome result error, stored)] := by
  cases exit with
  | silent n live unrecorded => exact .inl ⟨by simp [live, unrecorded], rfl⟩
  | unavailable n stored live recorded =>
    exact .inr ⟨by simp [recorded], n, _, _, _, _, stored, rfl⟩
  | unmet n stored live idle => exact .inr ⟨by simp [live], n, _, _, _, _, stored, rfl⟩
  | failed n stored text found due fails =>
    exact .inr ⟨by simp [isLive_of_due due], n, _, _, _, _, stored, rfl⟩
  | succeeded n stored found due success reported =>
    exact .inr ⟨by simp [isLive_of_due due], n, _, _, _, _, stored, rfl⟩

theorem Exit.dispatched {kind : Json → Prop} {p : Policy} {h : Header} {rule : Option Rule}
    {made : List Call} {answer : Except Fault Outcome} (exit : Exit kind p h rule made answer)
    {r : Rule} {ending : Except Fault Dispatched} (hmem : .dispatched r ending ∈ made) :
    rule = some r ∧ r.isActive = true := by
  have live {r' : Rule} (found : rule = some r') (due : isDue h.trigger rule = true)
      (same : r = r') : rule = some r ∧ r.isActive = true := by
    subst found same
    exact ⟨rfl, isLive_of_due due⟩
  cases exit with
  | silent n live unrecorded => cases hmem
  | unavailable n stored idle recorded => simp at hmem
  | unmet n stored active idle => simp at hmem
  | failed n stored text found due fails =>
    exact live found due (by simp at hmem; exact hmem.1)
  | succeeded n stored found due success reported =>
    exact live found due (by simp at hmem; exact hmem.1)

theorem Order.isPayload (o : Order) : IsPayload o.trigger.payload := by
  cases h : o.payload with
  | none => exact .inl (by simp [Order.trigger, h, Json.ofOption])
  | some fields => exact .inr ⟨fields, by simp [Order.trigger, h, Json.ofOption]⟩

theorem snapshot_isObject {v : Json} (h : IsPayload v) :
    ∃ fields, Payload.snapshot v = .obj fields := by
  rcases h with rfl | ⟨fields, rfl⟩
  · exact ⟨[], rfl⟩
  · exact ⟨fields, rfl⟩

theorem Order.recordedBy_of_keeps {o : Order} {h : Header} (same : h.trigger = o.trigger)
    (data : h.data = Payload.snapshot o.trigger.payload) {n : Int} {success : Bool}
    {outcome : String} {result : Json} {error : Option String} {row : Execution}
    (keeps : row.Keeps (h.draft n success outcome result error)) : o.RecordedBy row where
  ruleId := keeps.ruleId _ (by rw [Header.draft, same]; rfl)
  triggerType := keeps.triggerType _ (by rw [Header.draft, same]; rfl)
  triggerData := by
    obtain ⟨fields, hfields⟩ := snapshot_isObject o.isPayload
    rw [hfields]
    exact keeps.triggerData fields (data.trans hfields)
  triggeredById := keeps.triggeredById _ (by rw [Header.draft, same]; rfl)
  jobId := keeps.jobId _ (by rw [Header.draft, same]; rfl)

/-- A run of an order that is served: it looks up the rule, leaves by an exit, and keeps what the
store of records took. -/
theorem execute_runs {s : Setup} {o : Order} {w : World} (served : Served s o.trigger w) :
    ∃ made answer,
      calls s.collaborators s.policy o.trigger w =
        .found (.str o.ruleId) (Store.findRule (.str o.ruleId) w.store).1 :: made ∧
      Leaves (fun _ => True) s.policy o.trigger (Store.findRule (.str o.ruleId) w.store).1 made
        answer ∧
      Kept w ((s.execute o.trigger w).2, calls s.collaborators s.policy o.trigger w) := by
  have reporting : Reporting s.collaborators (fun w' => w'.readings ⊆ w.readings) fun _ => True :=
    fun _ _ _ _ _ _ _ _ _ => trivial
  obtain ⟨found, answer, w', made, hrun, leaves⟩ :=
    execute_exit (collaborators_steady s served.timely) reporting s.policy o.trigger o.isPayload
      served.limit (List.Subset.refl w.readings)
  have initially : Kept w (w, []) := ⟨by simp, [], .refl w.store, .nil⟩
  have kept := (execute_keeps (kept_keep s w) s.policy o.trigger).state (w, []) initially
  have state := (observed_follows s.collaborators s.policy o.trigger).state w []
  have hcalls : calls s.collaborators s.policy o.trigger w =
      .found o.trigger.ruleId found :: made := by
    rw [calls, hrun]
  rw [hrun] at kept state
  obtain rfl : found = (Store.findRule (.str o.ruleId) w.store).1 :=
    kept.found _ _ (List.mem_cons_self ..)
  refine ⟨made, answer, hcalls, leaves, ?_⟩
  rw [hcalls, Setup.execute, ← state]
  exact kept

theorem taken_of_healthy {l : List Call}
    (h : ∀ draft stored, (draft, stored) ∈ creates l → ∃ saved, stored = .ok saved) :
    taken l = (creates l).map (·.1) := by
  induction l with
  | nil => rfl
  | cons call rest ih =>
    cases call with
    | found id answer => exact ih h
    | dispatched rule ending => exact ih h
    | created draft stored =>
      obtain ⟨saved, rfl⟩ := h draft stored (List.mem_cons_self ..)
      exact congrArg (draft :: ·) (ih fun d s hd => h d s (List.mem_cons_of_mem _ hd))

/-- A run of an order that is served adds one row when it owes a record, and none otherwise. -/
theorem execute_records {s : Setup} {o : Order} {w : World} (served : Served s o.trigger w) :
    ∃ added, w.store.Grown added (s.execute o.trigger w).2.store ∧
      List.Forall₂ Order.RecordedBy (if s.owes o w then [o] else []) added := by
  obtain ⟨made, answer, hcalls, leaves, kept⟩ := execute_runs served
  obtain ⟨added, grown, rows⟩ := kept.rows
  refine ⟨added, grown, ?_⟩
  replace rows : List.Forall₂ _ (taken (calls s.collaborators s.policy o.trigger w)) added := rows
  rw [taken_of_healthy served.healthy, hcalls] at rows
  unfold Setup.owes
  generalize (Store.findRule (.str o.ruleId) w.store).1 = found at leaves rows ⊢
  cases leaves with
  | unread e =>
    cases rows
    exact .nil
  | read same exit data =>
    dsimp only
    rcases exit.drafts with ⟨idle, none⟩ | ⟨owed, n, success, outcome, result, error, stored, one⟩
    · replace rows : List.Forall₂ _ ((creates made).map (·.1)) added := rows
      rw [none] at rows
      rw [if_neg (by rw [idle]; exact Bool.false_ne_true)]
      cases rows
      exact .nil
    · replace rows : List.Forall₂ _ ((creates made).map (·.1)) added := rows
      rw [one] at rows
      rw [if_pos owed]
      cases rows with
      | cons keeps rest =>
        cases rest
        exact .cons (Order.recordedBy_of_keeps same data keeps) .nil

/-- An action is dispatched only for the stored rule, and only while that is active. -/
theorem execute_dispatches {s : Setup} {o : Order} {w : World} (served : Served s o.trigger w)
    {r : Rule} {ending : Except Fault Dispatched}
    (h : .dispatched r ending ∈ calls s.collaborators s.policy o.trigger w) :
    (w.store.db.rule? o.ruleId).map (·.rule) = some r ∧ r.isActive = true := by
  obtain ⟨made, answer, hcalls, leaves, -⟩ := execute_runs served
  rw [hcalls] at h
  replace h : .dispatched r ending ∈ made := by simpa using h
  generalize hfound : (Store.findRule (.str o.ruleId) w.store).1 = found at leaves
  cases leaves with
  | unread e => cases h
  | read same exit data =>
    obtain ⟨rfl, live⟩ := exit.dispatched h
    exact ⟨(Store.findRule_ok hfound).symm, live⟩

end TaskRules.Engine

namespace TaskRules.Api

open Engine (Setup World Order Served)

/-! ## Requests -/

section Requests
variable {w₀ : World} (s : Service) (id : String)

theorem query_still (f : Database → Except Fault α) :
    Run.Keeps (· = w₀) (World.onStore (Store.query f)) := by
  constructor
  rintro w rfl
  show { w with store := (Store.query f w.store).2 } = w
  rw [Store.query_apply]

theorem storedRule_still : Run.Keeps (· = w₀) (storedRule s id) := by
  refine .bind ?_ fun _ => query_still _
  unfold Service.reach
  split
  · exact .ofRaise _
  · exact .ofPure ()

theorem useEngine_still : Run.Keeps (· = w₀) s.useEngine := by
  unfold Service.useEngine
  split
  · exact .ofRaise _
  · exact .ofPure ()

/-- Reading a rule changes nothing. -/
theorem getRule_still : Run.Keeps (· = w₀) (getRule s id) := by
  refine .bind (storedRule_still s id) fun r => ?_
  cases r with
  | none => exact .ofPure _
  | some r =>
    unfold showRule
    dsimp only
    split
    · exact .bind (.ofResult _) fun _ => .ofPure _
    · exact .ofRaise _

/-- Listing the records of a rule changes nothing. -/
theorem listRecords_still (q : ListRequest) : Run.Keeps (· = w₀) (listRecords s id q) := by
  refine .bind (storedRule_still s id) fun r => ?_
  cases r with
  | none => exact .ofPure _
  | some r =>
    exact .bind (.ofResult _) fun _ => .bind (useEngine_still s) fun _ =>
      .bind (query_still _) fun _ => .bind (.ofResult _) fun _ => .ofPure _

/-- A switch reaches the store unless the engine runs no rules, and changes nothing else. -/
theorem switchRule_after (status : String) (w : World) :
    (switchRule s id status w).2 =
      if s.isForeign then w
      else { w with store := (Store.setStatus (.str id) (.str status) w.store).2 } := by
  unfold switchRule Service.useEngine
  cases s.isForeign with
  | true => rfl
  | false =>
    rcases hset : Store.setStatus (.str id) (.str status) w.store with ⟨answer, store⟩
    have hrun := Engine.onStore_apply hset
    rw [if_neg Bool.false_ne_true, if_neg Bool.false_ne_true]
    show ((World.onStore (Store.setStatus (.str id) (.str status)) >>= _) w).2 = _
    rcases answer with e | (_ | rule)
    · rw [Run.bind_of_error hrun]
    · rw [Run.bind_of_ok hrun]
      rfl
    · rw [Run.bind_of_ok hrun]
      exact (getRule_still s id).state _ rfl

end Requests

/-! ## Histories -/

/-- The status that a switch sets. -/
def statusOf (on : Bool) : String := if on then Rule.active else Rule.inactive

/-- A step of a history: a run of a rule, a request to the service, or what goes on elsewhere
without touching rules and records. -/
inductive Step where
  | execute (setup : Setup) (order : Order)
  | switch (service : Service) (id : String) (on : Bool)
  | read (service : Service) (id : String)
  | list (service : Service) (id : String) (query : ListRequest)
  | elapse (f : World → World) (spares : ∀ w : World, w.store.db.SameBooks (f w).store.db)

namespace Step

/-- The world after a step. -/
def after : Step → World → World
  | .execute s o, w => (s.execute o.trigger w).2
  | .switch s id on, w => (switchRule s id (statusOf on) w).2
  | .read s id, w => (getRule s id w).2
  | .list s id q, w => (listRecords s id q w).2
  | .elapse f _, w => f w

/-- The orders whose runs owe a record. -/
def owed : Step → World → List Order
  | .execute s o, w => if s.owes o w then [o] else []
  | _, _ => []

/-- The status that a step leaves a rule with: the one it sets, if it reaches the rule. -/
def leaves (id : String) : Step → World → Option String
  | .switch s id' on, w =>
    if s.isForeign then none
    else
      match (Store.setStatus (.str id') (.str (statusOf on)) w.store).1 with
      | .ok (some _) => if id = id' then some (statusOf on) else none
      | _ => none
  | _, _ => none

/-- Runs of rules are served; requests need nothing. -/
def IsServed : Step → World → Prop
  | .execute s o, w => Served s o.trigger w
  | _, _ => True

end Step

/-- The world after some steps. -/
def after (steps : List Step) (w : World) : World := steps.foldl (fun w step => step.after w) w

/-- The orders whose runs owe a record, in order. -/
def owed : List Step → World → List Order
  | [], _ => []
  | step :: rest, w => step.owed w ++ owed rest (step.after w)

/-- The status that the latest switch that reached a rule left it with. -/
def left (id : String) : List Step → World → Option String
  | [], _ => none
  | step :: rest, w => (left id rest (step.after w)).or (step.leaves id w)

/-- Every run of a rule is served. -/
def AllServed : List Step → World → Prop
  | [], _ => True
  | step :: rest, w => step.IsServed w ∧ AllServed rest (step.after w)

/-- What happens to rules and records while some records are owed and some statuses are left. -/
structure Advances (w : World) (owed : List Order) (left : String → Option String) (w' : World) :
    Prop where
  records : ∃ added, w'.store.db.executions = w.store.db.executions ++ added ∧
    List.Forall₂ Order.RecordedBy owed added
  rules : List.Forall₂ (fun r r' => Store.SameButStatus r r' ∧ (left r.rule.id = none → r' = r))
    w.store.db.rules w'.store.db.rules
  status : ∀ id, (w'.store.db.rule? id).map (·.rule.status) =
    (w.store.db.rule? id).map fun r => (left id).getD r.rule.status

theorem forall₂_trans {R : α → β → Prop} {S : β → γ → Prop} {T : α → γ → Prop}
    (h : ∀ a b c, R a b → S b c → T a c) {l₁ : List α} {l₂ : List β} {l₃ : List γ}
    (first : List.Forall₂ R l₁ l₂) (second : List.Forall₂ S l₂ l₃) : List.Forall₂ T l₁ l₃ := by
  induction first generalizing l₃ with
  | nil =>
    cases second
    exact .nil
  | cons hr _ ih =>
    cases second with
    | cons hs rest => exact .cons (h _ _ _ hr hs) (ih rest)

namespace Advances

theorem of_rules {w w' : World} {owed : List Order} (rules : w'.store.db.rules = w.store.db.rules)
    (records : ∃ added, w'.store.db.executions = w.store.db.executions ++ added ∧
      List.Forall₂ Order.RecordedBy owed added) : Advances w owed (fun _ => none) w' where
  records := records
  rules := by
    rw [rules]
    exact List.forall₂_same.mpr fun r _ => ⟨.refl r, fun _ => rfl⟩
  status id := by
    rw [Database.rule?, Database.rule?, rules]
    rfl

theorem refl (w : World) : Advances w [] (fun _ => none) w :=
  of_rules rfl ⟨[], (List.append_nil _).symm, .nil⟩

theorem trans {w₁ w₂ w₃ : World} {owed₁ owed₂ : List Order} {left₁ left₂ : String → Option String}
    (h : Advances w₁ owed₁ left₁ w₂) (h' : Advances w₂ owed₂ left₂ w₃) :
    Advances w₁ (owed₁ ++ owed₂) (fun id => (left₂ id).or (left₁ id)) w₃ where
  records := by
    obtain ⟨added, hadded, rows⟩ := h.records
    obtain ⟨more, hmore, rows'⟩ := h'.records
    refine ⟨added ++ more, ?_, List.rel_append rows rows'⟩
    rw [hmore, hadded, List.append_assoc]
  rules := by
    refine forall₂_trans (fun r r' r'' hr hr' => ⟨hr.1.trans hr'.1, fun none => ?_⟩)
      h.rules h'.rules
    have ids : r'.rule.id = r.rule.id := by rw [hr.1.rule]
    obtain ⟨none₂, none₁⟩ := Option.or_eq_none_iff.mp none
    rw [hr'.2 (ids ▸ none₂), hr.2 none₁]
  status id := by
    have later (o : Option StoredRule) : (o.map fun r => (left₂ id).getD r.rule.status) =
        (o.map (·.rule.status)).map (left₂ id).getD := by rw [Option.map_map]; rfl
    rw [h'.status id, later, h.status id, Option.map_map]
    congr 1
    funext r
    cases left₂ id <;> rfl

/-- A switch that reaches a rule leaves it with the status it sets. -/
theorem of_switched {w w' : World} {id status : String}
    (h : Store.Switched id status w.store w'.store) :
    Advances w [] (fun other => if other = id then some status else none) w' where
  records := ⟨[], by rw [h.others, List.append_nil], .nil⟩
  rules := h.rows.imp fun r r' hr => ⟨hr.1, fun none => hr.2 fun same => by simp [same] at none⟩
  status other := by
    by_cases same : other = id
    · subst same
      obtain ⟨r, r', hr, hr', hstatus⟩ := h.status
      rw [hr, hr', if_pos rfl]
      exact congrArg some hstatus
    · rw [Database.rule?, Database.rule?, Store.find?_of_other same h.rows, if_neg same]
      rfl

end Advances

theorem switch_advances (s : Service) (id : String) (on : Bool) (w : World) :
    Advances w [] (Step.leaves · (.switch s id on) w) (switchRule s id (statusOf on) w).2 := by
  have idle (h : ∀ other, Step.leaves other (.switch s id on) w = none) :
      Advances w [] (Step.leaves · (.switch s id on) w) w := by
    rw [funext h]
    exact .refl w
  rw [switchRule_after]
  cases foreign : s.isForeign with
  | true => exact idle fun other => by simp [Step.leaves, foreign]
  | false =>
    rw [if_neg Bool.false_ne_true]
    rcases Store.setStatus_cases id (statusOf on) w.store with
      ⟨e, hset⟩ | hset | ⟨r, store, hset, switched⟩
    · rw [hset]
      exact idle fun other => by simp [Step.leaves, foreign, hset]
    · rw [hset]
      exact idle fun other => by simp [Step.leaves, foreign, hset]
    · have leaves : (Step.leaves · (.switch s id on) w) =
          fun other => if other = id then some (statusOf on) else none := by
        funext other
        simp [Step.leaves, foreign, hset]
      rw [hset, leaves]
      exact .of_switched switched

/-- A step whose runs are served. -/
theorem Step.advances {step : Step} {w : World} (served : step.IsServed w) :
    Advances w (step.owed w) (step.leaves · w) (step.after w) := by
  cases step with
  | execute s o =>
    obtain ⟨added, grown, rows⟩ := Engine.execute_records served
    exact .of_rules grown.rules ⟨added, grown.executions, rows⟩
  | switch s id on => exact switch_advances s id on w
  | read s id =>
    show Advances w [] (fun _ => none) (getRule s id w).2
    rw [(getRule_still s id).state w rfl]
    exact .refl w
  | list s id q =>
    show Advances w [] (fun _ => none) (listRecords s id q w).2
    rw [(listRecords_still s id q).state w rfl]
    exact .refl w
  | elapse f spares =>
    have books := spares w
    exact .of_rules books.rules ⟨[], by rw [List.append_nil]; exact books.executions, .nil⟩

/-- A history whose runs are served. -/
theorem advances {steps : List Step} {w : World} (served : AllServed steps w) :
    Advances w (owed steps w) (left · steps w) (after steps w) := by
  induction steps generalizing w with
  | nil => exact .refl w
  | cons step rest ih => exact (step.advances served.1).trans (ih served.2)

theorem after_append (before rest : List Step) (w : World) :
    after (before ++ rest) w = after rest (after before w) := List.foldl_append

theorem allServed_append {before rest : List Step} {w : World} :
    AllServed (before ++ rest) w ↔ AllServed before w ∧ AllServed rest (after before w) := by
  induction before generalizing w with
  | nil => exact ⟨fun h => ⟨trivial, h⟩, And.right⟩
  | cons step before ih =>
    show step.IsServed w ∧ AllServed (before ++ rest) (step.after w) ↔ _
    rw [ih, ← and_assoc]
    rfl

/-- Requests to switch and read rules and to list records. -/
def Step.IsRequest : Step → Prop
  | .switch .. => True
  | .read .. => True
  | .list .. => True
  | _ => False

/-- A request changes nothing but rules. -/
theorem Step.request_spares {step : Step} (h : step.IsRequest) (w : World) :
    (step.after w).store.db = { w.store.db with rules := (step.after w).store.db.rules } := by
  cases step with
  | execute s o => cases h
  | switch s id on =>
    show (switchRule s id (statusOf on) w).2.store.db =
      { w.store.db with rules := (switchRule s id (statusOf on) w).2.store.db.rules }
    rw [switchRule_after]
    split
    · rfl
    · rcases Store.setStatus_cases id (statusOf on) w.store with
        ⟨e, hset⟩ | hset | ⟨r, store, hset, switched⟩
      · rw [hset]
      · rw [hset]
      · rw [hset]
        exact switched.others
  | read s id =>
    have still := (getRule_still s id).state w rfl
    show (getRule s id w).2.store.db =
      { w.store.db with rules := (getRule s id w).2.store.db.rules }
    rw [still]
  | list s id q =>
    have still := (listRecords_still s id q).state w rfl
    show (listRecords s id q w).2.store.db =
      { w.store.db with rules := (listRecords s id q w).2.store.db.rules }
    rw [still]
  | elapse f spares => cases h

/-- The trail that a history leaves. -/
structure Trail (steps : List Step) (w : World) : Prop where
  /-- A record that was written stays as it is. -/
  kept : ∀ before rest, steps = before ++ rest →
    (after before w).store.db.executions <+: (after steps w).store.db.executions
  /-- The new records are those that are owed, in order, and so are those of each rule. -/
  records : ∃ added, (after steps w).store.db.executions = w.store.db.executions ++ added ∧
    List.Forall₂ Order.RecordedBy (owed steps w) added ∧
    ∀ id, List.Forall₂ Order.RecordedBy ((owed steps w).filter (·.ruleId == id))
      (added.filter (·.ruleId == id))
  /-- Only the status and the stamp of a rule change, and only by a switch of that rule. -/
  rules : List.Forall₂
    (fun r r' => Store.SameButStatus r r' ∧ (left r.rule.id steps w = none → r' = r))
    w.store.db.rules (after steps w).store.db.rules
  /-- An action is dispatched only by a run whose rule was left active. -/
  dispatched : ∀ before s o rest, steps = before ++ .execute s o :: rest →
    ∀ r ending,
      .dispatched r ending ∈ Engine.calls s.collaborators s.policy o.trigger (after before w) →
      ((after before w).store.db.rule? o.ruleId).map (·.rule) = some r ∧
        (w.store.db.rule? o.ruleId).map (fun r => (left o.ruleId before w).getD r.rule.status) =
          some Rule.active
  requests : ∀ before step rest, steps = before ++ step :: rest → step.IsRequest →
    (step.after (after before w)).store.db =
      { (after before w).store.db with
        rules := (step.after (after before w)).store.db.rules }

/-- Every history whose runs are served leaves its trail. -/
theorem history_leaves_its_trail {steps : List Step} {w : World} (served : AllServed steps w) :
    Trail steps w := by
  have whole := advances served
  constructor
  · rintro before rest rfl
    obtain ⟨-, later⟩ := allServed_append.mp served
    obtain ⟨added, hadded, -⟩ := (advances later).records
    rw [after_append, hadded]
    exact List.prefix_append ..
  · obtain ⟨added, hadded, rows⟩ := whole.records
    refine ⟨added, hadded, rows, fun id => List.rel_filter (fun o row recorded => ?_) rows⟩
    show (o.ruleId == id) = true ↔ (row.ruleId == id) = true
    rw [recorded.ruleId]
  · exact whole.rules
  · rintro before s o rest rfl r ending hmem
    obtain ⟨earlier, later⟩ := allServed_append.mp served
    obtain ⟨found, live⟩ := Engine.execute_dispatches later.1 hmem
    refine ⟨found, ?_⟩
    rw [← (advances earlier).status o.ruleId]
    obtain ⟨stored, hstored, rfl⟩ := Option.map_eq_some_iff.mp found
    rw [hstored]
    exact congrArg some (eq_of_beq live)
  · rintro before step rest rfl request
    exact step.request_spares request _

/-- An engine with the handlers of all kinds that records every run. -/
def recording : Setup where
  settings := { limit := .null, recordMissing := .bool true }
  notifier := .none
  registry := .standard (.int 3)

def recordingService : Service where
  setup := recording

def orderFor (ruleId : String) : Order where
  ruleId := ruleId
  type := .str "TASK_CREATED"
  payload := some [("taskId", .str "t-1")]
  jobId := some "job-1"

/-- A rule is run, switched off and run again. -/
def switchedOff : List Step :=
  [.execute recording (orderFor "r-1"), .switch recordingService "r-1" false,
    .execute recording (orderFor "r-1")]

example : (owed switchedOff Queue.greeting).length = 2 ∧
    left "r-1" switchedOff Queue.greeting = some Rule.inactive := by
  decide +kernel

theorem served_of_answered {s : Setup} {o : Order} {w : World} (limit : s.settings.limit = .null)
    (plain : o.limit = .null) (still : w.readings.isEmpty = true)
    (answered : ((Engine.creates (Engine.calls s.collaborators s.policy o.trigger w)).all
      (·.2.isOk)) = true) : Served s o.trigger w where
  limit := by
    have : o.trigger.limitUnder s.policy = .null := by
      simp [Engine.Trigger.limitUnder, Order.trigger, Setup.policy, plain, limit, Json.isNull]
    exact .inl this
  timely := Engine.timely_of_still (List.isEmpty_iff.mp still)
  healthy draft stored hmem := by
    have := List.all_eq_true.mp answered _ hmem
    cases stored with
    | ok saved => exact ⟨saved, rfl⟩
    | error e => cases this

theorem switchedOff_served : AllServed switchedOff Queue.greeting :=
  ⟨served_of_answered rfl rfl rfl (by decide +kernel), trivial,
    served_of_answered rfl rfl (by decide +kernel) (by decide +kernel), trivial⟩

theorem a_rule_that_is_switched_off_leaves_its_trail :
    AllServed switchedOff Queue.greeting ∧ Trail switchedOff Queue.greeting :=
  ⟨switchedOff_served, history_leaves_its_trail switchedOff_served⟩

/-- Runs of missing rules are recorded and the store of records is well, but a rule whose id holds a
lone half cannot be looked up, and the run leaves no record. -/
theorem a_lone_half_leaves_no_record :
    let lone := orderFor (String.ofList (Text.ofPoint 0xD800))
    AllServed [.execute recording lone] Queue.greeting ∧
      recording.policy.recordMissing.truthy = true ∧ recording.auditFault.isNone = true ∧
      Queue.greeting.store.refusal?.isNone = true ∧
      (after [.execute recording lone] Queue.greeting).store.db.executions = [] := by
  refine ⟨⟨served_of_answered rfl rfl rfl (by decide +kernel), trivial⟩, rfl, rfl, rfl, ?_⟩
  exact List.isEmpty_iff.mp (by decide +kernel)

end TaskRules.Api
