import Mathlib.Data.List.Forall2
import TaskRules.Proofs.RunInvariants
import TaskRules.Proofs.TaskCreation

/-!
The calls that write records and the statuses of rules. A column that is given keeps what its kind
makes of the value, so the row of a record has the texts, the objects and the numbers of its draft.
A record that is handed over is refused or becomes one row at the end; setting a status fails,
finds no rule, or changes the status and the stamp of one rule.

Proved:
- `keep_text`, `keep_object`, `keep_flag`, `keep_int`: what columns keep of values of their types.
- `keeps_of_ofFields?`: the row of a draft keeps its values.
- `createExecution_cases`, `setStatus_cases`: all that the two calls can do.
- `findRule_ok`, `findRule_grown`: a look-up gives the stored rule, and new records do not matter
  to it.
-/

namespace TaskRules

/-! ## Columns -/

/-- A column that is given keeps what its kind makes of the value. -/
theorem get?_of_kept {fields : Json.Fields} {columns : List (String × ColumnKind)}
    (distinct : (columns.map (·.1)).Nodup) {kept : Json.Fields}
    (h : ((columns.filterMap fun c => (Json.Fields.get? fields c.1).map (c, ·)).mapM fun p => do
      return (p.1.1, ← p.1.2.store p.2) : Except Fault Json.Fields) = .ok kept)
    {c : String × ColumnKind} (hc : c ∈ columns) {v : Json}
    (hv : Json.Fields.get? fields c.1 = some v) :
    ∃ v', c.2.store v = .ok v' ∧ Json.Fields.get? kept c.1 = some v' := by
  induction columns generalizing kept with
  | nil => cases hc
  | cons first rest ih =>
    obtain ⟨fresh, distinct⟩ := List.nodup_cons.mp distinct
    cases hfirst : Json.Fields.get? fields first.1 with
    | none =>
      rw [List.filterMap_cons_none (by rw [hfirst]; rfl)] at h
      rcases List.mem_cons.mp hc with rfl | hc
      · rw [hfirst] at hv
        cases hv
      · exact ih distinct h hc
    | some u =>
      rw [List.filterMap_cons_some (by rw [hfirst]; rfl), List.mapM_cons] at h
      obtain ⟨field, hfield, h⟩ := ok_of_bind h
      obtain ⟨u', hu, hfield⟩ := ok_of_bind hfield
      obtain ⟨others, hothers, h⟩ := ok_of_bind h
      cases hfield
      cases h
      rcases List.mem_cons.mp hc with rfl | hc
      · obtain rfl : u = v := Option.some.inj (hfirst.symm.trans hv)
        exact ⟨u', hu, if_pos rfl⟩
      · have apart : first.1 ≠ c.1 := by
          intro same
          exact fresh (List.mem_map.mpr ⟨c, hc, same.symm⟩)
        obtain ⟨v', hstore, hget⟩ := ih distinct hothers hc
        exact ⟨v', hstore, (if_neg apart).trans hget⟩

theorem handedOver_same {v u : Json} (h : handedOver v = .ok u) : u = v := by
  unfold handedOver at h
  split at h
  · split at h
    · exact (Except.ok.inj h).symm
    · cases h
  · split at h
    · exact (Except.ok.inj h).symm
    · cases h
  · cases h
  · cases h
  · exact (Except.ok.inj h).symm

theorem kept_of_stored {a : Affinity} {v u : Json} (h : a.store v = .ok u) : u = a.kept v := by
  unfold Affinity.store at h
  cases hv : handedOver v with
  | error e =>
    rw [hv] at h
    cases h
  | ok w =>
    rw [hv, handedOver_same hv] at h
    exact (Except.ok.inj h).symm

namespace Table
variable {t : Table} {fields kept : Json.Fields} (h : t.keep fields = .ok kept) (name : String)

theorem columns_distinct (t : Table) : (t.columns.map (·.1)).Nodup := by
  cases t <;> decide

include h

theorem keep_get? {kind : ColumnKind} (hc : (name, kind) ∈ t.columns) {v : Json}
    (hv : Json.Fields.get? fields name = some v) :
    ∃ v', kind.store v = .ok v' ∧ Json.Fields.get? kept name = some v' := by
  unfold keep at h
  dsimp only at h
  split at h
  · cases h
  · exact get?_of_kept t.columns_distinct h hc hv

/-- A column of text keeps a text, or that there is none. -/
theorem keep_text (hc : (name, .text) ∈ t.columns) {v : Json}
    (hv : Json.Fields.get? fields name = some v) {o : Option String} (ho : v = .ofText? o) :
    Column.text? kept name = o := by
  subst ho
  obtain ⟨v, hstore, hget⟩ := keep_get? h name hc hv
  obtain rfl := kept_of_stored hstore
  rw [Column.text?, hget]
  cases o <;> rfl

theorem keep_object (hc : (name, .json) ∈ t.columns) {v : Json}
    (hv : Json.Fields.get? fields name = some v) {object : Json.Fields} (ho : v = .obj object)
    (default : Json) : Column.json kept name default = .obj object := by
  subst ho
  obtain ⟨v, hstore, hget⟩ := keep_get? h name hc hv
  cases hstore
  rw [Column.json, hget]
  rfl

theorem keep_flag (hc : (name, .flag) ∈ t.columns) {v : Json}
    (hv : Json.Fields.get? fields name = some v) {b : Bool} (hb : v = .bool b) :
    Column.flag? kept name = some b := by
  subst hb
  obtain ⟨v, hstore, hget⟩ := keep_get? h name hc hv
  cases hstore
  rw [Column.flag?, hget]
  rfl

theorem keep_int (hc : (name, .quantity) ∈ t.columns) {v : Json}
    (hv : Json.Fields.get? fields name = some v) {n : Int} (hn : v = .int n) :
    Column.quantity? kept name = some (.int n) := by
  subst hn
  obtain ⟨v, hstore, hget⟩ := keep_get? h name hc hv
  obtain rfl := kept_of_stored hstore
  rw [Column.quantity?, hget]
  rfl

end Table

/-! ## Rows of records -/

/-- A row that keeps the values of a draft, as far as they are of the types of their columns. -/
structure Execution.Keeps (row : Execution) (d : Execution.Draft) : Prop where
  ruleId : ∀ s, d.ruleId = .str s → row.ruleId = s
  triggerType : ∀ s, d.triggerType = .str s → row.triggerType = s
  triggerData : ∀ data, d.triggerData = .obj data → row.triggerData = .obj data
  actionResult : ∀ data, d.actionResult = .obj data → row.actionResult = .obj data
  success : ∀ b, d.success = .bool b → row.success = b
  outcome : ∀ s, d.outcome = .str s → row.outcome = s
  elapsedMs : ∀ n, d.elapsedMs = .int n → row.elapsedMs = .int n
  errorMessage : ∀ o, d.errorMessage = .ofText? o → row.errorMessage = o
  triggeredById : ∀ o, d.triggeredById = .ofText? o → row.triggeredById = o
  createdBy : ∀ o, d.createdBy = .ofText? o → row.createdBy = o
  jobId : ∀ o, d.jobId = .ofText? o → row.jobId = o

theorem Execution.keeps_of_ofFields? {d : Execution.Draft} {kept : Json.Fields} {id : String}
    {now : Moment} {row : Execution} (h : Table.executions.keep d.toFields = .ok kept)
    (hrow : Execution.ofFields? kept id now = some row) : row.Keeps d := by
  simp only [Execution.ofFields?, Option.bind_eq_bind, Option.bind_eq_some_iff, Option.pure_def,
    Option.some.injEq] at hrow
  obtain ⟨ruleId, hruleId, triggerType, htriggerType, success, hsuccess, outcome, houtcome, rfl⟩ :=
    hrow
  constructor
  · intro s hs
    have := Table.keep_text h "rule_id" (by decide) rfl (o := some s) hs
    exact Option.some.inj (hruleId.symm.trans this)
  · intro s hs
    have := Table.keep_text h "trigger_type" (by decide) rfl (o := some s) hs
    exact Option.some.inj (htriggerType.symm.trans this)
  · intro data hdata
    exact Table.keep_object h "trigger_data" (by decide) rfl hdata _
  · intro data hdata
    exact Table.keep_object h "action_result" (by decide) rfl hdata _
  · intro b hb
    have := Table.keep_flag h "success" (by decide) rfl hb
    exact Option.some.inj (hsuccess.symm.trans this)
  · intro s hs
    have := Table.keep_text h "outcome" (by decide) rfl (o := some s) hs
    exact Option.some.inj (houtcome.symm.trans this)
  · intro n hn
    have := Table.keep_int h "execution_time_ms" (by decide) rfl hn
    simp [this]
  · intro o ho
    exact Table.keep_text h "error_message" (by decide) rfl ho
  · intro o ho
    exact Table.keep_text h "triggered_by_id" (by decide) rfl ho
  · intro o ho
    exact Table.keep_text h "created_by" (by decide) rfl ho
  · intro o ho
    exact Table.keep_text h "job_id" (by decide) rfl ho

namespace Store

/-- A store with records added at the end, and as ready to answer. -/
structure Grown (s : Store) (added : List Execution) (s' : Store) : Prop where
  rules : s'.db.rules = s.db.rules
  executions : s'.db.executions = s.db.executions ++ added
  outage : s'.outage = s.outage
  hasTables : s'.hasTables = s.hasTables

theorem Grown.refl (s : Store) : s.Grown [] s := ⟨rfl, (List.append_nil _).symm, rfl, rfl⟩

theorem Grown.trans {s₁ s₂ s₃ : Store} {added more : List Execution} (h : s₁.Grown added s₂)
    (h' : s₂.Grown more s₃) : s₁.Grown (added ++ more) s₃ where
  rules := h'.rules.trans h.rules
  executions := by rw [h'.executions, h.executions, List.append_assoc]
  outage := h'.outage.trans h.outage
  hasTables := h'.hasTables.trans h.hasTables

theorem Untouched.grown {s s' : Store} (h : s.Untouched s') : s.Grown [] s' :=
  ⟨h.books.rules, by rw [h.books.executions, List.append_nil], h.outage, h.hasTables⟩

theorem insertExecution_ok {db db' : Database} {now : Moment} {id : String} {d : Execution.Draft}
    {saved : Execution} (h : insertExecution db now id d = .ok (saved, db')) :
    ∃ row : Execution, row.Keeps d ∧ saved = row.handedOut ∧
      db' = { db with executions := db.executions ++ [row] } := by
  obtain ⟨kept, hkept, h⟩ := ok_of_bind h
  obtain ⟨row, hrow, h⟩ := ok_of_bind h
  obtain ⟨rows, hrows, h⟩ := ok_of_bind h
  cases h
  refine ⟨row, ?_, rfl, ?_⟩
  · cases hof : Execution.ofFields? kept id now with
    | none =>
      rw [hof] at hrow
      cases hrow
    | some row' =>
      rw [hof] at hrow
      cases hrow
      exact Execution.keeps_of_ofFields? hkept hof
  · unfold addRow at hrows
    split at hrows
    · cases hrows
    · cases hrows
      rfl

/-- A record that is handed over is refused, or added as a row at the end. -/
theorem createExecution_cases (d : Execution.Draft) (s : Store) :
    (∃ e, (createExecution d s).1 = .error e ∧ s.Grown [] (createExecution d s).2) ∨
      ∃ row : Execution, row.Keeps d ∧ (createExecution d s).1 = .ok row.handedOut ∧
        s.Grown [row] (createExecution d s).2 := by
  unfold createExecution insert
  cases ho : s.outage with
  | some e => exact .inl ⟨e, rfl, .refl s⟩
  | none =>
    dsimp only
    cases hr : s.refusal? with
    | some e => exact .inl ⟨e, rfl, ⟨rfl, (List.append_nil _).symm, rfl, rfl⟩⟩
    | none =>
      rcases hf : insertExecution s.db s.now (s.nextId .execution) d with e | ⟨saved, db⟩
      · exact .inl ⟨e, rfl, ⟨rfl, (List.append_nil _).symm, rfl, rfl⟩⟩
      · obtain ⟨row, keeps, rfl, rfl⟩ := insertExecution_ok hf
        exact .inr ⟨row, keeps, rfl, ⟨rfl, rfl, rfl, rfl⟩⟩

/-! ## Rules -/

theorem key?_ok {id : String} {key : Option String} (h : Column.key? (.str id) = .ok key) :
    Text.isWhole id.toList = true ∧ key = some id := by
  cases hw : Text.isWhole id.toList with
  | true =>
    rw [key_found hw] at h
    exact ⟨rfl, (Except.ok.inj h).symm⟩
  | false =>
    have : Column.key? (.str id) = .error (.notEncodable id.toList) := by
      show (Affinity.text.store (.str id) >>= _) = _
      simp [Affinity.store, handedOver, hw]
      rfl
    rw [this] at h
    cases h

/-- A look-up that is answered finds the stored rule. -/
theorem findRule_ok {id : String} {s : Store} {found : Option Rule}
    (h : (findRule (.str id) s).1 = .ok found) : found = (s.db.rule? id).map (·.rule) := by
  unfold findRule query at h
  split at h
  · cases h
  · obtain ⟨key, hkey, h⟩ := ok_of_bind h
    obtain ⟨-, rfl⟩ := key?_ok hkey
    exact (Except.ok.inj h).symm

/-- A look-up depends on the rules and on whether the store answers. -/
theorem findRule_grown (id : Json) {s s' : Store} {added : List Execution} (h : s.Grown added s') :
    (findRule id s').1 = (findRule id s).1 := by
  have refusal : s'.refusal? = s.refusal? := by rw [refusal?, refusal?, h.outage, h.hasTables]
  have rule : s'.db.rule? = s.db.rule? := by
    funext id
    rw [Database.rule?, Database.rule?, h.rules]
  unfold findRule query
  rw [refusal]
  cases s.refusal? with
  | some e => rfl
  | none =>
    dsimp only
    rw [rule]

/-- A rule's row with perhaps another status and another stamp of its last change. -/
structure SameButStatus (r r' : StoredRule) : Prop where
  rule : r'.rule = { r.rule with status := r'.rule.status }
  createdAt : r'.createdAt = r.createdAt

theorem SameButStatus.refl (r : StoredRule) : SameButStatus r r := ⟨rfl, rfl⟩

theorem SameButStatus.trans {r₁ r₂ r₃ : StoredRule} (h : SameButStatus r₁ r₂)
    (h' : SameButStatus r₂ r₃) : SameButStatus r₁ r₃ :=
  ⟨by rw [h'.rule, h.rule], h'.createdAt.trans h.createdAt⟩

/-- A store with a rule's status set. -/
structure Switched (id status : String) (s s' : Store) : Prop where
  others : s'.db = { s.db with rules := s'.db.rules }
  rows : List.Forall₂ (fun r r' => SameButStatus r r' ∧ (r.rule.id ≠ id → r' = r)) s.db.rules
    s'.db.rules
  status : ∃ r r', s.db.rule? id = some r ∧ s'.db.rule? id = some r' ∧ r'.rule.status = status
  outage : s'.outage = s.outage
  hasTables : s'.hasTables = s.hasTables

/-- The row of a rule after its status was set. -/
def stamped (id status : String) (now : Moment) (r : StoredRule) : StoredRule :=
  if r.rule.id == id then { r with rule := { r.rule with status := status }, updatedAt := now }
  else r

theorem stamped_sameButStatus (id status : String) (now : Moment) (r : StoredRule) :
    SameButStatus r (stamped id status now r) ∧ (r.rule.id ≠ id → stamped id status now r = r) := by
  unfold stamped
  split
  · rename_i same
    exact ⟨⟨rfl, rfl⟩, fun other => absurd (eq_of_beq same) other⟩
  · exact ⟨.refl r, fun _ => rfl⟩

/-- A change fails and leaves the store, or is made. -/
theorem mutate_cases (f : Database → Moment → Except Fault (α × Database)) (s : Store) :
    (∃ e, mutate f s = (.error e, s)) ∨
      ∃ a db, f s.db s.now = .ok (a, db) ∧ mutate f s = (.ok a, { s with db := db }) := by
  unfold mutate
  cases s.refusal? with
  | some e => exact .inl ⟨e, rfl⟩
  | none =>
    dsimp only
    rcases hf : f s.db s.now with e | ⟨a, db⟩
    · exact .inl ⟨e, rfl⟩
    · exact .inr ⟨a, db, rfl, rfl⟩

/-- A row that is found under a key has that key. -/
theorem key_of_find (key : α → String) {rows : List α} {id : String} {row : α}
    (h : rows.find? (key · == id) = some row) : key row = id := by
  have found := List.find?_some h
  exact eq_of_beq found

theorem rule?_id {db : Database} {id : String} {r : StoredRule} (h : db.rule? id = some r) :
    r.rule.id = id := key_of_find (fun s : StoredRule => s.rule.id) h

theorem rule?_stamped {db : Database} {id : String} {r : StoredRule} (h : db.rule? id = some r)
    (status : String) (now : Moment) :
    { db with rules := withStatus db.rules id status now }.rule? id =
      some (stamped id status now r) := by
  have ids : (fun r : StoredRule => (stamped id status now r).rule.id == id) =
      fun r => r.rule.id == id := by
    funext r
    unfold stamped
    split
    · rfl
    · rfl
  show (db.rules.map (stamped id status now)).find? _ = _
  rw [List.find?_map]
  show (db.rules.find? fun r => (stamped id status now r).rule.id == id).map _ = _
  rw [ids]
  exact congrArg (Option.map _) h

/-- The rows of other rules are found as they were. -/
theorem find?_of_other {id other : String} (apart : other ≠ id) {rows rows' : List StoredRule}
    (h : List.Forall₂ (fun r r' => SameButStatus r r' ∧ (r.rule.id ≠ id → r' = r)) rows rows') :
    rows'.find? (·.rule.id == other) = rows.find? (·.rule.id == other) := by
  induction h with
  | nil => rfl
  | @cons r r' rest rest' hr _ ih =>
    rw [List.find?_cons, List.find?_cons, ih]
    by_cases mine : r.rule.id = id
    · have ids : r'.rule.id = id := by rw [hr.1.rule]; exact mine
      rw [ids, mine, beq_false_of_ne apart.symm]
    · rw [hr.2 mine]

theorem Switched.kept {id status : String} {s : Store} {r : StoredRule}
    (h : s.db.rule? id = some r) (same : r.rule.status = status) : Switched id status s s where
  others := rfl
  rows := List.forall₂_same.mpr fun r _ => ⟨.refl r, fun _ => rfl⟩
  status := ⟨r, r, h, h, same⟩
  outage := rfl
  hasTables := rfl

theorem Switched.set {id status : String} {s : Store} {r : StoredRule}
    (h : s.db.rule? id = some r) :
    Switched id status s
      { s with db := { s.db with rules := withStatus s.db.rules id status s.now } } where
  others := rfl
  rows := List.forall₂_map_right_iff.mpr <|
    List.forall₂_same.mpr fun r _ => stamped_sameButStatus id status s.now r
  status := by
    refine ⟨r, _, h, rule?_stamped h status s.now, ?_⟩
    rw [stamped, if_pos (beq_iff_eq.mpr (rule?_id h))]
  outage := rfl
  hasTables := rfl

/-- A switch of a rule's status fails, finds no such rule, or sets the status. -/
theorem setStatus_cases (id status : String) (s : Store) :
    (∃ e, setStatus (.str id) (.str status) s = (.error e, s)) ∨
      setStatus (.str id) (.str status) s = (.ok none, s) ∨
      ∃ rule s', setStatus (.str id) (.str status) s = (.ok (some rule), s') ∧
        Switched id status s s' := by
  rcases mutate_cases _ s with failed | ⟨found, db, hf, hmade⟩
  · exact .inl failed
  · obtain ⟨key, hkey, hf⟩ := ok_of_bind hf
    obtain ⟨-, rfl⟩ := key?_ok hkey
    dsimp only [Option.bind_some] at hf
    split at hf
    · cases hf
      exact .inr (.inl hmade)
    · rename_i r hrule
      refine .inr (.inr ?_)
      split at hf
      · rename_i same
        cases hf
        exact ⟨_, _, hmade, .kept hrule (eq_of_beq same).symm⟩
      · obtain ⟨kept, hkept, hf⟩ := ok_of_bind hf
        rw [Table.keep_text hkept "status" (by decide) rfl (o := some status) rfl] at hf
        cases hf
        rw [rule?_id hrule] at hmade
        exact ⟨_, _, hmade, .set hrule⟩

end Store
end TaskRules
