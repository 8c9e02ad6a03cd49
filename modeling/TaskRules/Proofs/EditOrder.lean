import TaskRules.Proofs.TaskEdits

/-!
Two edits in either order. Edits that add assignees and labels do not disturb each other, on one
task or on two: an edit finds and misses the same rows before and after the other, so each succeeds
or fails as it would have alone, and in the end the database is the same but for the traces of who
came last and when.

Proved:
- `failure_same`: an edit fails alike wherever it finds the same rows.
- `assigned_iff`, `labelled_iff`, `task?_edited`: an edit that adds, as a whole.
- `applied_either_order`, `tasks_either_order`, `edited_either_order`: two edits that were made.
- `Tried.same`, `tried_either_order`: two edits that were tried, and made or refused.
- `edits_commute`: so it is on a store, at whatever times.
-/

namespace TaskRules

/-! ## Edits apart -/

/-- Why a computation failed, if it did. -/
def failure? : Except ε α → Option ε
  | .ok _ => none
  | .error e => some e

/-- Computations that start with the same one fail alike when the rest of them does. -/
theorem failure?_bind {x : Except ε α} {y z : α → Except ε β}
    (h : ∀ a, x = .ok a → failure? (y a) = failure? (z a)) :
    failure? (x >>= y) = failure? (x >>= z) := by
  cases x with
  | ok a => exact h a rfl
  | error e => rfl

namespace TaskEdit

/-- An edit that takes assignees away. -/
def Replaces (e : TaskEdit) : Prop := e.replaceAssignees = true ∧ e.assigneeIds.isSome = true

/-- An edit that sets or clears the due date. -/
def setsDue (e : TaskEdit) : Bool := e.clearDueDate || e.dueDate.isSome

/-- Edits that set different fields. -/
structure Disjoint (e f : TaskEdit) : Prop where
  status : e.statusId = none ∨ f.statusId = none
  priority : e.priority = none ∨ f.priority = none
  due : e.setsDue = false ∨ f.setsDue = false

/-- An edit that takes no assignee away and names no label twice. -/
structure Adds (e : TaskEdit) : Prop where
  keeps : ¬ e.Replaces
  single : e.addLabelIds.Nodup

end TaskEdit

/-- A task without the signature of its last change. -/
def Task.unsigned (t : Task) : Task := { t with updatedBy := none, updatedAt := t.createdAt }

namespace Database

/-- Databases that differ at most in who changed a task last and when, and in the times at which
users were assigned. -/
structure Alike (db db' : Database) : Prop where
  tasks : db.tasks.map Task.unsigned = db'.tasks.map Task.unsigned
  assigned : ∀ task user, db.Assigned task user ↔ db'.Assigned task user
  labelled : ∀ task label, db.Labelled task label ↔ db'.Labelled task label
  rest : db.SameBesides db'

/-- Databases in which edits find and miss the same rows. -/
structure SameRows (db db' : Database) : Prop where
  tasks : db'.tasks.map (·.id) = db.tasks.map (·.id)
  rest : db.SameBesides db'

variable {db db' db'' : Database} {id jd : String} {e f : TaskEdit} {now : Moment}

theorem SameBesides.refl (db : Database) : db.SameBesides db := rfl

theorem SameBesides.symm (h : db.SameBesides db') : db'.SameBesides db := by
  unfold SameBesides at h ⊢
  rw [h]

theorem SameBesides.trans (h : db.SameBesides db') (h' : db'.SameBesides db'') :
    db.SameBesides db'' := by
  unfold SameBesides at h h' ⊢
  refine h'.trans ?_
  rw [h]

theorem Alike.refl (db : Database) : db.Alike db :=
  ⟨rfl, fun _ _ => Iff.rfl, fun _ _ => Iff.rfl, .refl db⟩

theorem SameRows.refl (db : Database) : db.SameRows db := ⟨rfl, .refl db⟩

/-! ## Failures -/

theorem has_task_iff (db : Database) (id : String) :
    (db.task? id).isSome = true ↔ id ∈ db.tasks.map (·.id) := by
  simp [task?]

/-- An edit that names no label twice fails alike wherever it finds the same rows. -/
theorem failure_same (same : db.SameRows db') (single : e.addLabelIds.Nodup) (id : String)
    (now later : Moment) :
    failure? (db'.updateTask later (.str id) e.changes) =
      failure? (db.updateTask now (.str id) e.changes) := by
  have unrepeated : ∀ (db : Database) (id : String),
      hasRepeat (db.newLabels id e.addLabelIds) = false :=
    fun db id => (hasRepeat_eq_false_iff _).mpr (single.filter _)
  have there : (db'.task? id).isSome = (db.task? id).isSome := by
    rw [Bool.eq_iff_iff, has_task_iff, has_task_iff, same.tasks]
  have status : db'.checkStatus e.changes = db.checkStatus e.changes := by
    rw [same.rest]
    rfl
  have users : db'.namedUsers (.str id) e.changes = db.namedUsers (.str id) e.changes := by
    rw [same.rest]
    rfl
  have labels : db'.namedLabels (.str id) e.changes = db.namedLabels (.str id) e.changes := by
    rw [same.rest]
    rfl
  have named := db.namedLabels_checks id e
  rw [updateTask_eq, updateTask_eq, status, users, labels]
  refine failure?_bind fun key hkey => ?_
  obtain ⟨-, rfl⟩ := Store.key?_ok hkey
  rw [Option.bind_some, Option.bind_some]
  cases ht : db.task? id with
  | none =>
    cases ht' : db'.task? id with
    | none => rfl
    | some t' => simp [ht, ht'] at there
  | some t =>
    cases ht' : db'.task? id with
    | none => simp [ht, ht'] at there
    | some t' =>
      refine failure?_bind fun _ _ => failure?_bind fun _ _ => failure?_bind fun names hnames =>
        failure?_bind fun _ _ => ?_
      rw [hnames] at named
      obtain ⟨rfl, -⟩ := named
      rw [unrepeated, unrepeated]
      rfl

/-! ## An edit that adds -/

theorem Edited.sameRows (h : db.Edited id e now db') : db.SameRows db' := by
  obtain ⟨t, found, tasks⟩ := h.tasks
  obtain rfl := task?_id found
  refine ⟨?_, h.rest⟩
  rw [tasks, List.map_map]
  refine List.map_congr_left fun u _ => ?_
  by_cases ours : u.id = t.id <;> simp [ours]

theorem assigned_other {task : String} (other : task ≠ id)
    (links : db'.assignments.filter (·.taskId ≠ id) = db.assignments.filter (·.taskId ≠ id))
    (user : String) : db'.Assigned task user ↔ db.Assigned task user := by
  have among : ∀ db : Database, db.Assigned task user ↔
      ∃ a ∈ db.assignments.filter (·.taskId ≠ id), a.taskId = task ∧ a.userId = user := by
    intro db
    constructor
    · rintro ⟨a, ha, rfl, rfl⟩
      exact ⟨a, List.mem_filter.mpr ⟨ha, decide_eq_true other⟩, rfl, rfl⟩
    · rintro ⟨a, ha, same⟩
      exact ⟨a, (List.mem_filter.mp ha).1, same⟩
  rw [among, among, links]

/-- After an edit that adds, the users that it names are assigned besides those who were. -/
theorem Edited.assigned_iff (h : db.Edited id e now db') (adds : e.Adds) (task user : String) :
    db'.Assigned task user ↔
      db.Assigned task user ∨ (task = id ∧ user ∈ e.assigneeIds.getD []) := by
  by_cases ours : task = id
  · subst ours
    rw [h.assignees, TaskEdit.Assigns]
    have keeps := adds.keeps
    unfold TaskEdit.Replaces at keeps
    cases hids : e.assigneeIds with
    | none => simp
    | some ids =>
      have kept : e.replaceAssignees = false := by simpa [hids] using keeps
      simp [kept, or_comm]
  · rw [assigned_other ours h.otherLinks]
    simp [ours]

theorem Edited.labelled_iff (h : db.Edited id e now db') (task label : String) :
    db'.Labelled task label ↔ db.Labelled task label ∨ (task = id ∧ label ∈ e.addLabelIds) := by
  by_cases ours : task = id
  · subst ours
    rw [h.labels]
    simp
  · have among : ∀ db : Database, db.Labelled task label ↔
        ⟨task, label⟩ ∈ db.taggings.filter (·.taskId ≠ id) := by
      intro db
      rw [List.mem_filter]
      exact ⟨fun there => ⟨there, decide_eq_true ours⟩, fun there => there.1⟩
    rw [among, among, h.otherLabels]
    simp [ours]

/-- The rows of tasks that are found after an edit. -/
theorem task?_edited {t : Task} (found : db.task? id = some t)
    (tasks : db'.tasks = db.tasks.map fun u => if u.id = id then e.applied t now else u)
    (jd : String) :
    db'.task? jd = if jd = id then some (e.applied t now) else db.task? jd := by
  obtain rfl := task?_id found
  have changed : db'.task? jd = (db.withChange (e.applied t now) [] []).task? jd := by
    unfold task?
    rw [tasks]
    simp [withChange]
  rw [changed, task?_withChange]
  by_cases ours : jd = t.id
  · rw [if_pos ours, ours, found]
    exact congrArg some (if_pos (beq_self_eq_true t.id))
  · rw [if_neg ours]
    cases other : db.task? jd with
    | none => rfl
    | some u =>
      obtain rfl := task?_id other
      exact congrArg some (if_neg (by simpa using ours))

/-! ## Two edits that were made -/

theorem applied_any_time (e : TaskEdit) (t : Task) (n m : Moment) :
    (e.applied t n).unsigned = (e.applied t m).unsigned := rfl

/-- Edits that set different fields of one row, in either order. -/
theorem applied_either_order (apart : e.Disjoint f) (t : Task) (n₁ n₂ n₃ n₄ : Moment) :
    (f.applied (e.applied t n₁) n₂).unsigned = (e.applied (f.applied t n₃) n₄).unsigned := by
  have due := apart.due
  simp only [TaskEdit.setsDue, Bool.or_eq_false_iff, Option.isSome_eq_false_iff,
    Option.isNone_iff_eq_none] at due
  unfold Task.unsigned TaskEdit.applied
  congr 1
  · rcases apart.priority with h | h <;> simp [h]
  · rcases apart.status with h | h <;> simp [h]
  · rcases due with ⟨h, h'⟩ | ⟨h, h'⟩ <;> simp [h, h']

variable {db₁ db₂ db₃ db₄ : Database} {n₁ n₂ n₃ n₄ : Moment}

theorem tasks_either_order (he : db.Edited id e n₁ db₁) (hf : db₁.Edited jd f n₂ db₂)
    (hf' : db.Edited jd f n₃ db₃) (he' : db₃.Edited id e n₄ db₄) (apart : id = jd → e.Disjoint f) :
    db₂.tasks.map Task.unsigned = db₄.tasks.map Task.unsigned := by
  obtain ⟨t, ht, tasks₁⟩ := he.tasks
  obtain ⟨u, hu, tasks₂⟩ := hf.tasks
  obtain ⟨v, hv, tasks₃⟩ := hf'.tasks
  obtain ⟨w, hw, tasks₄⟩ := he'.tasks
  rw [task?_edited ht tasks₁] at hu
  rw [task?_edited hv tasks₃] at hw
  rw [tasks₂, tasks₁, tasks₄, tasks₃]
  simp only [List.map_map]
  refine List.map_congr_left fun r _ => ?_
  obtain rfl := task?_id ht
  obtain rfl := task?_id hv
  by_cases same : t.id = v.id
  · -- one task: each edit finds the row that the other left
    obtain rfl : t = v := Option.some.inj (ht.symm.trans (same ▸ hv))
    rw [if_pos rfl] at hu hw
    obtain rfl := Option.some.inj hu
    obtain rfl := Option.some.inj hw
    by_cases ours : r.id = t.id
    · simpa [ours] using applied_either_order (apart rfl) t n₁ n₂ n₃ n₄
    · simp [ours]
  · -- two tasks: each edit finds the row that was there
    rw [if_neg (Ne.symm same), hv] at hu
    rw [if_neg same, ht] at hw
    obtain rfl := Option.some.inj hu
    obtain rfl := Option.some.inj hw
    by_cases first : r.id = t.id
    · simpa [first, same] using applied_any_time e t n₁ n₄
    · by_cases second : r.id = v.id
      · simpa [first, second, Ne.symm same] using applied_any_time f v n₂ n₃
      · simp [first, second]

theorem edited_either_order (he : db.Edited id e n₁ db₁) (hf : db₁.Edited jd f n₂ db₂)
    (hf' : db.Edited jd f n₃ db₃) (he' : db₃.Edited id e n₄ db₄) (adds : e.Adds) (adds' : f.Adds)
    (apart : id = jd → e.Disjoint f) : db₂.Alike db₄ where
  tasks := tasks_either_order he hf hf' he' apart
  assigned task user := by
    rw [hf.assigned_iff adds', he.assigned_iff adds, he'.assigned_iff adds, hf'.assigned_iff adds']
    exact or_right_comm
  labelled task label := by
    rw [hf.labelled_iff, he.labelled_iff, he'.labelled_iff, hf'.labelled_iff]
    exact or_right_comm
  rest := (he.rest.trans hf.rest).symm.trans (hf'.rest.trans he'.rest)

/-- One edit at two times. -/
theorem edited_any_time (h : db.Edited id e n₁ db₁) (h' : db.Edited id e n₂ db₂) (adds : e.Adds) :
    db₁.Alike db₂ where
  tasks := by
    obtain ⟨t, found, tasks⟩ := h.tasks
    obtain ⟨t', found', tasks'⟩ := h'.tasks
    obtain rfl := Option.some.inj (found.symm.trans found')
    rw [tasks, tasks', List.map_map, List.map_map]
    refine List.map_congr_left fun r _ => ?_
    by_cases ours : r.id = id
    · simpa [ours] using applied_any_time e t n₁ n₂
    · simp [ours]
  assigned task user := by
    rw [h.assigned_iff adds, h'.assigned_iff adds]
  labelled task label := by
    rw [h.labelled_iff, h'.labelled_iff]
  rest := h.rest.symm.trans h'.rest

/-! ## Two edits, made or not -/

/-- An edit that was tried, why it failed, if it did, and the database afterwards. -/
inductive Tried (db : Database) (id : String) (e : TaskEdit) (now : Moment) :
    Option Fault → Database → Prop
  | made {db' : Database} (ok : failure? (db.updateTask now (.str id) e.changes) = none)
      (edited : db.Edited id e now db') : Tried db id e now none db'
  | refused {fault : Fault}
      (failed : failure? (db.updateTask now (.str id) e.changes) = some fault) :
      Tried db id e now (some fault) db

theorem Tried.failure {a : Option Fault} (h : db.Tried id e now a db') :
    failure? (db.updateTask now (.str id) e.changes) = a := by
  cases h with
  | made ok => exact ok
  | refused failed => exact failed

theorem Tried.sameRows {a : Option Fault} (h : db.Tried id e now a db') : db.SameRows db' := by
  cases h with
  | made _ edited => exact edited.sameRows
  | refused => exact .refl db

theorem Tried.keyed {a : Option Fault} (h : db.Tried id e now a db') (keyed : db.Keyed) :
    db'.Keyed := by
  cases h with
  | made _ edited => exact edited.keyed keyed
  | refused => exact keyed

/-- An edit comes to the same before and after another one was tried. -/
theorem Tried.same {a b c : Option Fault} (h : db.Tried id e n₁ a db₁)
    (other : db.Tried jd f n₃ b db₃) (h' : db₃.Tried id e n₄ c db₄) (single : e.addLabelIds.Nodup) :
    c = a := by
  rw [← h.failure, ← h'.failure]
  exact failure_same other.sameRows single id n₁ n₄

theorem tried_either_order {a b : Option Fault} (he : db.Tried id e n₁ a db₁)
    (hf : db₁.Tried jd f n₂ b db₂) (hf' : db.Tried jd f n₃ b db₃) (he' : db₃.Tried id e n₄ a db₄)
    (adds : e.Adds) (adds' : f.Adds) (apart : id = jd → e.Disjoint f) : db₂.Alike db₄ := by
  cases he with
  | made _ e₁ =>
    cases he' with
    | made _ e₄ =>
      cases hf with
      | made _ f₂ =>
        cases hf' with
        | made _ f₃ => exact edited_either_order e₁ f₂ f₃ e₄ adds adds' apart
      | refused =>
        cases hf' with
        | refused => exact edited_any_time e₁ e₄ adds
  | refused =>
    cases he' with
    | refused =>
      cases hf with
      | made _ f₂ =>
        cases hf' with
        | made _ f₃ => exact edited_any_time f₂ f₃ adds'
      | refused =>
        cases hf' with
        | refused => exact .refl db

end Database

namespace Store
open Engine (office openingDay afternoon)

/-- An edit of a task at some time: why it failed, if it did, and the store afterwards. -/
def editAt (now : Moment) (id : String) (e : TaskEdit) (s : Store) : Option Fault × Store :=
  let (answer, s') := updateTask (.str id) e.changes { s with now := now }
  (failure? answer, s')

variable {s : Store}

theorem editAt_refused {fault : Fault} (h : s.refusal? = some fault) (now : Moment) (id : String)
    (e : TaskEdit) : editAt now id e s = (some fault, { s with now := now }) := by
  have h' : refusal? { s with now := now } = some fault := h
  simp only [editAt, updateTask, mutate, h', failure?]

theorem editAt_tried (reachable : s.refusal? = none) (now : Moment) (id : String) (e : TaskEdit) :
    ∃ a db', editAt now id e s = (a, { s with now := now, db := db' }) ∧
      s.db.Tried id e now a db' := by
  have reachable' : refusal? { s with now := now } = none := reachable
  have checks := s.db.updateTask_checks id e now
  unfold editAt updateTask mutate
  simp only [reachable']
  rcases hmade : s.db.updateTask now (.str id) e.changes with fault | ⟨view, db'⟩
  · exact ⟨some fault, s.db, rfl, .refused (by rw [hmade]; rfl)⟩
  · rw [hmade] at checks
    exact ⟨none, db', rfl, .made (by rw [hmade]; rfl) checks.2.1⟩

/-- Edits of tasks commute. When neither takes assignees away or names a label twice, and edits of
one task do not both set its status, its priority or its due date, then each succeeds, or fails with
the same error, in both orders, at whatever times, and the database comes out the same but for who
changed a task last and the times of changes and assignments; so do the keys of its rows. -/
theorem edits_commute (s : Store) {id jd : String} {e f : TaskEdit} (adds : e.Adds) (adds' : f.Adds)
    (apart : id = jd → e.Disjoint f) (n₁ n₂ n₃ n₄ : Moment) :
    ∃ a b s₁ s₂ t₁ t₂, editAt n₁ id e s = (a, s₁) ∧ editAt n₂ jd f s₁ = (b, s₂) ∧
      editAt n₃ jd f s = (b, t₁) ∧ editAt n₄ id e t₁ = (a, t₂) ∧ s₂.db.Alike t₂.db ∧
      (s.db.Keyed → s₂.db.Keyed ∧ t₂.db.Keyed) := by
  cases hrefusal : s.refusal? with
  | some fault =>
    refine ⟨some fault, some fault, _, _, _, _, editAt_refused hrefusal n₁ id e,
      editAt_refused hrefusal n₂ jd f, editAt_refused hrefusal n₃ jd f,
      editAt_refused hrefusal n₄ id e, .refl s.db, fun keyed => ⟨keyed, keyed⟩⟩
  | none =>
    obtain ⟨a, db₁, first, he⟩ := editAt_tried hrefusal n₁ id e
    obtain ⟨b, db₂, second, hf⟩ :=
      editAt_tried (s := { s with now := n₁, db := db₁ }) hrefusal n₂ jd f
    obtain ⟨b', db₃, first', hf'⟩ := editAt_tried hrefusal n₃ jd f
    obtain ⟨a', db₄, second', he'⟩ :=
      editAt_tried (s := { s with now := n₃, db := db₃ }) hrefusal n₄ id e
    obtain rfl := he.same hf' he' adds.single
    obtain rfl := hf'.same he hf adds'.single
    refine ⟨a', b, _, _, _, _, first, second, first', second', ?_, fun keyed => ?_⟩
    · exact Database.tried_either_order he hf hf' he' adds adds' apart
    · exact ⟨hf.keyed (he.keyed keyed), he'.keyed (hf'.keyed keyed)⟩

/-- An edit that moves a task and assigns it. -/
def handedOn : TaskEdit where
  statusId := some "s-doing"
  assigneeIds := some ["u-bob", "u-carol"]

/-- An edit that rates a task, labels it and assigns it. -/
def rated : TaskEdit where
  priority := some "LOW"
  assigneeIds := some ["u-carol"]
  addLabelIds := ["l-bug"]

/-- Two edits of the task in the office, on the opening day and in the afternoon. -/
theorem a_task_is_handed_on_and_rated :
    handedOn.Adds ∧ rated.Adds ∧ handedOn.Disjoint rated ∧
      ∃ a b s₁ s₂ t₁ t₂, editAt openingDay "t-1" handedOn office.store = (a, s₁) ∧
        editAt afternoon "t-1" rated s₁ = (b, s₂) ∧
        editAt openingDay "t-1" rated office.store = (b, t₁) ∧
        editAt afternoon "t-1" handedOn t₁ = (a, t₂) ∧ s₂.db.Alike t₂.db ∧
        (office.store.db.Keyed → s₂.db.Keyed ∧ t₂.db.Keyed) := by
  have adds : handedOn.Adds := ⟨fun replaces => (nomatch replaces.1), by decide⟩
  have adds' : rated.Adds := ⟨fun replaces => (nomatch replaces.1), by decide⟩
  have apart : handedOn.Disjoint rated := ⟨.inr rfl, .inl rfl, .inl rfl⟩
  exact ⟨adds, adds', apart, edits_commute office.store adds adds' (fun _ => apart) ..⟩

end Store
end TaskRules
