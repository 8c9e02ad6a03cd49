import Mathlib.Data.List.Nodup
import TaskRules.Proofs.EditChecks

/-!
Edits of one task, as a whole. An edit is refused, and then the store is as it was, or it is made,
and then the row of its task, its assignees and its labels are what was asked for, and nothing else
in the database has changed.

Proved:
- `mem_reassign_iff`, `mem_newLabels_iff`, `single_iff`: the links that an edit leaves, and the
  labels that it adds.
- `edited_of_change`: the change that follows from what was found is the one asked for.
- `updateTask_checks`: an edit is accepted and made, or refused for a reason of its own.
- `edit_all_or_nothing`: so is one on a store, and afterwards a look-up shows what was returned.
- `refused_for_absence`, `refused_for_repetition`, `edit_fails_for_reasons`: what an edit fails for.
- `a_label_named_twice_is_refused`: an edit that fails though all that it names is there.
-/

namespace TaskRules

/-! ## What is asked for -/

/-- Who is assigned afterwards, by who was before. -/
def TaskEdit.Assigns (e : TaskEdit) (before : String → Prop) (user : String) : Prop :=
  match e.assigneeIds with
  | none => before user
  | some ids => user ∈ ids ∨ (e.replaceAssignees = false ∧ before user)

namespace Database

/-- No two tasks, assignments or taggings have one key. -/
structure Keyed (db : Database) : Prop where
  tasks : (db.tasks.map (·.id)).Nodup
  assignments : (db.assignments.map fun a => (a.taskId, a.userId)).Nodup
  taggings : db.taggings.Nodup

/-- Databases that agree in all but the tasks and their links. -/
def SameBesides (db db' : Database) : Prop :=
  db' = { db with tasks := db'.tasks, assignments := db'.assignments, taggings := db'.taggings }

/-- What an edit leaves of a database: the row of its task as asked for, every other row of a task
as it was; who is assigned and which labels there are as asked for, by the links that were there and
new ones of the time of the edit; and everything else as it was. -/
structure Edited (db : Database) (id : String) (e : TaskEdit) (now : Moment) (db' : Database) :
    Prop where
  tasks : ∃ t, db.task? id = some t ∧
    db'.tasks = db.tasks.map fun u => if u.id = id then e.applied t now else u
  assignees : ∀ user, db'.Assigned id user ↔ e.Assigns (db.Assigned id) user
  keptLinks : ∀ a ∈ db.assignments, a.taskId = id → e.Assigns (db.Assigned id) a.userId →
    a ∈ db'.assignments
  newLinks : ∀ a ∈ db'.assignments, a ∈ db.assignments ∨
    (¬ db.Assigned id a.userId ∧ a = ⟨id, a.userId, now⟩)
  otherLinks : db'.assignments.filter (·.taskId ≠ id) = db.assignments.filter (·.taskId ≠ id)
  labels : ∀ label, db'.Labelled id label ↔ db.Labelled id label ∨ label ∈ e.addLabelIds
  otherLabels : db'.taggings.filter (·.taskId ≠ id) = db.taggings.filter (·.taskId ≠ id)
  keyed : db.Keyed → db'.Keyed
  rest : db.SameBesides db'

variable {db : Database} {id : String} {e : TaskEdit}

/-! ## What an edit leaves -/

section Links
variable {replace : Bool} {wanted : List String} {now : Moment}

theorem not_assigned_iff (db : Database) (id user : String) :
    (!((db.assignmentsOf id).map (·.userId)).contains user) = true ↔ ¬ db.Assigned id user := by
  simp [Assigned, assignmentsOf]

/-- The links after a task was assigned to users: those that stay, and new ones. -/
theorem mem_changedAssignments_iff {a : Assignment} :
    a ∈ db.changedAssignments id replace wanted now ↔
      (a ∈ db.assignments ∧ (replace = true → a.taskId = id → a.userId ∈ wanted)) ∨
        (a.userId ∈ wanted ∧ ¬ db.Assigned id a.userId ∧ a = ⟨id, a.userId, now⟩) := by
  unfold changedAssignments
  rw [List.mem_append]
  refine or_congr ?_ ?_
  · cases replace with
    | false => simp
    | true =>
      rw [if_pos rfl, List.mem_filter]
      refine and_congr_right fun _ => ?_
      by_cases ours : a.taskId = id <;> simp [ours]
  · simp only [List.mem_map, List.mem_filter, not_assigned_iff]
    constructor
    · rintro ⟨user, ⟨named, new⟩, rfl⟩
      exact ⟨named, new, rfl⟩
    · rintro ⟨named, new, same⟩
      exact ⟨a.userId, ⟨named, new⟩, same.symm⟩

/-- Links of other tasks stay. -/
theorem changedAssignments_others (db : Database) (id : String) (replace : Bool)
    (wanted : List String) (now : Moment) :
    (db.changedAssignments id replace wanted now).filter (·.taskId ≠ id) =
      db.assignments.filter (·.taskId ≠ id) := by
  have new : ∀ users : List String, (users.map fun user => (⟨id, user, now⟩ : Assignment)).filter
      (·.taskId ≠ id) = [] := by
    intro users
    simp [List.filter_eq_nil_iff]
  unfold changedAssignments
  rw [List.filter_append, new, List.append_nil]
  cases replace with
  | false => rfl
  | true =>
    rw [if_pos rfl, List.filter_filter]
    refine List.filter_congr fun a _ => ?_
    by_cases ours : a.taskId = id <;> simp [ours]

/-- No link is there twice. -/
theorem changedAssignments_nodup (nodup : wanted.Nodup)
    (h : (db.assignments.map fun a => (a.taskId, a.userId)).Nodup) :
    ((db.changedAssignments id replace wanted now).map fun a => (a.taskId, a.userId)).Nodup := by
  unfold changedAssignments
  rw [List.map_append]
  refine List.nodup_append'.mpr ⟨?_, ?_, ?_⟩
  · cases replace with
    | false => exact h
    | true => exact h.sublist (List.filter_sublist.map _)
  · rw [List.map_map]
    refine (nodup.filter _).map fun user user' same => ?_
    exact (Prod.mk.inj same).2
  · intro key old new
    obtain ⟨a, ha, rfl⟩ := List.mem_map.mp old
    obtain ⟨b, hb, same⟩ := List.mem_map.mp new
    obtain ⟨user, huser, rfl⟩ := List.mem_map.mp hb
    obtain ⟨ours, rfl⟩ := Prod.mk.inj same
    have there : a ∈ db.assignments := by
      split at ha
      · exact (List.mem_filter.mp ha).1
      · exact ha
    exact (not_assigned_iff db id _).mp (List.mem_filter.mp huser).2 ⟨a, there, ours.symm, rfl⟩

end Links

section Labels

theorem hasRepeat_eq_false_iff (labels : List String) :
    hasRepeat labels = false ↔ labels.Nodup := by
  induction labels with
  | nil => simp [hasRepeat]
  | cons label rest ih => simp [hasRepeat, ih]

theorem not_labelled_iff (db : Database) (id label : String) :
    (!((db.taggingsOf id).map (·.labelId)).contains label) = true ↔ ¬ db.Labelled id label := by
  have existing : label ∈ (db.taggingsOf id).map (·.labelId) ↔ db.Labelled id label := by
    rw [List.mem_map]
    constructor
    · rintro ⟨tagging, htagging, rfl⟩
      obtain ⟨there, ours⟩ := List.mem_filter.mp htagging
      rwa [← eq_of_beq ours]
    · exact fun there => ⟨⟨id, label⟩, List.mem_filter.mpr ⟨there, beq_self_eq_true id⟩, rfl⟩
  rw [Bool.not_eq_true', List.contains_eq_mem, decide_eq_false_iff_not, existing]

theorem mem_newLabels_iff (db : Database) (id : String) (labels : List String) (label : String) :
    label ∈ db.newLabels id labels ↔ label ∈ labels ∧ ¬ db.Labelled id label := by
  rw [newLabels, List.mem_filter, not_labelled_iff]

/-- No label that is new to a task is named twice when none of the labels to be added is there
twice. -/
theorem single_iff (db : Database) (id : String) (labels : List String) :
    hasRepeat (db.newLabels id labels) = false ↔
      ∀ label, ¬ db.Labelled id label → labels.count label ≤ 1 := by
  rw [hasRepeat_eq_false_iff, List.nodup_iff_count_le_one]
  refine forall_congr' fun label => ?_
  by_cases there : db.Labelled id label
  · have old : label ∉ db.newLabels id labels :=
      fun new => ((mem_newLabels_iff db id labels label).mp new).2 there
    simp [there, List.count_eq_zero_of_not_mem old]
  · have same : (db.newLabels id labels).count label = labels.count label :=
      List.count_filter ((not_labelled_iff db id label).mpr there)
    simp [there, same]

end Labels

section Change
variable {t : Task} {users : Option (List String)} {now : Moment}

/-- The links after an edit are those that it asks for. -/
theorem mem_reassign_iff (sought : e.Sought users) {a : Assignment} :
    a ∈ db.reassign id e.replaceAssignees users now ↔
      (a ∈ db.assignments ∧ (a.taskId = id → e.Assigns (db.Assigned id) a.userId)) ∨
        (e.Assigns (db.Assigned id) a.userId ∧ ¬ db.Assigned id a.userId ∧
          a = ⟨id, a.userId, now⟩) := by
  have before : a ∈ db.assignments → a.taskId = id → db.Assigned id a.userId :=
    fun ha ours => ⟨a, ha, ours, rfl⟩
  unfold TaskEdit.Sought at sought
  unfold TaskEdit.Assigns
  cases hids : e.assigneeIds with
  | none =>
    rw [hids] at sought
    subst sought
    dsimp only [reassign]
    constructor
    · exact fun ha => .inl ⟨ha, before ha⟩
    · rintro (⟨ha, -⟩ | ⟨old, new, -⟩)
      · exact ha
      · exact absurd old new
  | some ids =>
    rw [hids] at sought
    obtain ⟨wanted, rfl, -, hmem⟩ := sought
    dsimp only [reassign]
    rw [mem_changedAssignments_iff, hmem]
    cases e.replaceAssignees with
    | false =>
      simp only [Bool.false_eq_true, false_imp_iff, and_true, true_and]
      tauto
    | true => simp

/-- Links of other tasks stay through an edit. -/
theorem reassign_others (db : Database) (id : String) (replace : Bool)
    (users : Option (List String)) (now : Moment) :
    (db.reassign id replace users now).filter (·.taskId ≠ id) =
      db.assignments.filter (·.taskId ≠ id) := by
  cases users with
  | none => rfl
  | some wanted => exact changedAssignments_others db id replace wanted now

/-- An edit makes no link twice. -/
theorem reassign_nodup (sought : e.Sought users)
    (h : (db.assignments.map fun a => (a.taskId, a.userId)).Nodup) :
    ((db.reassign id e.replaceAssignees users now).map fun a => (a.taskId, a.userId)).Nodup := by
  unfold TaskEdit.Sought at sought
  cases hids : e.assigneeIds with
  | none =>
    rw [hids] at sought
    subst sought
    exact h
  | some ids =>
    rw [hids] at sought
    obtain ⟨wanted, rfl, nodup, -⟩ := sought
    exact changedAssignments_nodup nodup h

theorem edited_of_change (found : db.task? id = some t) (sought : e.Sought users)
    (single : hasRepeat (db.newLabels id e.addLabelIds) = false) :
    db.Edited id e now (db.withChange (e.applied t now)
      (db.reassign id e.replaceAssignees users now) (db.newLabels id e.addLabelIds)) := by
  obtain rfl := task?_id found
  have labelled : ∀ label, label ∈ db.newLabels t.id e.addLabelIds ↔
      label ∈ e.addLabelIds ∧ ¬ db.Labelled t.id label := mem_newLabels_iff db t.id e.addLabelIds
  constructor
  case tasks =>
    refine ⟨t, found, List.map_congr_left fun u _ => ?_⟩
    simp only [beq_iff_eq]
    rfl
  case assignees =>
    intro user
    show (∃ a ∈ db.reassign t.id e.replaceAssignees users now, _) ↔ _
    simp only [mem_reassign_iff sought]
    constructor
    · rintro ⟨a, ⟨-, asked⟩ | ⟨asked, -⟩, ours, rfl⟩
      · exact asked ours
      · exact asked
    · intro asked
      by_cases before : db.Assigned t.id user
      · obtain ⟨a, ha, ours, rfl⟩ := before
        exact ⟨a, .inl ⟨ha, fun _ => asked⟩, ours, rfl⟩
      · exact ⟨⟨t.id, user, now⟩, .inr ⟨asked, before, rfl⟩, rfl, rfl⟩
  case keptLinks =>
    intro a ha _ asked
    exact (mem_reassign_iff sought).mpr (.inl ⟨ha, fun _ => asked⟩)
  case newLinks =>
    intro a ha
    rcases (mem_reassign_iff sought).mp ha with ⟨old, -⟩ | ⟨-, new, made⟩
    · exact .inl old
    · exact .inr ⟨new, made⟩
  case otherLinks => exact reassign_others ..
  case labels =>
    intro label
    show _ ∈ db.taggings ++ (db.newLabels t.id e.addLabelIds).map _ ↔ _
    rw [List.mem_append, List.mem_map]
    constructor
    · rintro (old | ⟨label', new, same⟩)
      · exact .inl old
      · obtain rfl : label' = label := congrArg Tagging.labelId same
        exact .inr ((labelled label').mp new).1
    · rintro (old | asked)
      · exact .inl old
      · by_cases before : db.Labelled t.id label
        · exact .inl before
        · exact .inr ⟨label, (labelled label).mpr ⟨asked, before⟩, rfl⟩
  case otherLabels =>
    have new : ((db.newLabels t.id e.addLabelIds).map (Tagging.mk t.id)).filter
        (·.taskId ≠ t.id) = [] := by
      simp [List.filter_eq_nil_iff]
    show (db.taggings ++ (db.newLabels t.id e.addLabelIds).map (Tagging.mk t.id)).filter
      (·.taskId ≠ t.id) = _
    rw [List.filter_append, new, List.append_nil]
  case keyed =>
    intro keyed
    constructor
    · have same : (db.tasks.map fun u => if u.id == t.id then e.applied t now else u).map (·.id) =
          db.tasks.map (·.id) := by
        rw [List.map_map]
        refine List.map_congr_left fun u _ => ?_
        by_cases ours : u.id = t.id <;> simp [ours]
      exact same ▸ keyed.tasks
    · exact reassign_nodup sought keyed.assignments
    · refine List.nodup_append'.mpr ⟨keyed.taggings, ?_, ?_⟩
      · refine ((hasRepeat_eq_false_iff _).mp single).map fun label label' same => ?_
        exact congrArg Tagging.labelId same
      · intro tagging old new
        obtain ⟨label, hlabel, rfl⟩ := List.mem_map.mp new
        exact ((labelled label).mp hlabel).2 old
  case rest => exact rfl

/-- The row of the task is found as it was changed. -/
theorem applied_found (found : db.task? id = some t) (assignments : List Assignment)
    (labels : List String) :
    (db.withChange (e.applied t now) assignments labels).task? id = some (e.applied t now) := by
  obtain rfl := task?_id found
  rw [task?_withChange, found]
  exact congrArg some (if_pos (beq_self_eq_true t.id))

end Change

theorem updateTask_checks (db : Database) (id : String) (e : TaskEdit) (now : Moment) :
    Checks (fun p => db.Accepts id e ∧ db.Edited id e now p.2 ∧ p.2.taskView? id = some p.1)
      (db.Refuses id e) (db.updateTask now (.str id) e.changes) := by
  have key := (key?_checks id).imp (fun _ h => h)
    (refuses_unwritable db (TaskEdit.mem_texts_of_named (e.task_named id)))
  rw [updateTask_eq]
  refine key.bind ?_
  rintro _ ⟨rfl, whole⟩
  rw [Option.bind_some]
  cases found : db.task? id with
  | none => exact .missing (e.task_named id) (by simp [has, found])
  | some t =>
    obtain rfl := task?_id found
    refine (db.checkStatus_checks t.id e).bind fun _ status => ?_
    refine (db.namedUsers_checks t.id e).bind ?_
    rintro users ⟨sought, there⟩
    refine (db.namedLabels_checks t.id e).bind ?_
    rintro _ ⟨rfl, labels⟩
    refine (db.keep_checks t.id e).bind ?_
    rintro kept ⟨applied, kept_whole⟩
    have all : ∀ p ∈ e.named t.id, db.Holds p.1 p.2 :=
      TaskEdit.forall_named ⟨by simp [has, found], whole⟩ status there labels
    have single := single_iff db t.id e.addLabelIds
    cases repeated : hasRepeat (db.newLabels t.id e.addLabelIds) with
    | true =>
      have twice : ∃ label, ¬ db.Labelled t.id label ∧ 2 ≤ e.addLabelIds.count label := by
        by_contra none
        have once : ∀ label, ¬ db.Labelled t.id label → e.addLabelIds.count label ≤ 1 := by
          intro label new
          by_contra many
          exact none ⟨label, new, by omega⟩
        rw [single.mpr once] at repeated
        cases repeated
      obtain ⟨label, new, twice⟩ := twice
      exact .repeated (fun p hp => (all p hp).1) new twice
    | false =>
      refine .ofPure ⟨⟨fun p hp => (all p hp).1, ?_, single.mp repeated⟩, ?_, ?_⟩
      · intro text htext
        rcases List.mem_append.mp htext with h | h
        · obtain ⟨p, hp, rfl⟩ := List.mem_map.mp h
          exact (all p hp).2
        · exact kept_whole text h
      · rw [afterChange, applied]
        exact edited_of_change found sought repeated
      · rw [afterChange, applied, taskView?, applied_found found]
        rfl

end Database

namespace Store
variable {s : Store} {id : String} {e : TaskEdit}

/-- An edit on a store that can be reached is one on its database. -/
theorem edit_checks (reachable : s.refusal? = none) (id : String) (e : TaskEdit) :
    (∃ fault, updateTask (.str id) e.changes s = (.error fault, s) ∧ s.db.Refuses id e fault) ∨
      ∃ view db', updateTask (.str id) e.changes s = (.ok view, { s with db := db' }) ∧
        s.db.Accepts id e ∧ s.db.Edited id e s.now db' ∧ db'.taskView? id = some view := by
  have checks := s.db.updateTask_checks id e s.now
  simp only [updateTask, mutate, reachable]
  rcases hmade : s.db.updateTask s.now (.str id) e.changes with fault | ⟨view, db'⟩
  · rw [hmade] at checks
    exact .inl ⟨fault, rfl, checks⟩
  · rw [hmade] at checks
    exact .inr ⟨view, db', rfl, checks⟩

/-- A task that is found under an id is shown. -/
theorem getTask_found {view : TaskView} (reachable : s.refusal? = none)
    (whole : Text.isWhole id.toList = true) (shown : s.db.taskView? id = some view) :
    getTask (.str id) s = (.ok (some view), s) := by
  refine query_ok reachable ?_
  rw [key_found whole, ← shown]
  rfl

/-- An edit of a task is made as a whole or not at all: it fails and leaves the store as it was, as
the store is out of reach or for a reason of the edit's; or it gives the task, and then the row, the
assignees and the labels of the task are what was asked for, nothing else has changed, and the task
is shown as it was given. -/
theorem edit_all_or_nothing (s : Store) (id : String) (e : TaskEdit) :
    (∃ fault, updateTask (.str id) e.changes s = (.error fault, s) ∧
      (s.refusal? = some fault ∨ s.db.Refuses id e fault)) ∨
    ∃ view s', updateTask (.str id) e.changes s = (.ok view, s') ∧ s.db.Accepts id e ∧
      s.db.Edited id e s.now s'.db ∧ { s' with db := s.db } = s ∧
      getTask (.str id) s' = (.ok (some view), s') := by
  cases hrefusal : s.refusal? with
  | some fault => exact .inl ⟨fault, by simp only [updateTask, mutate, hrefusal], .inl rfl⟩
  | none =>
    rcases edit_checks hrefusal id e with
      ⟨fault, failed, refused⟩ | ⟨view, db', made, ok, edited, shown⟩
    · exact .inl ⟨fault, failed, .inr refused⟩
    · have whole := ok.writable id (TaskEdit.mem_texts_of_named (e.task_named id))
      exact .inr ⟨view, _, made, ok, edited, rfl, getTask_found hrefusal whole shown⟩

/-! ## What an edit fails for -/

/-- When all that an edit names is there and can be written, it is refused for a repeated label
only. -/
theorem refused_for_repetition {db : Database} {fault : Fault}
    (there : ∀ p ∈ e.named id, db.has p.1 p.2 = true)
    (writable : ∀ text ∈ e.texts id, Text.isWhole text.toList = true)
    (h : db.Refuses id e fault) :
    fault = .constraint ∧ ∃ label, ¬ db.Labelled id label ∧ 2 ≤ e.addLabelIds.count label := by
  cases h with
  | missing named gone => exact absurd (there _ named) (by simp [gone])
  | unwritable given half => exact absurd (writable _ given) (by simp [half])
  | repeated _ new twice => exact ⟨rfl, _, new, twice⟩

/-- When something that an edit names is missing, and the rest can be written, the edit is refused
for something that is missing. -/
theorem refused_for_absence {db : Database} {fault : Fault}
    (absent : ∃ p ∈ e.named id, db.has p.1 p.2 = false)
    (writable : ∀ text ∈ e.texts id, Text.isWhole text.toList = true)
    (h : db.Refuses id e fault) :
    ∃ p ∈ e.named id, db.has p.1 p.2 = false ∧ fault = .notFound p.1.word (.str p.2) := by
  cases h with
  | missing named gone => exact ⟨_, named, gone, rfl⟩
  | unwritable given half => exact absurd (writable _ given) (by simp [half])
  | repeated there =>
    obtain ⟨p, hp, gone⟩ := absent
    exact absurd (there p hp) (by simp [gone])

/-- What is accepted is not refused. -/
theorem not_refused {db : Database} {fault : Fault} (ok : db.Accepts id e) :
    ¬ db.Refuses id e fault := by
  intro refused
  obtain ⟨-, label, new, twice⟩ := refused_for_repetition ok.there ok.writable refused
  exact absurd (ok.single label new) (Nat.not_le.mpr twice)

/-- What an edit fails for, on a store that can be reached: it succeeds exactly when all that it
names is there, its texts can be written, and no label that is new to the task is named twice. When
its texts can be written, it fails for a missing row whenever there is one, and otherwise only for a
label that is repeated. A failure leaves the store as it was. -/
theorem edit_fails_for_reasons (reachable : s.refusal? = none) (id : String) (e : TaskEdit) :
    ((∃ view s', updateTask (.str id) e.changes s = (.ok view, s')) ↔ s.db.Accepts id e) ∧
    ∀ fault s', updateTask (.str id) e.changes s = (.error fault, s') → s' = s ∧
      s.db.Refuses id e fault ∧
      ((∀ text ∈ e.texts id, Text.isWhole text.toList = true) →
        (∃ p ∈ e.named id, s.db.has p.1 p.2 = false ∧ fault = .notFound p.1.word (.str p.2)) ∨
        ((∀ p ∈ e.named id, s.db.has p.1 p.2 = true) ∧ fault = .constraint ∧
          ∃ label, ¬ s.db.Labelled id label ∧ 2 ≤ e.addLabelIds.count label)) := by
  rcases edit_checks reachable id e with
    ⟨fault, failed, refused⟩ | ⟨view, db', made, ok, -⟩
  · rw [failed]
    refine ⟨⟨fun ⟨_, _, h⟩ => (nomatch h), fun ok => absurd refused (not_refused ok)⟩, ?_⟩
    rintro _ _ ⟨⟩
    refine ⟨rfl, refused, fun writable => ?_⟩
    by_cases absent : ∃ p ∈ e.named id, s.db.has p.1 p.2 = false
    · exact .inl (refused_for_absence absent writable refused)
    · have there : ∀ p ∈ e.named id, s.db.has p.1 p.2 = true := by
        simpa using absent
      exact .inr ⟨there, refused_for_repetition there writable refused⟩
  · rw [made]
    exact ⟨⟨fun _ => ok, fun _ => ⟨_, _, rfl⟩⟩, fun _ _ h => nomatch h⟩

open Engine (office)

theorem office_reachable : office.store.refusal? = none :=
  Option.isNone_iff_eq_none.mp (by decide +kernel)

/-- Users may be named again and again, and be assigned already. -/
def shared : TaskEdit where
  assigneeIds := some ["u-bob", "u-alice", "u-bob"]
  addLabelIds := ["l-bug"]

theorem a_shared_task_is_edited :
    office.store.refusal? = none ∧
      ∃ view s', updateTask (.str "t-1") shared.changes office.store = (.ok view, s') := by
  have accepted : office.store.db.Accepts "t-1" shared :=
    { there := by decide +kernel
      writable := by decide +kernel
      single := fun label _ => List.nodup_iff_count_le_one.mp (by decide) label }
  exact ⟨office_reachable,
    (edit_fails_for_reasons office_reachable "t-1" shared).1.mpr accepted⟩

/-- An edit that names one label twice. -/
def labelledTwice : TaskEdit where
  addLabelIds := ["l-bug", "l-bug"]

/-- The label and the task are there, and still the edit fails. -/
theorem a_label_named_twice_is_refused :
    (∀ p ∈ labelledTwice.named "t-1", office.store.db.has p.1 p.2 = true) ∧
      updateTask (.str "t-1") labelledTwice.changes office.store =
        (.error .constraint, office.store) := by
  have there : ∀ p ∈ labelledTwice.named "t-1", office.store.db.has p.1 p.2 = true := by
    decide +kernel
  have writable : ∀ text ∈ labelledTwice.texts "t-1", Text.isWhole text.toList = true := by
    decide +kernel
  have new : ¬ office.store.db.Labelled "t-1" "l-bug" := by
    unfold Database.Labelled
    decide +kernel
  refine ⟨there, ?_⟩
  rcases edit_checks office_reachable "t-1" labelledTwice with
    ⟨fault, failed, refused⟩ | ⟨_, _, _, ok, _⟩
  · rw [failed, (refused_for_repetition there writable refused).1]
  · exact absurd (ok.single "l-bug" new) (by decide)

end Store
end TaskRules
