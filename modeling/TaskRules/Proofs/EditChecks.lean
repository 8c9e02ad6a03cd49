import TaskRules.Proofs.Repetition

/-!
Edits of one task. An edit asks for a status, a priority, a due date, assignees, labels and an
author, in any combination. It looks up what it names part by part, and hands its texts over; each
part is found, or the edit is refused for it.

Proved:
- `Checks.bind`, `Checks.mapM`, `Checks.forM`: what holds of the answers of checks in a row, and why
  they fail.
- `checkStatus_checks`, `namedUsers_checks`, `namedLabels_checks`, `keep_checks`: what one part of
  an edit finds, or is refused for.
- `keep_eq`, `author_kept`: what the columns keep of an edit.
-/

namespace TaskRules

/-! ## Edits -/

/-- What is asked of one task; what is none stays as it is. -/
structure TaskEdit where
  statusId : Option String := none
  priority : Option String := none
  dueDate : Option Timestamp := none
  clearDueDate : Bool := false
  assigneeIds : Option (List String) := none
  replaceAssignees : Bool := false
  addLabelIds : List String := []
  updatedBy : Option String := none

namespace TaskEdit

/-- An edit as it is handed to the store. Its due date is stored by its wall clock. -/
def changes (e : TaskEdit) : TaskChanges where
  statusId := .ofText? e.statusId
  priority := .ofText? e.priority
  dueDate := e.dueDate.map (·.wall)
  clearDueDate := e.clearDueDate
  assigneeIds := .ofOption Action.textsJson e.assigneeIds
  replaceAssignees := e.replaceAssignees
  addLabelIds := Action.textsJson e.addLabelIds
  updatedBy := .ofText? e.updatedBy

/-- The author that an edit leaves its name by; an empty one is none. -/
def author? (e : TaskEdit) : Option String := e.updatedBy.filter (· ≠ "")

/-- The row of the task afterwards. Clearing the due date wins over setting it. -/
def applied (e : TaskEdit) (t : Task) (now : Moment) : Task :=
  { t with
    statusId := e.statusId.getD t.statusId
    priority := e.priority.getD t.priority
    dueDate := if e.clearDueDate then none else (e.dueDate.map (·.wall)).or t.dueDate
    updatedBy := e.author?.or t.updatedBy
    updatedAt := now }

@[simp]
theorem applied_id (e : TaskEdit) (t : Task) (now : Moment) : (e.applied t now).id = t.id := rfl

end TaskEdit

/-- The kinds of row that an edit can name. -/
inductive Entity where
  | task
  | status
  | user
  | label
  deriving DecidableEq

/-- What an error calls a row that is not there. -/
def Entity.word : Entity → String
  | .task => "Task"
  | .status => "Task status"
  | .user => "User"
  | .label => "Label"

namespace TaskEdit

/-- The rows that an edit names. -/
def named (e : TaskEdit) (id : String) : List (Entity × String) :=
  (.task, id) :: (e.statusId.toList.map (.status, ·) ++
    ((e.assigneeIds.getD []).map (.user, ·) ++ e.addLabelIds.map (.label, ·)))

/-- The texts that an edit hands to the database. -/
def texts (e : TaskEdit) (id : String) : List String :=
  (e.named id).map (·.2) ++ (e.priority.toList ++ e.author?.toList)

end TaskEdit

namespace Database

def has (db : Database) : Entity → String → Bool
  | .task, id => (db.task? id).isSome
  | .status, id => (db.status? id).isSome
  | .user, id => (db.user? id).isSome
  | .label, id => (db.label? id).isSome

def Assigned (db : Database) (taskId user : String) : Prop :=
  ∃ a ∈ db.assignments, a.taskId = taskId ∧ a.userId = user

def Labelled (db : Database) (taskId label : String) : Prop := ⟨taskId, label⟩ ∈ db.taggings

/-- An edit that can be made: what it names is there, its texts can be written, and no label that is
new to the task is named twice. -/
structure Accepts (db : Database) (id : String) (e : TaskEdit) : Prop where
  there : ∀ p ∈ e.named id, db.has p.1 p.2 = true
  writable : ∀ text ∈ e.texts id, Text.isWhole text.toList = true
  single : ∀ label, ¬ db.Labelled id label → e.addLabelIds.count label ≤ 1

/-- The reasons for which an edit is refused, with the errors that tell them. -/
inductive Refuses (db : Database) (id : String) (e : TaskEdit) : Fault → Prop
  | missing {entity : Entity} {key : String} (named : (entity, key) ∈ e.named id)
      (gone : db.has entity key = false) : Refuses db id e (.notFound entity.word (.str key))
  | unwritable {text : String} (given : text ∈ e.texts id)
      (half : Text.isWhole text.toList = false) : Refuses db id e (.notEncodable text.toList)
  | repeated {label : String} (there : ∀ p ∈ e.named id, db.has p.1 p.2 = true)
      (new : ¬ db.Labelled id label) (twice : 2 ≤ e.addLabelIds.count label) :
      Refuses db id e .constraint

end Database

/-! ## Checks -/

/-- A computation that gives only good answers, and fails only for bad reasons. -/
def Checks (good : α → Prop) (bad : ε → Prop) : Except ε α → Prop
  | .ok a => good a
  | .error e => bad e

namespace Checks
variable {good : α → Prop} {next : β → Prop} {bad bad' : ε → Prop}

theorem ofPure {a : α} (h : good a) : Checks good bad (pure a) := h

theorem imp {good' : α → Prop} {x : Except ε α} (h : Checks good bad x)
    (hgood : ∀ a, good a → good' a) (hbad : ∀ e, bad e → bad' e) : Checks good' bad' x := by
  cases x with
  | ok a => exact hgood a h
  | error e => exact hbad e h

theorem bind {x : Except ε α} (h : Checks good bad x) {f : α → Except ε β}
    (hf : ∀ a, good a → Checks next bad (f a)) : Checks next bad (x >>= f) := by
  cases x with
  | ok a => exact hf a h
  | error e => exact h

/-- A check of every text of a list that gives the text itself. -/
theorem mapM {good : String → Prop} {f : Json → Except ε String} {l : List String}
    (h : ∀ s ∈ l, Checks (fun out => out = s ∧ good s) bad (f (.str s))) :
    Checks (fun out => out = l ∧ ∀ s ∈ l, good s) bad ((l.map Json.str).mapM f) := by
  induction l with
  | nil => exact ofPure ⟨rfl, List.forall_mem_nil good⟩
  | cons s rest ih =>
    obtain ⟨first, others⟩ := List.forall_mem_cons.mp h
    rw [List.map_cons, List.mapM_cons]
    refine first.bind ?_
    rintro _ ⟨rfl, hs⟩
    refine (ih others).bind ?_
    rintro _ ⟨rfl, hrest⟩
    exact ofPure ⟨rfl, List.forall_mem_cons.mpr ⟨hs, hrest⟩⟩

/-- A check of every text of a list that gives nothing. -/
theorem forM {good : String → Prop} {f : Json → Except ε Unit} {l : List String}
    (h : ∀ s ∈ l, Checks (fun _ => good s) bad (f (.str s))) :
    Checks (fun _ => ∀ s ∈ l, good s) bad ((l.map Json.str).forM f) := by
  induction l with
  | nil => exact ofPure (List.forall_mem_nil good)
  | cons s rest ih =>
    obtain ⟨first, others⟩ := List.forall_mem_cons.mp h
    refine first.bind fun _ hs => ?_
    exact (ih others).imp (fun _ hrest => List.forall_mem_cons.mpr ⟨hs, hrest⟩) fun _ h => h

end Checks

/-- A text is whole, or a fault tells that it is not. -/
def Unwritable (text : String) (f : Fault) : Prop :=
  Text.isWhole text.toList = false ∧ f = .notEncodable text.toList

theorem handedOver_checks (text : String) :
    Checks (fun v => v = .str text ∧ Text.isWhole text.toList = true) (Unwritable text)
      (handedOver (.str text)) := by
  show Checks _ _ (if Text.isWhole text.toList then .ok (Json.str text)
    else .error (Fault.notEncodable text.toList))
  cases whole : Text.isWhole text.toList with
  | true => exact ⟨rfl, rfl⟩
  | false => exact ⟨whole, rfl⟩

theorem store_checks (text : String) :
    Checks (fun v => v = .str text ∧ Text.isWhole text.toList = true) (Unwritable text)
      (Affinity.text.store (.str text)) := by
  have handed := handedOver_checks text
  unfold Affinity.store
  cases hv : handedOver (.str text) with
  | ok v =>
    rw [hv] at handed
    obtain ⟨rfl, whole⟩ := handed
    exact ⟨rfl, whole⟩
  | error f =>
    rw [hv] at handed
    exact handed

theorem key?_checks (id : String) :
    Checks (fun key => key = some id ∧ Text.isWhole id.toList = true) (Unwritable id)
      (Column.key? (.str id)) := by
  show Checks _ _ (Affinity.text.store (.str id) >>= _)
  refine (store_checks id).bind ?_
  rintro _ ⟨rfl, whole⟩
  exact ⟨rfl, whole⟩

/-! ## What an edit looks up -/

namespace TaskEdit
variable {e : TaskEdit} {id : String}

theorem task_named (e : TaskEdit) (id : String) : (Entity.task, id) ∈ e.named id :=
  List.mem_cons_self ..

theorem status_named {status : String} (h : e.statusId = some status) :
    (Entity.status, status) ∈ e.named id := by
  simp [named, h]

theorem user_named {ids : List String} {user : String} (h : e.assigneeIds = some ids)
    (hu : user ∈ ids) : (Entity.user, user) ∈ e.named id := by
  simp [named, h, hu]

theorem label_named {label : String} (h : label ∈ e.addLabelIds) :
    (Entity.label, label) ∈ e.named id := by
  simp [named, h]

theorem mem_texts_of_named {p : Entity × String} (h : p ∈ e.named id) : p.2 ∈ e.texts id :=
  List.mem_append_left _ (List.mem_map_of_mem h)

/-- What is true of the rows of each kind that an edit names is true of all of them. -/
theorem forall_named {P : Entity × String → Prop} (task : P (.task, id))
    (status : ∀ s, e.statusId = some s → P (.status, s))
    (users : ∀ ids, e.assigneeIds = some ids → ∀ user ∈ ids, P (.user, user))
    (labels : ∀ label ∈ e.addLabelIds, P (.label, label)) : ∀ p ∈ e.named id, P p := by
  intro p hp
  simp only [named, List.mem_cons, List.mem_append, List.mem_map, Option.mem_toList] at hp
  rcases hp with rfl | ⟨s, hs, rfl⟩ | ⟨user, hu, rfl⟩ | ⟨label, hl, rfl⟩
  · exact task
  · exact status s hs
  · cases hids : e.assigneeIds with
    | none => simp [hids] at hu
    | some ids => exact users ids hids user (by simpa [hids] using hu)
  · exact labels label hl

/-- The users that are looked up: each that is named, once. -/
def Sought (e : TaskEdit) (users : Option (List String)) : Prop :=
  match e.assigneeIds with
  | none => users = none
  | some ids => ∃ wanted, users = some wanted ∧ wanted.Nodup ∧ ∀ user, user ∈ wanted ↔ user ∈ ids

end TaskEdit

namespace Database
variable {db : Database} {id : String} {e : TaskEdit}

theorem refuses_unwritable (db : Database) {text : String} (given : text ∈ e.texts id) (f : Fault)
    (h : Unwritable text f) : db.Refuses id e f := by
  obtain ⟨half, rfl⟩ := h
  exact .unwritable given half

/-- A row that an edit names is there, under a key that can be looked up. -/
def Holds (db : Database) (entity : Entity) (key : String) : Prop :=
  db.has entity key = true ∧ Text.isWhole key.toList = true

theorem checkStatus_checks (db : Database) (id : String) (e : TaskEdit) :
    Checks (fun _ => ∀ s, e.statusId = some s → db.Holds .status s) (db.Refuses id e)
      (db.checkStatus e.changes) := by
  unfold checkStatus TaskEdit.changes
  cases hs : e.statusId with
  | none => exact fun s hs => nomatch hs
  | some status =>
    have named : (Entity.status, status) ∈ e.named id := TaskEdit.status_named hs
    refine ((key?_checks status).imp (fun _ h => h)
      (refuses_unwritable db (TaskEdit.mem_texts_of_named named))).bind ?_
    rintro _ ⟨rfl, whole⟩
    rw [Option.bind_some]
    cases found : db.status? status with
    | none => exact .missing named (by simp [has, found])
    | some row =>
      rintro _ ⟨⟩
      exact ⟨by simp [has, found], whole⟩

theorem differing_distinct (ids : List String) :
    ∃ distinct : List String, differing (ids.map Json.str) = .ok (distinct.map Json.str) ∧
      distinct.Nodup ∧ ∀ id, id ∈ distinct ↔ id ∈ ids := by
  induction ids with
  | nil => exact ⟨[], rfl, List.nodup_nil, fun _ => Iff.rfl⟩
  | cons first ids ih =>
    obtain ⟨rest, hrest, nodup, hmem⟩ := ih
    refine ⟨first :: rest.filter (first != ·), ?_, ?_, ?_⟩
    · rw [List.map_cons, differing, hrest]
      show Except.ok (Json.str first :: (rest.map Json.str).filter
        fun w => !(Json.str first).same w) = _
      rw [List.filter_map]
      rfl
    · exact List.nodup_cons.mpr ⟨by simp, nodup.filter _⟩
    · intro id
      by_cases same : id = first
      · simp [same]
      · have differs : first ≠ id := fun h => same h.symm
        simp [same, differs, hmem]

/-- The users of a list are looked up once each, and each of them has to be there. -/
theorem requireUsers_checks {bad : Fault → Prop} {ids : List String}
    (unwritable : ∀ user ∈ ids, ∀ f, Unwritable user f → bad f)
    (missing : ∀ user ∈ ids, db.has .user user = false → bad (.notFound "User" (.str user))) :
    Checks (fun wanted => wanted.Nodup ∧ (∀ user, user ∈ wanted ↔ user ∈ ids) ∧
      ∀ user ∈ ids, db.Holds .user user) bad (db.requireUsers (Action.textsJson ids)) := by
  obtain ⟨wanted, hwanted, nodup, hmem⟩ := differing_distinct ids
  show Checks _ _ (differing (ids.map Json.str) >>= _)
  rw [hwanted]
  have written : Checks (fun _ => ∀ user ∈ wanted, Text.isWhole user.toList = true) bad
      ((wanted.map Json.str).forM fun v => do let _ ← handedOver v) := by
    refine .forM fun user huser => ?_
    refine ((handedOver_checks user).imp (fun _ h => h)
      (unwritable user ((hmem user).mp huser))).bind fun _ h => ?_
    exact h.2
  have found : Checks (fun out => out = wanted ∧ ∀ user ∈ wanted, db.has .user user = true) bad
      ((wanted.map Json.str).mapM db.requireUser) := by
    refine .mapM fun user huser => ?_
    show Checks _ _ (if db.has .user user = true then .ok user
      else .error (Fault.notFound "User" (.str user)))
    cases there : db.has .user user with
    | true => exact ⟨rfl, rfl⟩
    | false => exact missing user ((hmem user).mp huser) there
  refine written.bind fun _ whole => found.imp ?_ fun _ h => h
  rintro _ ⟨rfl, there⟩
  refine ⟨nodup, hmem, fun user huser => ?_⟩
  have sought := (hmem user).mpr huser
  exact ⟨there user sought, whole user sought⟩

theorem namedUsers_checks (db : Database) (id : String) (e : TaskEdit) :
    Checks (fun users => e.Sought users ∧
      ∀ ids, e.assigneeIds = some ids → ∀ user ∈ ids, db.Holds .user user) (db.Refuses id e)
      (db.namedUsers (.str id) e.changes) := by
  unfold namedUsers TaskEdit.changes TaskEdit.Sought
  cases hids : e.assigneeIds with
  | none => exact ⟨rfl, fun ids h => nomatch h⟩
  | some ids =>
    have named : ∀ user ∈ ids, (Entity.user, user) ∈ e.named id :=
      fun user => TaskEdit.user_named hids
    have looked : Checks _ (db.Refuses id e) (db.requireUsers (Action.textsJson ids)) :=
      requireUsers_checks
        (fun user hu => refuses_unwritable db (TaskEdit.mem_texts_of_named (named user hu)))
        fun user hu gone => .missing (named user hu) gone
    have handed := (handedOver_checks id).imp (fun _ h => h)
      (refuses_unwritable db (TaskEdit.mem_texts_of_named (e.task_named id)))
    refine looked.bind fun wanted hwanted => handed.bind fun _ _ => .ofPure ?_
    obtain ⟨nodup, hmem, holds⟩ := hwanted
    refine ⟨⟨wanted, rfl, nodup, hmem⟩, ?_⟩
    rintro _ ⟨⟩
    exact holds

theorem namedLabels_checks (db : Database) (id : String) (e : TaskEdit) :
    Checks (fun labels => labels = e.addLabelIds ∧ ∀ label ∈ e.addLabelIds, db.Holds .label label)
      (db.Refuses id e) (db.namedLabels (.str id) e.changes) := by
  show Checks _ _ ((e.addLabelIds.map Json.str).mapM (db.requireLabel (.str id)))
  refine .mapM fun label hl => ?_
  have named : (Entity.label, label) ∈ e.named id := TaskEdit.label_named hl
  unfold requireLabel
  refine ((key?_checks label).imp (fun _ h => h)
    (refuses_unwritable db (TaskEdit.mem_texts_of_named named))).bind ?_
  rintro _ ⟨rfl, whole⟩
  rw [Option.bind_some]
  cases found : db.label? label with
  | none => exact .missing named (by simp [has, found])
  | some row => exact ⟨label?_id found, by simp [has, found], whole⟩

/-! ## What the columns keep of an edit -/

/-- The author that is handed over. -/
theorem author_kept (e : TaskEdit) :
    (if (Json.ofText? e.updatedBy).truthy then Json.ofText? e.updatedBy else .null) =
      .ofText? e.author? := by
  unfold TaskEdit.author?
  cases e.updatedBy with
  | none => rfl
  | some author =>
    by_cases empty : author = "" <;>
      simp [Json.ofText?, Json.ofOption, Json.truthy, Option.filter, empty]

theorem keep_eq (e : TaskEdit) :
    e.changes.keep = (do
      let priority ← ColumnKind.text.store (.ofText? e.priority)
      let status ← ColumnKind.text.store (.ofText? e.statusId)
      let author ← ColumnKind.text.store (.ofText? e.author?)
      return [("priority", priority), ("status_id", status), ("updated_by", author)]) := by
  unfold TaskChanges.keep
  show Table.tasks.keep [("status_id", .ofText? e.statusId), ("priority", .ofText? e.priority),
    ("updated_by", if (Json.ofText? e.updatedBy).truthy then .ofText? e.updatedBy else .null)] = _
  rw [author_kept]
  have given : ∀ a b c : Json, (Table.tasks.columns.filterMap fun column =>
      (Json.Fields.get? [("status_id", a), ("priority", b), ("updated_by", c)] column.1).map
        (column, ·)) =
      [(("priority", .text), b), (("status_id", .text), a), (("updated_by", .text), c)] :=
    fun a b c => rfl
  unfold Table.keep
  rw [given]
  simp only [List.any_cons, List.any_nil, admits_text, Bool.not_true, Bool.or_false,
    Bool.false_eq_true, if_false, List.mapM_cons, List.mapM_nil, bind_assoc, pure_bind]

theorem keep_checks (db : Database) (id : String) (e : TaskEdit) :
    Checks (fun kept => (∀ t now, changedTask t e.changes kept now = e.applied t now) ∧
      ∀ text ∈ e.priority.toList ++ e.author?.toList, Text.isWhole text.toList = true)
      (db.Refuses id e) e.changes.keep := by
  have handed : ∀ o : Option String, (∀ text, o = some text → text ∈ e.texts id) →
      Checks (fun v => v = .ofText? o ∧ ∀ text, o = some text → Text.isWhole text.toList = true)
        (db.Refuses id e) (ColumnKind.text.store (.ofText? o)) := by
    intro o given
    cases o with
    | none => exact ⟨rfl, fun text h => nomatch h⟩
    | some text =>
      refine (store_checks text).imp ?_ (refuses_unwritable db (given text rfl))
      rintro _ ⟨rfl, whole⟩
      refine ⟨rfl, ?_⟩
      rintro _ ⟨⟩
      exact whole
  rw [keep_eq]
  refine (handed e.priority fun text h => ?_).bind fun v hv =>
    (handed e.statusId fun text h => ?_).bind fun w hw =>
      (handed e.author? fun text h => ?_).bind fun u hu => .ofPure ⟨fun t now => ?_, ?_⟩
  · simp [TaskEdit.texts, h]
  · exact TaskEdit.mem_texts_of_named (TaskEdit.status_named h)
  · simp [TaskEdit.texts, h]
  · obtain ⟨rfl, -⟩ := hv
    obtain ⟨rfl, -⟩ := hw
    obtain ⟨rfl, -⟩ := hu
    unfold changedTask TaskEdit.applied
    generalize e.author? = author
    cases e.statusId <;> cases e.priority <;> cases author <;> cases hd : e.dueDate <;>
      simp only [TaskEdit.changes, hd] <;> rfl
  · intro text htext
    rcases List.mem_append.mp htext with h | h
    · exact hv.2 text (Option.mem_toList.mp h)
    · exact hu.2 text (Option.mem_toList.mp h)

end Database
end TaskRules
