import TaskRules.Engine.World
import TaskRules.Proofs.RecordStore

/-!
What a change has done that the store answered. A task is looked up before it is changed, and so is
every status, user and label that the change names; a new task has the status and the assignees that
were looked up; a comment belongs to a task that was looked up. The users of notifications are not
looked up.

Proved:
- `ok_of_query`, `ok_of_mutate`, `ok_of_insert`: a call that succeeds has made its change on the
  database it found.
- `requireUsers_found`, `checkDraft_found`: what a check that passed has looked up.
- `updateTask_ok`, `createTask_ok`, `comment_ok`, `notify_ok`: what each of the four changes found
  and what it left.
- `task?_withChange`, `task?_withTask`: the task that was changed or added is the one found
  afterwards.
-/

namespace TaskRules

/-! ## Rows -/

theorem rowOrFault_ok {o : Option α} {a : α} (h : rowOrFault o = .ok a) : o = some a := by
  cases o with
  | none => cases h
  | some b => exact congrArg some (Except.ok.inj h)

theorem addRow_ok {clashes : α → α → Bool} {rows rows' : List α} {row : α}
    (h : addRow clashes rows row = .ok rows') :
    rows.any (clashes row) = false ∧ rows' = rows ++ [row] := by
  unfold addRow at h
  split at h
  · cases h
  · rename_i hc
    exact ⟨by simpa using hc, (Except.ok.inj h).symm⟩

/-- An id in a column of text is kept as it is. -/
theorem Table.keep_id {t : Table} {fields kept : Json.Fields} (h : t.keep fields = .ok kept)
    (name : String) (hc : (name, .text) ∈ t.columns) {id : String}
    (hv : Json.Fields.get? fields name = some (.str id)) : Column.text? kept name = some id :=
  keep_text h name hc hv (o := some id) rfl

namespace Database

/-! ## Look-ups -/

theorem task?_id {db : Database} {id : String} {t : Task} (h : db.task? id = some t) :
    t.id = id := Store.key_of_find Task.id h

theorem task?_mem {db : Database} {id : String} {t : Task} (h : db.task? id = some t) :
    t ∈ db.tasks := List.mem_of_find?_eq_some h

theorem project?_id {db : Database} {id : String} {project : Project}
    (h : db.project? id = some project) : project.id = id :=
  Store.key_of_find Project.id h

theorem label?_id {db : Database} {id : String} {label : Label} (h : db.label? id = some label) :
    label.id = id := Store.key_of_find Label.id h

theorem requireStatus_ok {db : Database} {id : String} (h : db.requireStatus (.str id) = .ok ()) :
    (db.status? id).isSome := by
  obtain ⟨key, hkey, h⟩ := ok_of_bind h
  obtain ⟨-, rfl⟩ := Store.key?_ok hkey
  rw [Option.bind_some] at h
  cases hs : db.status? id with
  | some status => rfl
  | none =>
    rw [hs] at h
    cases h

theorem requireUser_ok {db : Database} {v : Json} {id : String} (h : db.requireUser v = .ok id) :
    v = .str id ∧ (db.user? id).isSome := by
  unfold requireUser at h
  split at h
  · split at h
    · cases h
      exact ⟨rfl, by assumption⟩
    · cases h
  · cases h

theorem requireLabel_ok {db : Database} {taskId v : Json} {id : String}
    (h : db.requireLabel taskId v = .ok id) :
    (db.label? id).isSome ∧ ∀ name, v = .str name → id = name := by
  obtain ⟨key, hkey, h⟩ := ok_of_bind h
  split at h
  · rename_i label hlabel
    obtain ⟨-, -, h⟩ := ok_of_bind h
    obtain ⟨-, -, h⟩ := ok_of_bind h
    cases h
    obtain ⟨name, rfl, hname⟩ := Option.bind_eq_some_iff.mp hlabel
    obtain rfl := label?_id hname
    refine ⟨Option.isSome_of_eq_some hname, ?_⟩
    rintro other rfl
    obtain ⟨-, same⟩ := Store.key?_ok hkey
    exact Option.some.inj same
  · cases h

/-- A check of every item of a list has checked each item, and gives nothing else. -/
theorem mapM_ok {f : α → Except Fault β} {l : List α} {out : List β} (h : l.mapM f = .ok out) :
    (∀ b ∈ out, ∃ a ∈ l, f a = .ok b) ∧ ∀ a ∈ l, ∃ b ∈ out, f a = .ok b := by
  induction l generalizing out with
  | nil =>
    cases h
    simp
  | cons a rest ih =>
    rw [List.mapM_cons] at h
    obtain ⟨b, hb, h⟩ := ok_of_bind h
    obtain ⟨others, hothers, h⟩ := ok_of_bind h
    cases h
    obtain ⟨given, checked⟩ := ih hothers
    constructor
    · refine List.forall_mem_cons.mpr ⟨⟨a, List.mem_cons_self .., hb⟩, fun c hc => ?_⟩
      obtain ⟨d, hd, hcheck⟩ := given c hc
      exact ⟨d, List.mem_cons_of_mem a hd, hcheck⟩
    · refine List.forall_mem_cons.mpr ⟨⟨b, List.mem_cons_self .., hb⟩, fun c hc => ?_⟩
      obtain ⟨d, hd, hcheck⟩ := checked c hc
      exact ⟨d, List.mem_cons_of_mem b hd, hcheck⟩

/-- Taking each of some texts once leaves none of them out. -/
theorem mem_differing {ids : List String} {values : List Json}
    (h : differing (ids.map Json.str) = .ok values) : ∀ id ∈ ids, .str id ∈ values := by
  induction ids generalizing values with
  | nil => simp
  | cons first rest ih =>
    obtain ⟨v, hv, h⟩ := ok_of_bind h
    obtain ⟨others, hothers, h⟩ := ok_of_bind h
    cases hv
    cases h
    refine List.forall_mem_cons.mpr ⟨List.mem_cons_self .., fun id hid => ?_⟩
    by_cases repeated : first = id
    · rw [repeated]
      exact List.mem_cons_self ..
    · have differs : (!(Json.str first).same (.str id)) = true := by
        simpa [Json.same] using repeated
      exact List.mem_cons_of_mem _ (List.mem_filter.mpr ⟨ih hothers id hid, differs⟩)

theorem requireUsers_found {db : Database} {users : Json} {wanted : List String}
    (h : db.requireUsers users = .ok wanted) :
    (∀ id ∈ wanted, (db.user? id).isSome) ∧
      ∀ ids, users = Action.textsJson ids → ∀ id ∈ ids, (db.user? id).isSome := by
  obtain ⟨items, hitems, h⟩ := ok_of_bind h
  obtain ⟨values, hvalues, h⟩ := ok_of_bind h
  obtain ⟨-, -, h⟩ := ok_of_bind h
  obtain ⟨given, checked⟩ := mapM_ok h
  constructor
  · intro id hid
    obtain ⟨v, -, hv⟩ := given id hid
    exact (requireUser_ok hv).2
  · rintro ids rfl id hid
    cases hitems
    obtain ⟨found, -, hfound⟩ := checked _ (mem_differing hvalues id hid)
    obtain ⟨same, there⟩ := requireUser_ok hfound
    cases same
    exact there

/-! ## Changing a task -/

/-- The database with one task changed, with assignments in place of the old ones and with more
labels on the task. -/
def withChange (db : Database) (t : Task) (assignments : List Assignment) (labels : List String) :
    Database :=
  { db with
    tasks := db.tasks.map fun u => if u.id == t.id then t else u
    assignments := assignments
    taggings := db.taggings ++ labels.map (⟨t.id, ·⟩) }

/-- What a change of a task names is there: the task, and the status, users and labels that it names
by texts. -/
structure Found (db : Database) (id : String) (c : TaskChanges) : Prop where
  task : (db.task? id).isSome
  status : ∀ statusId, c.statusId = .str statusId → (db.status? statusId).isSome
  users : ∀ ids, c.assigneeIds = Action.textsJson ids → ∀ user ∈ ids, (db.user? user).isSome
  labels : ∀ ids, c.addLabelIds = Action.textsJson ids → ∀ label ∈ ids, (db.label? label).isSome

/-- The assignments after a change: the old ones, or those that follow from users that are there. -/
def Reassigned (db : Database) (taskId : String) (c : TaskChanges) (now : Moment)
    (assignments : List Assignment) : Prop :=
  assignments = db.assignments ∨
    ∃ wanted, (∀ user ∈ wanted, (db.user? user).isSome) ∧
      assignments = db.changedAssignments taskId c.replaceAssignees wanted now

/-- A change goes on once its users have been found, with assignments that follow from them. -/
theorem reassigned_of {db : Database} {taskId : String} {c : TaskChanges} {now : Moment}
    {k : List Assignment → Except Fault β} {b : β}
    (h : (match c.assigneeIds with
      | .null => do
        let assignments ← pure db.assignments
        k assignments
      | users => do
        let wanted ← db.requireUsers users
        let _ ← handedOver (.str taskId)
        let assignments ← pure (db.changedAssignments taskId c.replaceAssignees wanted now)
        k assignments) = .ok b) :
    (∀ ids, c.assigneeIds = Action.textsJson ids → ∀ user ∈ ids, (db.user? user).isSome) ∧
      ∃ assignments, db.Reassigned taskId c now assignments ∧ k assignments = .ok b := by
  split at h
  · rename_i nobody
    refine ⟨fun ids hids => ?_, db.assignments, .inl rfl, h⟩
    rw [nobody] at hids
    cases hids
  · obtain ⟨wanted, hwanted, h⟩ := ok_of_bind h
    obtain ⟨-, -, h⟩ := ok_of_bind h
    obtain ⟨there, named⟩ := requireUsers_found hwanted
    exact ⟨named, _, .inr ⟨wanted, there, rfl⟩, h⟩

/-- The rest of a change, once its status and its users have been found. -/
def changeAfter (db : Database) (t : Task) (c : TaskChanges) (now : Moment)
    (assignments : List Assignment) : Except Fault (TaskView × Database) := do
  let labels := db.newLabels t.id
    (← (← Fault.itemsOf c.addLabelIds).mapM (db.requireLabel (.str t.id)))
  let t' := changedTask t c (← c.keep) now
  if hasRepeat labels then throw .constraint
  let db' := db.withChange t' assignments labels
  return (db'.viewOf t', db')

theorem changeAfter_ok {db db' : Database} {t : Task} {c : TaskChanges} {now : Moment}
    {assignments : List Assignment} {view : TaskView}
    (h : db.changeAfter t c now assignments = .ok (view, db')) :
    (∀ ids, c.addLabelIds = Action.textsJson ids → ∀ l ∈ ids, (db.label? l).isSome) ∧
      ∃ kept labels, c.keep = .ok kept ∧ (∀ l ∈ labels, (db.label? l).isSome) ∧
        db' = db.withChange (changedTask t c kept now) assignments labels ∧
        view = db'.viewOf (changedTask t c kept now) := by
  obtain ⟨items, hitems, h⟩ := ok_of_bind h
  obtain ⟨found, hfound, h⟩ := ok_of_bind h
  obtain ⟨kept, hkept, h⟩ := ok_of_bind h
  obtain ⟨given, checked⟩ := mapM_ok hfound
  constructor
  · intro ids hids l hl
    rw [hids] at hitems
    cases hitems
    obtain ⟨name, -, hlabel⟩ := checked _ (List.mem_map_of_mem hl)
    obtain ⟨there, same⟩ := requireLabel_ok hlabel
    exact same l rfl ▸ there
  · split at h
    · cases h
    · cases h
      refine ⟨kept, _, hkept, fun l hl => ?_, rfl, rfl⟩
      obtain ⟨v, -, hlabel⟩ := given l (List.mem_filter.mp hl).1
      exact (requireLabel_ok hlabel).1

/-- A change that is made has found its task, and the status, the users and the labels it names. -/
theorem updateTask_ok {db db' : Database} {now : Moment} {id : String} {c : TaskChanges}
    {view : TaskView} (h : db.updateTask now (.str id) c = .ok (view, db')) :
    db.Found id c ∧ ∃ t kept assignments labels, db.task? id = some t ∧ c.keep = .ok kept ∧
      db.Reassigned id c now assignments ∧ (∀ l ∈ labels, (db.label? l).isSome) ∧
      db' = db.withChange (changedTask t c kept now) assignments labels ∧
      view = db'.viewOf (changedTask t c kept now) := by
  obtain ⟨key, hkey, h⟩ := ok_of_bind h
  obtain ⟨-, rfl⟩ := Store.key?_ok hkey
  rw [Option.bind_some] at h
  split at h
  rotate_left
  · cases h
  rename_i t ht
  obtain rfl := task?_id ht
  have steps : (∀ statusId, c.statusId = .str statusId → (db.status? statusId).isSome) ∧
      (∀ ids, c.assigneeIds = Action.textsJson ids → ∀ user ∈ ids, (db.user? user).isSome) ∧
        ∃ assignments, db.Reassigned t.id c now assignments ∧
          db.changeAfter t c now assignments = .ok (view, db') := by
    cases hnull : c.statusId.isNull with
    | false =>
      rw [hnull, Bool.not_false, if_pos rfl] at h
      obtain ⟨u, hstatus, h⟩ := ok_of_bind h
      refine ⟨fun statusId hid => ?_, reassigned_of h⟩
      rw [hid] at hstatus
      exact requireStatus_ok hstatus
    | true =>
      rw [hnull, Bool.not_true, if_neg Bool.false_ne_true] at h
      refine ⟨fun statusId hid => ?_, reassigned_of h⟩
      rw [hid] at hnull
      cases hnull
  obtain ⟨hstatus, husers, assignments, hassigned, h⟩ := steps
  obtain ⟨hlabels, kept, labels, hkept, hnew, hdb, hview⟩ := changeAfter_ok h
  exact ⟨⟨Option.isSome_of_eq_some ht, hstatus, husers, hlabels⟩, t, kept, assignments, labels, ht,
    hkept, hassigned, hnew, hdb, hview⟩

/-- After a change the same ids find tasks, the changed one in place of the old one. -/
theorem task?_withChange (db : Database) (t : Task) (assignments : List Assignment)
    (labels : List String) (id : String) :
    (db.withChange t assignments labels).task? id =
      (db.task? id).map fun u => if u.id == t.id then t else u := by
  have ids : ((fun u : Task => u.id == id) ∘ fun u => if u.id == t.id then t else u) =
      fun u => u.id == id := by
    funext u
    dsimp only [Function.comp]
    split
    · rename_i same
      rw [eq_of_beq same]
    · rfl
  show (db.tasks.map fun u => if u.id == t.id then t else u).find? (·.id == id) = _
  rw [List.find?_map, ids]
  rfl

/-! ## Adding a task -/

theorem added_of_map {x : Except ε β} {a c : α} {b : β} (h : x.map (a, ·) = .ok (c, b)) :
    x = .ok b ∧ a = c := by
  cases x with
  | error e => cases h
  | ok d =>
    cases h
    exact ⟨rfl, rfl⟩

/-- A task that is added is the row of its draft, and clashes with no other. -/
theorem insertTask_ok {db db' : Database} {now : Moment} {id : String} {d : Task.Draft}
    {assigneeIds : List String} {view : TaskView}
    (h : db.insertTask now id d assigneeIds = .ok (view, db')) :
    ∃ kept t, Table.tasks.keep d.toFields = .ok kept ∧ Task.ofFields? kept id now = some t ∧
      db.tasks.any (Task.clashes t) = false ∧ db' = db.withTask t assigneeIds now ∧
      view = db'.viewOf t := by
  obtain ⟨kept, hkept, h⟩ := ok_of_bind h
  split at h
  · rename_i t tasks hadded
    obtain ⟨row, hrow, hadded⟩ := ok_of_bind hadded
    obtain ⟨hrows, rfl⟩ := added_of_map hadded
    obtain ⟨hclash, rfl⟩ := addRow_ok hrows
    dsimp only at h
    split at h
    · cases h
    · cases h
      exact ⟨kept, row, hkept, rowOrFault_ok hrow, hclash, rfl, rfl⟩
  · split at h
    · cases h
    · cases h

/-- What the row of a draft keeps of it. -/
theorem row_of_draft {kept : Json.Fields} {d : Task.Draft} {id : String} {now : Moment} {t : Task}
    (hkept : Table.tasks.keep d.toFields = .ok kept) (ht : Task.ofFields? kept id now = some t) :
    (∀ s, d.projectId = .str s → t.projectId = s) ∧ ∀ s, d.statusId = .str s → t.statusId = s := by
  simp only [Task.ofFields?, Option.bind_eq_bind, Option.bind_eq_some_iff, Option.pure_def,
    Option.some.injEq] at ht
  obtain ⟨projectId, hproject, number, -, slug, -, title, -, statusId, hstatus, rfl⟩ := ht
  constructor
  · intro s hs
    have := Table.keep_text hkept "project_id" (by decide) rfl (o := some s) hs
    exact Option.some.inj (hproject.symm.trans this)
  · intro s hs
    have := Table.keep_text hkept "status_id" (by decide) rfl (o := some s) hs
    exact Option.some.inj (hstatus.symm.trans this)

theorem task?_withTask {db : Database} {t : Task} (h : db.tasks.any (Task.clashes t) = false)
    (assigneeIds : List String) (now : Moment) :
    db.task? t.id = none ∧ (db.withTask t assigneeIds now).task? t.id = some t := by
  have hnone : db.task? t.id = none := by
    rw [task?, List.find?_eq_none]
    intro u hu same
    have := List.any_eq_false.mp h u hu
    simp [Task.clashes, eq_of_beq same] at this
  refine ⟨hnone, ?_⟩
  show (db.tasks ++ [t]).find? (·.id == t.id) = some t
  rw [List.find?_append]
  show (db.task? t.id).or _ = _
  rw [hnone]
  simp

theorem checkDraft_found {db : Database} {d : Task.Draft} {assigneeIds : Json}
    {wanted : List String} (h : db.checkDraft d assigneeIds = .ok wanted) :
    (∀ id, d.statusId = .str id → id ≠ "" → (db.status? id).isSome) ∧
      (∀ id ∈ wanted, (db.user? id).isSome) ∧
      ∀ ids, assigneeIds = Action.textsJson ids → ∀ id ∈ ids, (db.user? id).isSome := by
  unfold checkDraft at h
  split at h
  · obtain ⟨u, hstatus, h⟩ := ok_of_bind h
    refine ⟨fun id hid _ => ?_, requireUsers_found h⟩
    rw [hid] at hstatus
    exact requireStatus_ok hstatus
  · rename_i hempty
    refine ⟨fun id hid filled => absurd ?_ hempty, requireUsers_found h⟩
    simp [hid, Json.truthy, filled]

end Database

/-! ## Calls -/

namespace Store

theorem ok_of_query {f : Database → Except Fault α} {s s' : Store} {a : α}
    (h : query f s = (.ok a, s')) : f s.db = .ok a ∧ s' = s := by
  unfold query at h
  split at h
  · cases h
  · exact ⟨congrArg Prod.fst h, (congrArg Prod.snd h).symm⟩

theorem ok_of_mutate {f : Database → Moment → Except Fault (α × Database)} {s s' : Store} {a : α}
    (h : mutate f s = (.ok a, s')) : f s.db s.now = .ok (a, s'.db) := by
  rcases mutate_cases f s with ⟨e, he⟩ | ⟨b, db, hf, hb⟩
  · rw [he] at h
    cases h
  · rw [hb] at h
    cases h
    exact hf

theorem ok_of_insert {kind : IdKind} {takesId : Bool}
    {f : Database → Moment → String → Except Fault (α × Database)} {s s' : Store} {a : α}
    (h : insert kind takesId f s = (.ok a, s')) :
    f s.db s.now (s.nextId kind) = .ok (a, s'.db) := by
  unfold insert at h
  split at h
  · cases h
  · dsimp only at h
    split at h
    · cases h
    · cases h
      assumption
    · cases h

/-- A task that was added has the status and the assignees that were looked up. -/
theorem createTask_ok {d : Task.Draft} {assigneeIds : Json} {s s' : Store} {view : TaskView}
    (h : createTask d assigneeIds s = (.ok view, s')) :
    ∃ wanted kept t, s.db.checkDraft d assigneeIds = .ok wanted ∧
      Table.tasks.keep d.toFields = .ok kept ∧
      Task.ofFields? kept (s.nextId .task) s.now = some t ∧
      s.db.tasks.any (Task.clashes t) = false ∧ s'.db = s.db.withTask t wanted s.now ∧
      view = s'.db.viewOf t := by
  obtain ⟨wanted, s₁, hquery, hinsert⟩ := Run.ok_of_bind h
  obtain ⟨hcheck, rfl⟩ := ok_of_query hquery
  obtain ⟨kept, t, hkept, ht, hclash, hdb, hview⟩ := Database.insertTask_ok (ok_of_insert hinsert)
  exact ⟨wanted, kept, t, hcheck, hkept, ht, hclash, hdb, hview⟩

/-- A comment that was added belongs to a task that was there. -/
theorem comment_ok {taskId : String} {content author : Json} {s s' : Store} {view : CommentView}
    (h : comment (.str taskId) content author s = (.ok view, s')) :
    ∃ (task : Task) (row : Comment), s.db.task? taskId = some task ∧ row.taskId = taskId ∧
      (∀ c ∈ s.db.comments, c.id ≠ row.id) ∧
      s'.db = { s.db with comments := s.db.comments ++ [row] } ∧
      view = ⟨row.id, .str taskId, task.projectId, author, content⟩ := by
  obtain ⟨task, s₁, hquery, hinsert⟩ := Run.ok_of_bind h
  obtain ⟨hfound, rfl⟩ := ok_of_query hquery
  obtain ⟨key, hkey, hfound⟩ := ok_of_bind hfound
  obtain ⟨-, rfl⟩ := key?_ok hkey
  rw [Option.bind_some] at hfound
  split at hfound
  rotate_left
  · cases hfound
  rename_i there
  cases hfound
  obtain ⟨kept, hkept, hinsert⟩ := ok_of_bind (ok_of_insert hinsert)
  obtain ⟨row, hrow, hinsert⟩ := ok_of_bind hinsert
  obtain ⟨rows, hrows, hinsert⟩ := ok_of_bind hinsert
  obtain ⟨rfl, hdb⟩ := Prod.mk.inj (Except.ok.inj hinsert)
  obtain ⟨hclash, rfl⟩ := addRow_ok hrows
  have hrow := rowOrFault_ok hrow
  simp only [Comment.ofFields?, Option.bind_eq_bind, Option.bind_eq_some_iff, Option.pure_def,
    Option.some.injEq] at hrow
  obtain ⟨keptId, hid, text, -, rfl⟩ := hrow
  have same : keptId = taskId :=
    Option.some.inj (hid.symm.trans (Table.keep_id hkept "task_id" (by decide) rfl))
  refine ⟨task, _, there, same, fun c hc clash => ?_, hdb.symm, rfl⟩
  have := List.any_eq_false.mp hclash c hc
  simp [Comment.clashes, clash] at this

/-! ## Notifications -/

/-- A notification that was added for a draft. -/
def Notified (d : Notification.Draft) (row : Notification) : Prop :=
  ∀ id, d.userId = .str id → row.userId = id

/-- A notification that holds the texts and the data of its draft. -/
structure Holds (d : Notification.Draft) (row : Notification) : Prop where
  user : Notified d row
  title : ∀ s, d.title = .str s → row.title = s
  message : ∀ s, d.message = .str s → row.message = s
  type : ∀ s, d.type = .str s → row.type = s
  data : ∀ fields, d.data = .obj fields → row.data = .obj fields

theorem holds_of_kept {d : Notification.Draft} {kept : Json.Fields} {id : String} {now : Moment}
    {row : Notification} (hkept : Table.notifications.keep d.toFields = .ok kept)
    (hrow : Notification.ofFields? kept id now = some row) : Holds d row := by
  simp only [Notification.ofFields?, Option.bind_eq_bind, Option.bind_eq_some_iff,
    Option.pure_def, Option.some.injEq] at hrow
  obtain ⟨userId, huser, title, htitle, message, hmessage, rfl⟩ := hrow
  have text := @Table.keep_id .notifications _ _ hkept
  refine ⟨fun s hs => ?_, fun s hs => ?_, fun s hs => ?_, fun s hs => ?_, fun fields hf => ?_⟩
  · exact Option.some.inj (huser.symm.trans (text "user_id" (by decide) (congrArg some hs)))
  · exact Option.some.inj (htitle.symm.trans (text "title" (by decide) (congrArg some hs)))
  · exact Option.some.inj (hmessage.symm.trans (text "message" (by decide) (congrArg some hs)))
  · rw [text "type" (by decide) (congrArg some hs)]
    rfl
  · exact Table.keep_object hkept "data" (by decide) rfl hf .null

/-- The rows that were added are one for each draft, in order, each with an id of its own. -/
theorem insertNotifications_ok {now : Moment} {n : Nat} {drafts : List Notification.Draft}
    {rows rows' : List Notification} (h : insertNotifications now n drafts rows = .ok rows') :
    ∃ added, rows' = rows ++ added ∧ List.Forall₂ Holds drafts added ∧
      (added.map (·.id)).Nodup ∧ ∀ row ∈ added, ∀ old ∈ rows, old.id ≠ row.id := by
  induction drafts generalizing n rows with
  | nil =>
    cases h
    exact ⟨[], (List.append_nil _).symm, .nil, .nil, by simp⟩
  | cons d rest ih =>
    obtain ⟨kept, hkept, h⟩ := ok_of_bind h
    obtain ⟨row, hrow, h⟩ := ok_of_bind h
    obtain ⟨more, hmore, h⟩ := ok_of_bind h
    obtain ⟨hclash, rfl⟩ := addRow_ok hmore
    obtain ⟨added, rfl, hadded, distinct, hfresh⟩ := ih h
    have holds : Holds d row := holds_of_kept hkept (rowOrFault_ok hrow)
    have apart : row.id ∉ added.map (·.id) := by
      rintro among
      obtain ⟨later, hlater, same⟩ := List.mem_map.mp among
      exact hfresh later hlater row (List.mem_append_right _ (List.mem_singleton_self row))
        same.symm
    refine ⟨row :: added, (List.append_cons ..).symm, .cons holds hadded, ?_, ?_⟩
    · exact List.nodup_cons.mpr ⟨apart, distinct⟩
    refine List.forall_mem_cons.mpr ⟨fun old hold clash => ?_, fun row' hrow' old hold => ?_⟩
    · have := List.any_eq_false.mp hclash old hold
      simp [Notification.clashes, clash] at this
    · exact hfresh row' hrow' old (List.mem_append_left _ hold)

/-- Notifications that were added are one new row for each draft, in order. -/
theorem notify_ok {drafts : List Notification.Draft} {s s' : Store} {ids : List String}
    (h : notify drafts s = (.ok ids, s')) :
    ∃ added, List.Forall₂ Holds drafts added ∧ ids = added.map (·.id) ∧ ids.Nodup ∧
      (∀ row ∈ added, ∀ old ∈ s.db.notifications, old.id ≠ row.id) ∧
      s'.db = { s.db with notifications := s.db.notifications ++ added } := by
  unfold notify at h
  split at h
  · rename_i nobody
    cases h
    rw [List.isEmpty_iff.mp nobody]
    exact ⟨[], .nil, rfl, .nil, by simp, by simp⟩
  · split at h
    · cases h
    · dsimp only at h
      split at h
      · rename_i rows hrows
        obtain ⟨added, rfl, hadded, distinct, hfresh⟩ := insertNotifications_ok hrows
        cases h
        exact ⟨added, hadded, by rw [List.drop_left], by rwa [List.drop_left], hfresh, rfl⟩
      · cases h

end Store
end TaskRules
