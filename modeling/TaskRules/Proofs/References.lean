import TaskRules.Proofs.StoreChanges

/-!
References between tables. A task belongs to a project and has a status, assignments link tasks to
users and taggings link them to labels, a comment belongs to a task and a notification to a user.
The database does not enforce any of it, so it holds only as far as every change looks up what it
refers to. The changes of tasks and the comments do; notifications are added for anybody.

Proved:
- `updateTask_relinks`, `createTask_relinks`, `comment_relinks`, `notify_relinks`: what each of the
  four changes keeps of the references.
-/

namespace TaskRules

namespace Database

/-- Every row refers to rows that are there, except that a notification may be for one of some
strangers. -/
structure Linked (db : Database) (strangers : List String) : Prop where
  tasks : ∀ t ∈ db.tasks, (db.project? t.projectId).isSome ∧ (db.status? t.statusId).isSome
  assignments : ∀ a ∈ db.assignments, (db.task? a.taskId).isSome ∧ (db.user? a.userId).isSome
  taggings : ∀ g ∈ db.taggings, (db.task? g.taskId).isSome ∧ (db.label? g.labelId).isSome
  comments : ∀ c ∈ db.comments, (db.task? c.taskId).isSome
  notifications : ∀ n ∈ db.notifications, (db.user? n.userId).isSome ∨ n.userId ∈ strangers

instance (db : Database) (strangers : List String) : Decidable (db.Linked strangers) :=
  decidable_of_iff ((∀ t ∈ db.tasks, (db.project? t.projectId).isSome ∧
      (db.status? t.statusId).isSome) ∧
    (∀ a ∈ db.assignments, (db.task? a.taskId).isSome ∧ (db.user? a.userId).isSome) ∧
    (∀ g ∈ db.taggings, (db.task? g.taskId).isSome ∧ (db.label? g.labelId).isSome) ∧
    (∀ c ∈ db.comments, (db.task? c.taskId).isSome) ∧
    ∀ n ∈ db.notifications, (db.user? n.userId).isSome ∨ n.userId ∈ strangers)
    ⟨fun ⟨tasks, assignments, taggings, comments, notifications⟩ =>
      ⟨tasks, assignments, taggings, comments, notifications⟩,
    fun h => ⟨h.tasks, h.assignments, h.taggings, h.comments, h.notifications⟩⟩

/-- A change that removes no user and leaves no reference to what is not there, beyond those of
notifications for strangers. -/
structure Relinks (strangers : List String) (db db' : Database) : Prop where
  users : db'.users = db.users
  linked : db.Linked strangers → db'.Linked strangers

theorem Linked.mono {db : Database} {strangers more : List String} (h : db.Linked strangers)
    (hmore : ∀ n ∈ db.notifications, n.userId ∈ strangers → (db.user? n.userId).isSome ∨
      n.userId ∈ more) : db.Linked more := by
  refine ⟨h.tasks, h.assignments, h.taggings, h.comments, fun n hn => ?_⟩
  rcases h.notifications n hn with there | stranger
  · exact .inl there
  · exact hmore n hn stranger

theorem Relinks.refl (strangers : List String) (db : Database) : db.Relinks strangers db :=
  ⟨rfl, id⟩

theorem Relinks.trans {strangers : List String} {db₁ db₂ db₃ : Database}
    (h : db₁.Relinks strangers db₂) (h' : db₂.Relinks strangers db₃) :
    db₁.Relinks strangers db₃ :=
  ⟨h'.users.trans h.users, fun linked => h'.linked (h.linked linked)⟩

/-! ## Tasks -/

/-- The links of a task to users that are there are sound. -/
theorem new_links {db : Database} {taskId : String} {wanted : List String} {now : Moment}
    (task : (db.task? taskId).isSome) (users : ∀ user ∈ wanted, (db.user? user).isSome) :
    ∀ a ∈ wanted.map (⟨taskId, ·, now⟩ : String → Assignment),
      (db.task? a.taskId).isSome ∧ (db.user? a.userId).isSome := by
  intro a ha
  obtain ⟨user, huser, rfl⟩ := List.mem_map.mp ha
  exact ⟨task, users user huser⟩

theorem Reassigned.linked {db : Database} {taskId : String} {c : TaskChanges} {now : Moment}
    {assignments : List Assignment} (h : db.Reassigned taskId c now assignments)
    (task : (db.task? taskId).isSome)
    (before : ∀ a ∈ db.assignments, (db.task? a.taskId).isSome ∧ (db.user? a.userId).isSome) :
    ∀ a ∈ assignments, (db.task? a.taskId).isSome ∧ (db.user? a.userId).isSome := by
  rcases h with rfl | ⟨wanted, users, rfl⟩
  · exact before
  · intro a ha
    rcases List.mem_append.mp ha with kept | new
    · refine before a ?_
      split at kept
      · exact (List.mem_filter.mp kept).1
      · exact kept
    · exact new_links task (fun user huser => users user (List.mem_filter.mp huser).1) a new

/-- The status of a task after a change that names one or none. -/
theorem changedTask_status {c : TaskChanges} {kept : Json.Fields} (hkept : c.keep = .ok kept)
    {chosen : Option String} (hc : c.statusId = .ofText? chosen) (t : Task) (now : Moment) :
    (changedTask t c kept now).statusId = chosen.getD t.statusId := by
  have := Table.keep_text hkept "status_id" (by decide) rfl hc
  rw [changedTask, this]

theorem withChange_has {db : Database} {t : Task} {assignments : List Assignment}
    {labels : List String} {id : String} (h : (db.task? id).isSome) :
    ((db.withChange t assignments labels).task? id).isSome := by
  rw [task?_withChange, Option.isSome_map]
  exact h

theorem withTask_has {db : Database} {t : Task} {assigneeIds : List String} {now : Moment}
    {id : String} (h : (db.task? id).isSome) :
    ((db.withTask t assigneeIds now).task? id).isSome := by
  show ((db.tasks ++ [t]).find? (·.id == id)).isSome
  rw [List.find?_append, Option.isSome_or]
  exact Bool.or_eq_true_iff.mpr (.inl h)

end Database

namespace Store
open Database

/-- A change of a task keeps the references, if its status is a text or none. -/
theorem updateTask_relinks {id : String} {c : TaskChanges} {s s' : Store} {view : TaskView}
    (h : updateTask (.str id) c s = (.ok view, s')) {chosen : Option String}
    (hc : c.statusId = .ofText? chosen) (strangers : List String) :
    s.db.Relinks strangers s'.db := by
  obtain ⟨found, t, kept, assignments, labels, ht, hkept, reassigned, hlabels, hdb, -⟩ :=
    updateTask_ok (ok_of_mutate h)
  obtain rfl := task?_id ht
  rw [hdb]
  refine ⟨rfl, fun linked => ⟨?_, ?_, ?_, ?_, linked.notifications⟩⟩
  · intro u hu
    obtain ⟨v, hv, rfl⟩ := List.mem_map.mp hu
    have old := linked.tasks v hv
    split
    · obtain ⟨project, status⟩ := linked.tasks t (task?_mem ht)
      refine ⟨project, ?_⟩
      show (s.db.status? (changedTask t c kept s.now).statusId).isSome
      rw [changedTask_status hkept hc]
      cases chosen with
      | none => exact status
      | some statusId => exact found.status statusId hc
    · exact old
  · intro a ha
    obtain ⟨task, user⟩ := reassigned.linked found.task linked.assignments a ha
    exact ⟨withChange_has task, user⟩
  · intro g hg
    rcases List.mem_append.mp hg with old | new
    · obtain ⟨task, label⟩ := linked.taggings g old
      exact ⟨withChange_has task, label⟩
    · obtain ⟨l, hl, rfl⟩ := List.mem_map.mp new
      exact ⟨withChange_has found.task, hlabels l hl⟩
  · intro comment hcomment
    exact withChange_has (linked.comments comment hcomment)

/-- A new task of a project that is there, with a status that is not empty, keeps the references. -/
theorem createTask_relinks {d : Task.Draft} {assigneeIds : Json} {s s' : Store} {view : TaskView}
    (h : createTask d assigneeIds s = (.ok view, s')) {projectId statusId : String}
    (hproject : d.projectId = .str projectId) (there : (s.db.project? projectId).isSome)
    (hstatus : d.statusId = .str statusId) (filled : statusId ≠ "") (strangers : List String) :
    s.db.Relinks strangers s'.db := by
  obtain ⟨wanted, kept, t, hcheck, hkept, ht, hclash, hdb, -⟩ := createTask_ok h
  obtain ⟨status, users, -⟩ := checkDraft_found hcheck
  obtain ⟨inProject, withStatus⟩ := row_of_draft hkept ht
  have stored := (task?_withTask hclash wanted s.now).2
  rw [hdb]
  refine ⟨rfl, fun linked => ⟨?_, ?_, ?_, ?_, linked.notifications⟩⟩
  · intro u hu
    rcases List.mem_append.mp hu with old | new
    · exact linked.tasks u old
    · obtain rfl := List.mem_singleton.mp new
      rw [inProject projectId hproject, withStatus statusId hstatus]
      exact ⟨there, status statusId hstatus filled⟩
  · intro a ha
    rcases List.mem_append.mp ha with old | new
    · obtain ⟨task, user⟩ := linked.assignments a old
      exact ⟨withTask_has task, user⟩
    · exact new_links (Option.isSome_of_eq_some stored) users a new
  · intro g hg
    obtain ⟨task, label⟩ := linked.taggings g hg
    exact ⟨withTask_has task, label⟩
  · intro comment hcomment
    exact withTask_has (linked.comments comment hcomment)

/-! ## Comments and notifications -/

theorem comment_relinks {taskId : String} {content author : Json} {s s' : Store}
    {view : CommentView} (h : comment (.str taskId) content author s = (.ok view, s'))
    (strangers : List String) : s.db.Relinks strangers s'.db := by
  obtain ⟨task, row, htask, rfl, -, hdb, -⟩ := comment_ok h
  rw [hdb]
  refine ⟨rfl, fun linked =>
    ⟨linked.tasks, linked.assignments, linked.taggings, ?_, linked.notifications⟩⟩
  intro c hc
  rcases List.mem_append.mp hc with old | new
  · exact linked.comments c old
  · obtain rfl := List.mem_singleton.mp new
    exact Option.isSome_of_eq_some htask

/-- The rows of drafts for some people are for these people. -/
theorem notified_among {people : List String} {drafts : List Notification.Draft}
    {rows : List Notification} (h : List.Forall₂ Holds drafts rows)
    (hd : ∀ d ∈ drafts, ∃ id ∈ people, d.userId = .str id) : ∀ row ∈ rows, row.userId ∈ people := by
  induction h with
  | nil => simp
  | cons first _ ih =>
    obtain ⟨⟨id, hid, huser⟩, hrest⟩ := List.forall_mem_cons.mp hd
    refine List.forall_mem_cons.mpr ⟨?_, ih hrest⟩
    rw [first.user id huser]
    exact hid

/-- Notifications for strangers leave no other reference to what is not there. -/
theorem notify_relinks {drafts : List Notification.Draft} {s s' : Store} {ids : List String}
    (h : notify drafts s = (.ok ids, s')) {strangers : List String}
    (hd : ∀ d ∈ drafts, ∃ id ∈ strangers, d.userId = .str id) : s.db.Relinks strangers s'.db := by
  obtain ⟨added, hadded, -, -, -, hdb⟩ := notify_ok h
  rw [hdb]
  refine ⟨rfl, fun linked =>
    ⟨linked.tasks, linked.assignments, linked.taggings, linked.comments, ?_⟩⟩
  intro n hn
  rcases List.mem_append.mp hn with old | new
  · exact linked.notifications n old
  · exact .inr (notified_among hadded hd n new)

end Store
end TaskRules
