import TaskRules.Proofs.ActionAtomicity
import TaskRules.Proofs.StoreChanges

/-!
What an action tells clients. After its change an action tells its events one by one and does
nothing else, and these events are those of what was changed: one for each user that a task was
assigned to, one for each notification, and one for any other action. Each names the row that was
changed or added, and the events of tasks and comments the project of the task as it is stored.

Proved:
- `perform_announces`, `dispatch_announces`: after its change an action announces it, whatever was
  looked up before.
- `updated_task`, `added_task`, `added_comment`, `added_notifications`: what the answers to the four
  changes say of the database after them.
- `trace_announces`: the requests that a run makes after its change are its announcement.
-/

namespace TaskRules.Action

/-! ## Announcements -/

/-- An event of a kind about a task, with the task's project as it is stored. -/
def AboutTask (db : Database) (kind id : String) (e : Event) : Prop :=
  ∃ task, db.task? id = some task ∧ e.kind = .str kind ∧
    Json.Fields.get? e.data "taskId" = some (.str id) ∧
    Json.Fields.get? e.data "projectId" = some (.str task.projectId)

/-- The actions that update a task and tell of it once: the task that is configured, and the kind of
event. -/
def Config.update? : Config → Option (Option String × String)
  | .changeStatus c => some (c.taskId, Event.taskStatusChanged)
  | .addLabel c => some (c.taskId, Event.taskUpdated)
  | .changePriority c => some (c.taskId, Event.taskUpdated)
  | .setDueDate c => some (c.taskId, Event.taskUpdated)
  | _ => none

/-- The events that tell of an action, given the database before its change and after it. -/
inductive Announced (payload : Json.Fields) (before after : Database) : Config → List Event → Prop
  | assigned {c : AssignTask} {id : String} {es : List Event}
      (about : taskIdOf c.taskId payload = .ok id)
      (each : List.Forall₂ (fun user e => AboutTask after Event.taskAssigned id e ∧
        Json.Fields.get? e.data "assigneeId" = some (.str user)) c.assigneeIds es) :
      Announced payload before after (.assignTask c) es
  | updated {c : Config} {configured : Option String} {kind id : String} {e : Event}
      (update : c.update? = some (configured, kind))
      (about : taskIdOf configured payload = .ok id) (event : AboutTask after kind id e) :
      Announced payload before after c [e]
  | commented {c : AddComment} {id : String} {row : Comment} {e : Event}
      (about : taskIdOf c.taskId payload = .ok id) (stored : row ∈ after.comments)
      (new : ∀ old ∈ before.comments, old.id ≠ row.id) (ofTask : row.taskId = id)
      (event : AboutTask after Event.commentAdded id e)
      (names : Json.Fields.get? e.data "commentId" = some (.str row.id)) :
      Announced payload before after (.addComment c) [e]
  | created {c : CreateTask} {id : String} {e : Event} (new : before.task? id = none)
      (event : AboutTask after Event.taskCreated id e) :
      Announced payload before after (.createTask c) [e]
  | notified {c : SendNotification} {es : List Event}
      (each : List.Forall₂ (fun user e => ∃ row ∈ after.notifications,
        (∀ old ∈ before.notifications, old.id ≠ row.id) ∧ row.userId = user ∧
        e.kind = .str Event.notification ∧
        Json.Fields.get? e.data "notificationId" = some (.str row.id) ∧
        Json.Fields.get? e.data "userId" = some (.str user)) c.recipients es) :
      Announced payload before after (.sendNotification c) es

/-- A script that tells clients some events, in order, and ends well. -/
inductive Telling : List Event → Script α → Prop
  | done (a : α) : Telling [] (.done (.ok a))
  | tell {e : Event} {es : List Event} {next : Except Fault (Request.emit e).Answer → Script α}
      (rest : Telling es (next (.ok ()))) : Telling (e :: es) (.ask (.emit e) next)

/-- A script that makes one change and then tells clients events that go with the change and its
answer. -/
inductive Announces (P : (q : Request) → q.Answer → List Event → Prop) : Script α → Prop
  | done (r : Except Fault α) : Announces P (.done r)
  | look {q : Request} {next : Except Fault q.Answer → Script α} (looks : q.looks = true)
      (rest : ∀ r, Announces P (next r)) : Announces P (.ask q next)
  | change {q : Request} {next : Except Fault q.Answer → Script α} (changes : q.changes = true)
      (lost : ∀ e, Announces P (next (.error e)))
      (made : ∀ a, ∃ es, Telling es (next (.ok a)) ∧ P q a es) : Announces P (.ask q next)

theorem Telling.bind {x : Script α} {es : List Event} (hx : Telling es x) {f : α → Script β}
    {more : List Event} (hf : ∀ a, Telling more (f a)) : Telling (es ++ more) (x >>= f) := by
  induction hx with
  | done a => exact hf a
  | tell rest ih => exact .tell ih

theorem tell_telling (kind : String) (data : Json.Fields) :
    Telling [{ kind := .str kind, data := data }] (tell kind data) :=
  .tell (.done ())

theorem each_telling {f : α → Script Unit} {event : α → Event}
    (hf : ∀ a, Telling [event a] (f a)) : ∀ l : List α, Telling (l.map event) (each f l)
  | [] => .done ()
  | a :: rest => (hf a).bind fun _ => each_telling hf rest

namespace Announces
variable {P : (q : Request) → q.Answer → List Event → Prop}

theorem imp {R : (q : Request) → q.Answer → List Event → Prop}
    (hPR : ∀ q a es, P q a es → R q a es) {x : Script α} (h : Announces P x) : Announces R x := by
  induction h with
  | done r => exact .done r
  | look looks rest ih => exact .look looks ih
  | change changes lost made ih =>
    refine .change changes ih fun a => ?_
    obtain ⟨es, telling, holds⟩ := made a
    exact ⟨es, telling, hPR _ a es holds⟩

/-- Looking first. -/
theorem after {x : Script α} (hx : Looks x) {f : α → Script β} (hf : ∀ a, Announces P (f a)) :
    Announces P (x >>= f) := by
  induction hx with
  | done r =>
    cases r with
    | ok a => exact hf a
    | error e => exact .done (.error e)
  | ask looks rest ih => exact .look looks ih

/-- The change, and what is told of its answer. -/
theorem request (q : Request) (changes : q.changes = true) {f : q.Answer → Script α}
    (made : ∀ a, ∃ es, Telling es (f a) ∧ P q a es) : Announces P (Script.request q >>= f) :=
  .change changes (fun e => .done (.error e)) made

/-- Going on with the result. -/
theorem map {x : Script α} (h : Announces P x) (f : α → β) :
    Announces P (x >>= fun a => pure (f a)) := by
  induction h with
  | done r => cases r <;> exact .done _
  | look looks rest ih => exact .look looks ih
  | change changes lost made ih =>
    refine .change changes ih fun a => ?_
    obtain ⟨es, telling, holds⟩ := made a
    have ended : Telling (es ++ []) _ := telling.bind fun a => Telling.done (f a)
    rw [List.append_nil] at ended
    exact ⟨es, ended, holds⟩

theorem settle {f : Except Fault α → Except Fault α} (hok : ∀ a, f (.ok a) = .ok a)
    {x : Script α} (h : Announces P x) : Announces P (x.settle f) := by
  have telling : ∀ {es} {x : Script α}, Telling es x → Telling es (x.settle f) := by
    intro es x hx
    induction hx with
    | done a =>
      rw [Script.settle, hok]
      exact .done a
    | tell rest ih => exact .tell ih
  induction h with
  | done r => exact .done (f r)
  | look looks rest ih => exact .look looks ih
  | change changes lost made ih =>
    refine .change changes ih fun a => ?_
    obtain ⟨es, tells, holds⟩ := made a
    exact ⟨es, telling tells, holds⟩

end Announces

/-- Claiming a number makes one change, by the attempt that succeeds. -/
theorem claimNumber_announces {P : (q : Request) → q.Answer → List Event → Prop}
    {draft : Int → Task.Draft} {assigneeIds : List String} {project : Project} {attempts : Nat}
    {f : TaskView → Script α}
    (made : ∀ number task, ∃ es, Telling es (f task) ∧
      P (.createTask (draft number) (textsJson assigneeIds)) task es) (remaining : Nat) :
    Announces P (claimNumber draft assigneeIds project attempts remaining >>= f) := by
  induction remaining with
  | zero =>
    refine .look rfl fun number => ?_
    cases number with
    | error e => exact .done (.error e)
    | ok number => exact .change rfl (fun e => .done (.error e)) (made number)
  | succ remaining ih =>
    refine .look rfl fun number => ?_
    cases number with
    | error e => exact .done (.error e)
    | ok number =>
      refine .change rfl (fun e => ?_) (made number)
      dsimp only
      by_cases taken : isTaken e = true
      · rw [if_pos taken]
        refine .look rfl fun noted => ?_
        cases noted with
        | ok u => exact ih
        | error e => exact .done (.error e)
      · rw [if_neg taken]
        exact .done (.error e)

end TaskRules.Action

namespace TaskRules.Engine
open TaskRules.Action

/-! ## What the answers say -/

variable {s : Setup} {w w' : World}

theorem ok_of_onStore {x : Run Store α} {a : α} (h : World.onStore x w = (.ok a, w')) :
    x w.store = (.ok a, w'.store) := by
  have answer : (World.onStore x w).1 = (x w.store).1 := rfl
  have store : (World.onStore x w).2.store = (x w.store).2 := rfl
  rw [h] at answer store
  exact Prod.ext answer.symm store.symm

theorem ok_of_createTask {d : Task.Draft} {assigneeIds : Json} {view : TaskView}
    (h : Setup.createTask d assigneeIds w = (.ok view, w')) :
    Store.createTask d assigneeIds w.store = (.ok view, w'.store) := by
  have hattempt := Run.attempt_apply (World.onStore (Store.createTask d assigneeIds)) w
  rw [Setup.createTask, Run.bind_of_ok hattempt] at h
  rcases hx : World.onStore (Store.createTask d assigneeIds) w with ⟨r, w₁⟩
  cases r with
  | ok task =>
    rw [hx] at h
    cases h
    exact ok_of_onStore hx
  | error e =>
    rw [hx] at h
    dsimp only at h
    split at h
    · obtain ⟨u, w₂, -, h⟩ := Run.ok_of_bind h
      cases h
    · cases h

/-- The answer to a change of a task is the task as it is stored. -/
theorem updated_task {id : String} {c : TaskChanges} {view : TaskView}
    (h : s.answer (.updateTask (.str id) c) w = (.ok view, w')) :
    view.id = id ∧ ∃ task, w'.store.db.task? id = some task ∧ view.projectId = task.projectId := by
  have hstore := Store.ok_of_mutate (ok_of_onStore h)
  obtain ⟨-, t, kept, assignments, labels, ht, -, -, -, hdb, rfl⟩ := Database.updateTask_ok hstore
  obtain rfl := Database.task?_id ht
  refine ⟨rfl, Database.changedTask t c kept w.store.now, ?_, rfl⟩
  rw [hdb, Database.task?_withChange, ht, Option.map_some]
  exact congrArg some (if_pos (beq_iff_eq.mpr rfl))

/-- The answer to a new task is the task as it is stored, under an id that was free. -/
theorem added_task {d : Task.Draft} {assigneeIds : Json} {view : TaskView}
    (h : s.answer (.createTask d assigneeIds) w = (.ok view, w')) :
    w.store.db.task? view.id = none ∧
      ∃ task, w'.store.db.task? view.id = some task ∧ view.projectId = task.projectId := by
  obtain ⟨wanted, kept, t, -, -, -, hclash, hdb, rfl⟩ := Store.createTask_ok (ok_of_createTask h)
  obtain ⟨hnone, hsome⟩ := Database.task?_withTask hclash wanted w.store.now
  refine ⟨hnone, t, ?_, rfl⟩
  rw [hdb]
  exact hsome

/-- The answer to a comment names the new row and the project of its task. -/
theorem added_comment {id : String} {content author : Json} {view : Store.CommentView}
    (h : s.answer (.comment (.str id) content author) w = (.ok view, w')) :
    view.taskId = .str id ∧ (∃ row ∈ w'.store.db.comments,
      (∀ old ∈ w.store.db.comments, old.id ≠ row.id) ∧ row.taskId = id ∧ view.id = row.id) ∧
      ∃ task, w'.store.db.task? id = some task ∧ view.projectId = task.projectId := by
  obtain ⟨task, row, htask, hrow, hnew, hdb, rfl⟩ := Store.comment_ok (ok_of_onStore h)
  have stored : row ∈ w'.store.db.comments := by simp [hdb]
  have found : w'.store.db.task? id = some task := by
    rw [hdb]
    exact htask
  exact ⟨rfl, ⟨row, stored, hnew, hrow, rfl⟩, task, found, rfl⟩

/-- The answer to notifications are the ids of the new rows, one for each draft. -/
theorem added_notifications {drafts : List Notification.Draft} {ids : List String}
    (h : s.answer (.notify drafts) w = (.ok ids, w')) :
    List.Forall₂ (fun d id => ∃ row ∈ w'.store.db.notifications,
      (∀ old ∈ w.store.db.notifications, old.id ≠ row.id) ∧ Store.Notified d row ∧ id = row.id)
      drafts ids := by
  obtain ⟨added, hadded, rfl, -, hnew, hdb⟩ := Store.notify_ok (ok_of_onStore h)
  rw [List.forall₂_map_right_iff, List.forall₂_iff_zip]
  rw [List.forall₂_iff_zip] at hadded
  refine ⟨hadded.1, fun {d row} hp => ?_⟩
  have hrow := (List.of_mem_zip hp).2
  exact ⟨row, by simp [hdb, hrow], hnew row hrow, (hadded.2 hp).user, rfl⟩

end TaskRules.Engine

namespace TaskRules.Action
open TaskRules.Engine

/-! ## Actions -/

/-- The events announce a change of an action, whichever database it is made on. -/
def IsAnnouncement (s : Setup) (payload : Json.Fields) (c : Config) (q : Request) (a : q.Answer)
    (es : List Event) : Prop :=
  ∀ w w', s.answer q w = (.ok a, w') → Announced payload w.store.db w'.store.db c es

variable {s : Setup}

/-- An update that is told in one event about its task. -/
theorem update_announces {payload : Json.Fields} {c : Config} {configured : Option String}
    {kind : String} (update : c.update? = some (configured, kind)) (changes : TaskChanges)
    {data : TaskView → Json.Fields} {f : TaskView → Result}
    (names : ∀ task, Json.Fields.get? (data task) "taskId" = some (.str task.id) ∧
      Json.Fields.get? (data task) "projectId" = some (.str task.projectId)) :
    Announces (IsAnnouncement s payload c) (do
      let task ← change configured payload changes
      tell kind (data task)
      return f task) := by
  unfold change
  cases about : taskIdOf configured payload with
  | error e => exact .done (.error e)
  | ok id =>
    refine .request (.updateTask (.str id) changes) rfl fun task =>
      ⟨_, (tell_telling kind _).bind fun _ => .done _, fun w w' answered => ?_⟩
    obtain ⟨hid, row, hrow, hproject⟩ := updated_task answered
    obtain ⟨htask, hplace⟩ := names task
    refine .updated update about ⟨row, hrow, rfl, ?_, ?_⟩
    · rw [htask, hid]
    · rw [hplace, hproject]

theorem assign_announces (c : AssignTask) (payload : Json.Fields) (context : Context) :
    Announces (IsAnnouncement s payload (.assignTask c)) (assign c payload context) := by
  unfold assign change
  cases about : taskIdOf c.taskId payload with
  | error e => exact .done (.error e)
  | ok id =>
    refine .request (.updateTask (.str id) _) rfl fun task =>
      ⟨_, (each_telling (fun _ => tell_telling _ _) _).bind fun _ => .done _,
        fun w w' answered => ?_⟩
    obtain ⟨hid, row, hrow, hproject⟩ := updated_task answered
    refine .assigned about ?_
    rw [List.append_nil, List.forall₂_map_right_iff, List.forall₂_same]
    intro user _
    exact ⟨⟨row, hrow, rfl, by simp [Json.Fields.get?, hid], by simp [Json.Fields.get?, hproject]⟩,
      rfl⟩

theorem forall₂_zip {R : α → β → Prop} {T : α → γ → Prop} {g : α × β → γ}
    (hg : ∀ a b, R a b → T a (g (a, b))) {l : List α} {l' : List β} (h : List.Forall₂ R l l') :
    List.Forall₂ T l ((l.zip l').map g) := by
  induction h with
  | nil => exact .nil
  | cons first _ ih => exact .cons (hg _ _ first) ih

theorem notify_announces (c : SendNotification) (payload : Payload) (context : Context)
    (hc : c.recipients ≠ []) :
    Announces (IsAnnouncement s payload.named (.sendNotification c))
      (notify c payload context) := by
  have changes : (Request.notify (c.recipients.map (noticeFor c context))).changes = true := by
    simp [Request.changes, hc]
  refine .request _ changes fun (ids : List String) =>
    ⟨_, (each_telling (fun _ => .tell (.done ())) _).bind fun _ => .done _,
      fun w w' answered => .notified ?_⟩
  have added := List.forall₂_map_left_iff.mp (added_notifications answered)
  rw [List.append_nil]
  refine forall₂_zip (fun user id hid => ?_) added
  obtain ⟨row, stored, new, notified, rfl⟩ := hid
  exact ⟨row, stored, new, notified user rfl, rfl, rfl, rfl⟩

theorem comment_announces (c : AddComment) (payload : Json.Fields) (context : Context) :
    Announces (IsAnnouncement s payload (.addComment c)) (comment c payload context) := by
  unfold comment
  cases about : taskIdOf c.taskId payload with
  | error e => exact .done (.error e)
  | ok id =>
    refine .request (.comment (.str id) _ _) rfl fun added =>
      ⟨_, (tell_telling _ _).bind fun _ => .done _, fun w w' answered => ?_⟩
    obtain ⟨htask, ⟨row, stored, new, ofTask, hid⟩, task, found, hproject⟩ :=
      added_comment answered
    refine .commented about stored new ofTask ⟨task, found, rfl, ?_, ?_⟩ ?_
    · simp [Json.Fields.get?, htask]
    · simp [Json.Fields.get?, hproject]
    · simp [Json.Fields.get?, hid]

theorem createTask_announces (maxAttempts : Json) (c : CreateTask) (payload : Json.Fields)
    (context : Context) :
    Announces (IsAnnouncement s payload (.createTask c))
      (createTask maxAttempts c payload context) := by
  refine .after (.request (.findProject _) rfl) fun found => ?_
  cases found with
  | none => exact .done _
  | some project =>
    refine .after (newStatus_looks c project) fun statusId => .after (.done _) fun attempts => ?_
    refine claimNumber_announces (fun number task =>
      ⟨_, (tell_telling _ _).bind fun _ => .done _, fun w w' answered => ?_⟩) _
    obtain ⟨new, row, hrow, hproject⟩ := added_task answered
    exact .created new ⟨row, hrow, rfl, rfl, by simp [Json.Fields.get?, hproject]⟩

/-- Every action announces its change. -/
theorem perform_announces (maxAttempts : Json) (c : Config) (hc : c.Usable) (payload : Payload)
    (context : Context) :
    Announces (IsAnnouncement s payload.named c) (perform maxAttempts c payload context) := by
  cases c with
  | assignTask c => exact assign_announces c _ context
  | changeStatus c => exact update_announces rfl _ fun _ => ⟨rfl, rfl⟩
  | addLabel c => exact update_announces rfl _ fun _ => ⟨rfl, rfl⟩
  | sendNotification c => exact notify_announces c payload context hc
  | addComment c => exact comment_announces c _ context
  | changePriority c => exact update_announces rfl _ fun _ => ⟨rfl, rfl⟩
  | setDueDate c => exact update_announces rfl _ fun _ => ⟨rfl, rfl⟩
  | createTask c => exact createTask_announces maxAttempts c _ context

/-! ## Dispatch -/

/-- The events announce a change of the action that a dispatch asks for. -/
def Fits (s : Setup) (kind config : Json) (payload : Except Fault Payload) (q : Request)
    (a : q.Answer) (es : List Event) : Prop :=
  ∃ c p, Reads kind config c ∧ payload = .ok p ∧ IsAnnouncement s p.named c q a es

/-- The dispatch of an action announces its change, as the configuration that it reads. -/
theorem dispatch_announces (maxAttempts kind config : Json) (payload : Except Fault Payload)
    (context : Context) :
    Announces (Fits s kind config payload)
      ((Registry.standard maxAttempts).dispatch kind config payload context) := by
  refine dispatch_cases maxAttempts kind config payload context ?_ (fun _ => .done _)
    (fun _ => .done _) ?_
  · intro r text
    exact .after (.request (.log r) rfl) fun _ => .done _
  · intro c p reads hp
    refine .settle (fun a => rfl) (.map ?_ some)
    have performed := perform_announces (s := s) maxAttempts c reads.usable p context
    exact performed.imp fun q a es tells => ⟨c, p, reads, hp, tells⟩

/-! ## Runs -/

/-- The exchange that tells clients an event. -/
def emission (e : Event) : Exchange := ⟨.emit e, .ok ()⟩

/-- The events that were told, in order. -/
def toldEvents (made : List Exchange) : List Event :=
  made.filterMap fun x =>
    match x.request with
    | .emit e => some e
    | _ => none

variable {answer : (q : Request) → Run σ q.Answer}

theorem run_telling (hemit : ∀ e st, (answer (.emit e) st).1 = .ok ()) {es : List Event}
    {x : Script α} (h : Telling es x) (st : σ) (l : List Exchange) :
    ∃ r st', x.run (noted answer) (st, l) = (r, (st', l ++ es.map emission)) := by
  induction h generalizing st l with
  | done a => exact ⟨.ok a, st, by simp⟩
  | @tell e es next rest ih =>
    have hq : answer (.emit e) st = (.ok (), (answer (.emit e) st).2) := Prod.ext (hemit e st) rfl
    obtain ⟨r, st', hrun⟩ := ih (answer (.emit e) st).2 (l ++ [emission e])
    refine ⟨r, st', ?_⟩
    rw [run_noted_ask hq, List.map_cons, List.append_cons l (emission e)]
    exact hrun

/-- After a change, what a run requests is its announcement. -/
def AnnouncedIn (P : (q : Request) → q.Answer → List Event → Prop) (made : List Exchange) : Prop :=
  ∀ before q a after, made = before ++ ⟨q, .ok a⟩ :: after → q.changes = true →
    ∃ es, after = es.map emission ∧ P q a es

theorem AnnouncedIn.cons {P : (q : Request) → q.Answer → List Event → Prop} {x : Exchange}
    {made : List Exchange} (still : ¬ x.Commits) (h : AnnouncedIn P made) :
    AnnouncedIn P (x :: made) := by
  intro before q a after split changes
  cases before with
  | nil =>
    rw [List.nil_append, List.cons.injEq] at split
    exact absurd ⟨changes, a, rfl⟩ (split.1 ▸ still)
  | cons y before =>
    rw [List.cons_append, List.cons.injEq] at split
    exact h before q a after split.2 changes

/-- The requests that a run makes after its change are its announcement. -/
theorem trace_announces {P : (q : Request) → q.Answer → List Event → Prop}
    (hemit : ∀ e st, (answer (.emit e) st).1 = .ok ()) {x : Script α} (h : Announces P x) (st : σ)
    (l : List Exchange) :
    ∃ r st' made, x.run (noted answer) (st, l) = (r, (st', l ++ made)) ∧ AnnouncedIn P made := by
  induction h generalizing st l with
  | done r =>
    refine ⟨r, st, [], by simp, ?_⟩
    intro before q a after split
    simp at split
  | @look q next looks rest ih =>
    rcases hq : answer q st with ⟨r, st₁⟩
    obtain ⟨r', st', made, hrun, announced⟩ := ih r st₁ (l ++ [⟨q, r⟩])
    refine ⟨r', st', ⟨q, r⟩ :: made, ?_, announced.cons (Exchange.quiet_of_looks looks r).1⟩
    rw [run_noted_ask hq, hrun, ← List.append_cons]
  | @change q next changes lost made ih =>
    rcases hq : answer q st with ⟨r, st₁⟩
    cases r with
    | error e =>
      obtain ⟨r', st', made, hrun, announced⟩ := ih e st₁ (l ++ [⟨q, .error e⟩])
      refine ⟨r', st', ⟨q, .error e⟩ :: made, ?_,
        announced.cons (Exchange.quiet_of_lost changes e).1⟩
      rw [run_noted_ask hq, hrun, ← List.append_cons]
    | ok a =>
      obtain ⟨es, telling, holds⟩ := made a
      obtain ⟨r', st', hrun⟩ := run_telling hemit telling st₁ (l ++ [⟨q, .ok a⟩])
      refine ⟨r', st', ⟨q, .ok a⟩ :: es.map emission, ?_, ?_⟩
      · rw [run_noted_ask hq, hrun, ← List.append_cons]
      intro before q' a' after split changes'
      cases before with
      | nil =>
        rw [List.nil_append, List.cons.injEq] at split
        obtain ⟨same, rfl⟩ := split
        cases same
        exact ⟨es, rfl, holds⟩
      | cons y before =>
        -- an event is no change
        rw [List.cons_append, List.cons.injEq] at split
        have hin : (⟨q', .ok a'⟩ : Exchange) ∈ es.map emission := by
          rw [split.2]
          simp
        obtain ⟨e, -, he⟩ := List.mem_map.mp hin
        cases he
        cases changes'

end TaskRules.Action
