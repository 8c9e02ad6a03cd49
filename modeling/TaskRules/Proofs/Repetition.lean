import TaskRules.Proofs.ReferentialIntegrity

/-!
Actions that are dispatched again. Five of the eight actions set something on one task: its
assignees, its status, a label, its priority or its due date. What they set stays set, so an action
of these that has succeeded succeeds again with the same report, however often it is repeated, and
leaves nothing behind but a later time of change on its task. Links that are there already stay as
they were, with the times at which they were made.

Proved:
- `updateTask_eq`, `finds_of_updateTask`, `updateTask_of_finds`: a change of a task is made when
  what it names is found, and only then.
- `newLabels_again`, `changedAssignments_again`, `changedTask_again`: a second change adds no label,
  moves no assignment and gives the task no other value.
- `updateTask_again`: so a change that was made is made again with the same answer.
- `perform_sets`, `dispatch_repeatable`: an action that sets something, and its dispatch, does the
  same again wherever it finds what it left.
- `setters_repeat`: so it does any number of times.
-/

namespace TaskRules

namespace Database

/-! ## A change in steps -/

/-- The check of the status that a change names. -/
def checkStatus (db : Database) (c : TaskChanges) : Except Fault Unit :=
  if !c.statusId.isNull then db.requireStatus c.statusId else pure ()

/-- The users that a change names, if it says anything about users. -/
def namedUsers (db : Database) (id : Json) (c : TaskChanges) :
    Except Fault (Option (List String)) :=
  match c.assigneeIds with
  | .null => pure none
  | users => do
    let wanted ← db.requireUsers users
    let _ ← handedOver id
    return some wanted

/-- The labels that a change names. -/
def namedLabels (db : Database) (id : Json) (c : TaskChanges) : Except Fault (List String) := do
  (← Fault.itemsOf c.addLabelIds).mapM (db.requireLabel id)

/-- The assignments after a change that names some users or says nothing about users. -/
def reassign (db : Database) (taskId : String) (replace : Bool) (users : Option (List String))
    (now : Moment) : List Assignment :=
  match users with
  | none => db.assignments
  | some wanted => db.changedAssignments taskId replace wanted now

/-- The database after a task was changed, with the users and the labels that the change named. -/
def afterChange (db : Database) (t : Task) (c : TaskChanges) (kept : Json.Fields)
    (users : Option (List String)) (labels : List String) (now : Moment) : Database :=
  db.withChange (changedTask t c kept now) (db.reassign t.id c.replaceAssignees users now)
    (db.newLabels t.id labels)

/-- A change looks up all that it names before it changes anything. -/
theorem updateTask_eq (db : Database) (now : Moment) (id : Json) (c : TaskChanges) :
    db.updateTask now id c = (do
      let some t := (← Column.key? id).bind db.task? | throw (.notFound "Task" id)
      db.checkStatus c
      let users ← db.namedUsers id c
      let labels ← db.namedLabels id c
      let kept ← c.keep
      if hasRepeat (db.newLabels t.id labels) then throw .constraint
      let db' := db.afterChange t c kept users labels now
      return (db'.viewOf (changedTask t c kept now), db')) := by
  unfold updateTask checkStatus namedUsers namedLabels
  cases c.statusId.isNull
  all_goals
    cases c.assigneeIds
    all_goals
      simp only [bind_assoc, pure_bind, Bool.not_false, Bool.not_true, if_true, if_false,
        Bool.false_eq_true]
      rfl

/-- What a change finds of what it names: its task, its users, its labels and what the columns keep
of its values. No label that is new to the task is named twice. -/
structure Finds (db : Database) (id : String) (c : TaskChanges) (t : Task)
    (users : Option (List String)) (labels : List String) (kept : Json.Fields) : Prop where
  key : Column.key? (.str id) = .ok (some id)
  task : db.task? id = some t
  status : db.checkStatus c = .ok ()
  named : db.namedUsers (.str id) c = .ok users
  labelled : db.namedLabels (.str id) c = .ok labels
  keeps : c.keep = .ok kept
  single : hasRepeat (db.newLabels t.id labels) = false

variable {db db' : Database} {now : Moment} {id : String} {c : TaskChanges} {t : Task}
  {users : Option (List String)} {labels : List String} {kept : Json.Fields} {view : TaskView}

/-- A change that is made has found what it names. -/
theorem finds_of_updateTask (h : db.updateTask now (.str id) c = .ok (view, db')) :
    ∃ t users labels kept, db.Finds id c t users labels kept ∧
      db' = db.afterChange t c kept users labels now ∧
      view = db'.viewOf (changedTask t c kept now) := by
  rw [updateTask_eq] at h
  obtain ⟨key, hkey, h⟩ := ok_of_bind h
  obtain ⟨-, rfl⟩ := Store.key?_ok hkey
  rw [Option.bind_some] at h
  split at h
  · rename_i t ht
    obtain ⟨⟨⟩, hstatus, h⟩ := ok_of_bind h
    obtain ⟨users, husers, h⟩ := ok_of_bind h
    obtain ⟨labels, hlabels, h⟩ := ok_of_bind h
    obtain ⟨kept, hkept, h⟩ := ok_of_bind h
    split at h
    · cases h
    · rename_i single
      cases h
      exact ⟨t, users, labels, kept,
        ⟨hkey, ht, hstatus, husers, hlabels, hkept, by simpa using single⟩, rfl, rfl⟩
  · cases h

/-- A change that finds what it names is made. -/
theorem updateTask_of_finds (h : db.Finds id c t users labels kept) (now : Moment) :
    db.updateTask now (.str id) c =
      .ok ((db.afterChange t c kept users labels now).viewOf (changedTask t c kept now),
        db.afterChange t c kept users labels now) := by
  rw [updateTask_eq, h.key]
  simp only [bind, Except.bind, Option.bind, h.task, h.status, h.named, h.labelled, h.keeps,
    h.single, Bool.false_eq_true, if_false]
  rfl

/-! ## A change that is made again -/

theorem changedTask_again (t : Task) (c : TaskChanges) (kept : Json.Fields) (now later : Moment) :
    changedTask (changedTask t c kept now) c kept later =
      { changedTask t c kept now with updatedAt := later } := by
  unfold changedTask
  cases Column.text? kept "status_id" <;> cases Column.text? kept "priority" <;>
    cases Column.text? kept "updated_by" <;> cases c.clearDueDate <;> cases c.dueDate <;> rfl

/-- The labels that were added are there. -/
theorem newLabels_again (db : Database) (t : Task) (assignments : List Assignment)
    (labels : List String) :
    (db.withChange t assignments (db.newLabels t.id labels)).newLabels t.id labels = [] := by
  refine List.filter_eq_nil_iff.mpr fun label named => ?_
  have there : label ∈ ((db.withChange t assignments (db.newLabels t.id labels)).taggingsOf
      t.id).map (·.labelId) := by
    by_cases old : label ∈ (db.taggingsOf t.id).map (·.labelId)
    · simp only [taggingsOf, withChange, List.filter_append, List.map_append]
      exact List.mem_append_left _ old
    · have new : label ∈ db.newLabels t.id labels := by simpa [newLabels, named] using old
      simp [taggingsOf, withChange, new]
  simpa using there

/-- The users of a task after it was assigned to some include these. -/
theorem mem_changedAssignments {wanted : List String} {user : String} (h : user ∈ wanted)
    (db : Database) (taskId : String) (replace : Bool) (now : Moment) :
    ∃ a ∈ db.changedAssignments taskId replace wanted now, a.taskId = taskId ∧ a.userId = user := by
  unfold changedAssignments
  by_cases old : user ∈ (db.assignmentsOf taskId).map (·.userId)
  · obtain ⟨a, ha, rfl⟩ := List.mem_map.mp old
    obtain ⟨there, ours⟩ := List.mem_filter.mp ha
    refine ⟨a, List.mem_append_left _ ?_, eq_of_beq ours, rfl⟩
    cases replace <;> simp [there, h]
  · refine ⟨⟨taskId, user, now⟩, List.mem_append_right _ (List.mem_map.mpr ⟨user, ?_, rfl⟩), rfl,
      rfl⟩
    simpa [h] using old

/-- Who was assigned stays assigned, and nobody else comes or goes. -/
theorem changedAssignments_again {db db' : Database} {taskId : String} {replace : Bool}
    {wanted : List String} {now : Moment}
    (h : db'.assignments = db.changedAssignments taskId replace wanted now) (later : Moment) :
    db'.changedAssignments taskId replace wanted later = db'.assignments := by
  have nobody : (wanted.filter fun id =>
      !((db'.assignmentsOf taskId).map (·.userId)).contains id) = [] := by
    refine List.filter_eq_nil_iff.mpr fun user named => ?_
    obtain ⟨a, ha, ours, rfl⟩ := mem_changedAssignments named db taskId replace now
    have there : a ∈ db'.assignmentsOf taskId := by simp [assignmentsOf, h, ha, ours]
    simpa using ⟨a, there, rfl⟩
  have stays : ∀ a ∈ db'.assignments, replace = true →
      (a.taskId != taskId || wanted.contains a.userId) = true := by
    intro a ha hreplace
    rw [h, changedAssignments, if_pos hreplace] at ha
    rcases List.mem_append.mp ha with ha | ha
    · exact (List.mem_filter.mp ha).2
    · obtain ⟨user, huser, rfl⟩ := List.mem_map.mp ha
      simp [(List.mem_filter.mp huser).1]
  unfold changedAssignments
  simp only [nobody, List.map_nil, List.append_nil]
  cases replace with
  | false => rfl
  | true => exact List.filter_eq_self.mpr fun a ha => stays a ha rfl

/-- A change finds again what it found. -/
theorem Finds.again (h : db.Finds id c t users labels kept) (now : Moment) :
    (db.afterChange t c kept users labels now).Finds id c (changedTask t c kept now) users labels
      kept where
  key := h.key
  task := by
    rw [afterChange, task?_withChange, h.task]
    simp [changedTask]
  status := h.status
  named := h.named
  labelled := h.labelled
  keeps := h.keeps
  single := by
    have none_new : (db.afterChange t c kept users labels now).newLabels
        (changedTask t c kept now).id labels = [] :=
      newLabels_again db (changedTask t c kept now) ..
    rw [none_new]
    rfl

/-- A second change leaves the links as they were, and the task with a later time of change. -/
theorem afterChange_again (db : Database) (t : Task) (c : TaskChanges) (kept : Json.Fields)
    (users : Option (List String)) (labels : List String) (now later : Moment) :
    let once := db.afterChange t c kept users labels now
    let t' := changedTask t c kept now
    once.afterChange t' c kept users labels later =
      once.withChange { t' with updatedAt := later } once.assignments [] := by
  intro once t'
  have labelled : once.newLabels t'.id labels = [] := newLabels_again db t' ..
  have assigned : once.reassign t'.id c.replaceAssignees users later = once.assignments := by
    cases users with
    | none => rfl
    | some wanted => exact changedAssignments_again rfl later
  rw [afterChange, labelled, assigned, changedTask_again]

/-- The database without the time at which a task was last changed. -/
def unstamped (db : Database) (id : String) : Database :=
  { db with
    tasks := db.tasks.map fun u => if u.id == id then { u with updatedAt := u.createdAt } else u }

/-- A task that only gets a later time of change is the same without it. -/
theorem unstamped_withChange (db : Database) (t : Task) (assignments : List Assignment)
    (labels : List String) (later : Moment) :
    let once := db.withChange t assignments labels
    (once.withChange { t with updatedAt := later } once.assignments []).unstamped t.id =
      once.unstamped t.id := by
  intro once
  unfold unstamped
  congr 1
  · simp only [once, withChange, List.map_map]
    refine List.map_congr_left fun u _ => ?_
    by_cases ours : u.id = t.id <;> simp [ours]
  · exact List.append_nil _

/-- A change that was made is made again with the same answer, and leaves all but the time of
change. -/
theorem updateTask_again (h : db.updateTask now (.str id) c = .ok (view, db')) (later : Moment) :
    ∃ db'', db'.updateTask later (.str id) c = .ok (view, db'') ∧
      db''.unstamped id = db'.unstamped id := by
  obtain ⟨t, users, labels, kept, found, rfl, rfl⟩ := finds_of_updateTask h
  obtain rfl := task?_id found.task
  have again := updateTask_of_finds (found.again now) later
  rw [afterChange_again, changedTask_again] at again
  refine ⟨_, again.trans (congrArg _ (Prod.ext ?_ rfl)), unstamped_withChange ..⟩
  simp only [viewOf, taggingsOf, withChange, List.map_nil, List.append_nil]
  rfl

end Database

/-! ## Setters -/

/-- The kinds of action that set something on one task. -/
def ActionKind.setters : List ActionKind :=
  [.assignTask, .changeStatus, .addLabel, .changePriority, .setDueDate]

namespace Action

/-- A script that changes one task, tells clients and reports on the task after the change. -/
inductive Sets : Script Result → Prop
  | mk {configured : Option String} {payload : Json.Fields} {changes : TaskChanges}
      {rest : TaskView → Script Result} (report : TaskView → Result)
      (names : ∀ view, (report view).data.get? "taskId" = some (.str view.id))
      (closing : ∀ view, Closing (· = report view) (rest view)) :
      Sets (change configured payload changes >>= rest)

/-- An action of a kind that sets something changes one task and reports on it. -/
theorem perform_sets {kind config : Json} {k : ActionKind} {c : Config}
    (reads : Reads kind config c) (named : Registry.kind? kind = some k)
    (setter : k ∈ ActionKind.setters) (maxAttempts : Json) (p : Payload) (context : Context) :
    Sets (perform maxAttempts c p context) := by
  obtain ⟨k', fields, named', -, hread⟩ := reads
  obtain rfl : k' = k := Option.some.inj (named'.symm.trans named)
  cases k' with
  | assignTask =>
    obtain ⟨c, -, rfl⟩ := Schema.map_ok hread
    exact .mk _ (fun view => rfl) fun view =>
      (each_closing (fun _ => tell_closing ..) _).bind fun _ _ => .done rfl
  | changeStatus =>
    obtain ⟨c, -, rfl⟩ := Schema.map_ok hread
    exact .mk _ (fun view => rfl) fun view => (tell_closing ..).bind fun _ _ => .done rfl
  | addLabel =>
    obtain ⟨c, -, rfl⟩ := Schema.map_ok hread
    exact .mk _ (fun view => rfl) fun view => (tell_closing ..).bind fun _ _ => .done rfl
  | changePriority =>
    obtain ⟨c, -, rfl⟩ := Schema.map_ok hread
    exact .mk _ (fun view => rfl) fun view => (tell_closing ..).bind fun _ _ => .done rfl
  | setDueDate =>
    obtain ⟨c, -, rfl⟩ := Schema.map_ok hread
    exact .mk _ (fun view => rfl) fun view => (tell_closing ..).bind fun _ _ => .done rfl
  | _ => simp [ActionKind.setters] at setter

end Action

namespace Engine
open TaskRules.Action

/-! ## Runs -/

/-- A script that only tells clients succeeds, and leaves the database as it was. -/
theorem closing_run (s : Setup) {good : α → Prop} {x : Script α} (h : Closing good x) (w : World) :
    ∃ a w', x.run s.answer w = (.ok a, w') ∧ good a ∧ w'.store.db = w.store.db := by
  obtain ⟨a, w', made, hrun, ha, still, -⟩ := closing_keeps s h w []
  exact ⟨a, w', run_of_noted hrun, ha, still⟩

/-- A change of a task is answered again as it was, by a store that can be reached. -/
theorem change_again {s : Setup} {configured : Option String} {payload : Json.Fields}
    {changes : TaskChanges} {w w₁ v : World} {view : TaskView}
    (h : (change configured payload changes).run s.answer w = (.ok view, w₁)) (s' : Setup)
    (still : v.store.db = w₁.store.db) (reachable : v.store.refusal? = none) :
    ∃ v₁, (change configured payload changes).run s'.answer v = (.ok view, v₁) ∧
      v₁.store.db.unstamped view.id = v.store.db.unstamped view.id := by
  unfold change at h ⊢
  cases about : taskIdOf configured payload with
  | error e =>
    rw [about] at h
    cases h
  | ok id =>
    rw [about] at h
    have answered : s.answer (.updateTask (.str id) changes) w = (.ok view, w₁) := h
    have made := Store.ok_of_mutate (ok_of_onStore answered)
    obtain ⟨db, again, unstamped⟩ := Database.updateTask_again made v.store.now
    rw [← still] at again unstamped
    refine ⟨{ v with store := { v.store with db := db } }, ?_, ?_⟩
    · have stored : Store.updateTask (.str id) changes v.store =
          (.ok view, { v.store with db := db }) := by
        simp only [Store.updateTask, Store.mutate, reachable, again]
      exact onStore_apply stored
    · rw [(updated_task answered).1]
      exact unstamped

/-- A script that does the same again, once it has succeeded, wherever it finds what it left. -/
def Repeatable (x : Script (Option Result)) : Prop :=
  ∀ (s s' : Setup) (w w₁ v : World) (r : Result), x.run s.answer w = (.ok (some r), w₁) →
    r.Succeeded → v.store.db = w₁.store.db → v.store.refusal? = none →
      ∃ v₁ id, x.run s'.answer v = (.ok (some r), v₁) ∧ r.data.get? "taskId" = some (.str id) ∧
        v₁.store.db.unstamped id = v.store.db.unstamped id

/-- A script that changes one task and reports on it does the same again. -/
theorem sets_again {x : Script Result} (h : Sets x) {s : Setup} {w w₁ v : World} {r : Result}
    (hrun : x.run s.answer w = (.ok r, w₁)) (s' : Setup) (still : v.store.db = w₁.store.db)
    (reachable : v.store.refusal? = none) :
    ∃ v₁ id, x.run s'.answer v = (.ok r, v₁) ∧ r.data.get? "taskId" = some (.str id) ∧
      v₁.store.db.unstamped id = v.store.db.unstamped id := by
  cases h with
  | @mk configured payload changes rest report names closing =>
    rw [Script.run_bind] at hrun ⊢
    obtain ⟨view, w₂, changed, told⟩ := Run.ok_of_bind hrun
    obtain ⟨_, w₃, told', rfl, kept⟩ := closing_run s (closing view) w₂
    obtain ⟨hreport, rfl⟩ := Prod.mk.inj (told'.symm.trans told)
    obtain rfl := Except.ok.inj hreport
    obtain ⟨v₂, again, unstamped⟩ := change_again changed s' (still.trans kept) reachable
    obtain ⟨_, v₃, told_again, rfl, kept'⟩ := closing_run s' (closing view) v₂
    refine ⟨v₃, view.id, ?_, names view, ?_⟩
    · rw [Run.bind_of_ok again, told_again]
    · rw [kept', unstamped]

/-- What succeeds once faults of the configuration have become failures, succeeded before. -/
theorem succeeded_before {s : Setup} {x : Script (Option Result)} {w w₁ : World} {r : Result}
    (h : (x.settle Registry.configFailure).run s.answer w = (.ok (some r), w₁))
    (succeeded : r.Succeeded) : x.run s.answer w = (.ok (some r), w₁) := by
  rw [Script.run_settle] at h
  obtain ⟨hending, rfl⟩ := Prod.mk.inj h
  refine Prod.ext ?_ rfl
  cases hx : (x.run s.answer w).1 with
  | ok ending =>
    rw [hx] at hending
    exact hending
  | error e =>
    rw [hx] at hending
    rcases configFailure_error e with ⟨e', he⟩ | ⟨ending, he, r', rfl, failed⟩
    · rw [he] at hending
      cases hending
    · rw [he] at hending
      cases hending
      exact absurd succeeded failed

/-- A change of one task that succeeded, with its report, does so again. -/
theorem repeatable_of_sets {x : Script Result} (h : Sets x) :
    Repeatable ((x >>= fun r => pure (some r)).settle Registry.configFailure) := by
  intro s s' w w₁ v r hrun succeeded still reachable
  have ran := succeeded_before hrun succeeded
  rw [Script.run_bind] at ran
  obtain ⟨r', w₂, ran, ended⟩ := Run.ok_of_bind ran
  cases ended
  obtain ⟨v₁, id, again, names, unstamped⟩ := sets_again h ran s' still reachable
  refine ⟨v₁, id, ?_, names, unstamped⟩
  rw [Script.run_settle, Script.run_bind, Run.bind_of_ok again]
  rfl

/-- The dispatch of an action that sets something does the same again, once it has succeeded. -/
theorem dispatch_repeatable {kind : Json} {k : ActionKind} (named : Registry.kind? kind = some k)
    (setter : k ∈ ActionKind.setters) (maxAttempts config : Json)
    (payload : Except Fault Payload) (context : Context) :
    Repeatable ((Registry.standard maxAttempts).dispatch kind config payload context) := by
  refine dispatch_cases maxAttempts kind config payload context ?_ ?_ ?_ ?_
  · intro record text s s' w w₁ v r hrun succeeded
    cases hrun
    cases succeeded
  · intro text s s' w w₁ v r hrun succeeded
    cases hrun
    cases succeeded
  · intro e s s' w w₁ v r hrun
    cases hrun
  · intro c p reads _
    exact repeatable_of_sets (perform_sets reads named setter maxAttempts p context)

/-! ## Repetitions -/

/-- Repetitions of a dispatch, with their answers. In between anything may happen that leaves the
database; each may run under another setup, and finds the store reachable. -/
inductive Repeats (d : Dispatch) : World → List (Except Fault (Option Result)) → World → Prop
  | finished {w w' : World} (still : w'.store.db = w.store.db) : Repeats d w [] w'
  | again {w v w' : World} {rest : List (Except Fault (Option Result))} (s : Setup)
      (still : v.store.db = w.store.db) (reachable : v.store.refusal? = none)
      (later : Repeats d ({ d with setup := s }.run v).2 rest w') :
      Repeats d w (({ d with setup := s }.run v).1 :: rest) w'

/-- What one repetition does when the dispatch has succeeded before. -/
theorem Dispatch.again {d : Dispatch} {k : ActionKind} (named : Registry.kind? d.kind = some k)
    (setter : k ∈ ActionKind.setters) {w w₁ v : World} {r : Result}
    (before : d.run w = (.ok (some r), w₁)) (succeeded : r.Succeeded) (s : Setup)
    (still : v.store.db = w₁.store.db) (reachable : v.store.refusal? = none) :
    ∃ v₁ id, { d with setup := s }.run v = (.ok (some r), v₁) ∧
      r.data.get? "taskId" = some (.str id) ∧
        v₁.store.db.unstamped id = v.store.db.unstamped id := by
  have repeatable := dispatch_repeatable named setter d.maxAttempts d.config
    (Payload.read d.payload) d.context
  exact repeatable d.engine { d with setup := s }.engine w w₁ v r before succeeded still reachable

/-- The result of an action that set something names its task. -/
theorem Dispatch.task_named {d : Dispatch} {k : ActionKind}
    (named : Registry.kind? d.kind = some k) (setter : k ∈ ActionKind.setters) {w w₁ : World}
    {r : Result} (before : d.run w = (.ok (some r), w₁)) (succeeded : r.Succeeded) :
    ∃ id, r.data.get? "taskId" = some (.str id) := by
  -- a repetition would name it, in a world whose store can be reached
  let v : World := { w₁ with store := { w₁.store with outage := none, hasTables := true } }
  obtain ⟨_, id, -, names, -⟩ := d.again named setter before succeeded d.setup (v := v) rfl rfl
  exact ⟨id, names⟩

/-- Setting something again is harmless: when an action that sets the assignees, the status, a
label, the priority or the due date of a task has succeeded, each of its repetitions succeeds with
the same result, and after all of them the database is as after the first, except for the time at
which the task was last changed. -/
theorem setters_repeat {d : Dispatch} {k : ActionKind} {w w₁ w' : World} {r : Result}
    {answers : List (Except Fault (Option Result))} (named : Registry.kind? d.kind = some k)
    (setter : k ∈ ActionKind.setters) (first : d.run w = (.ok (some r), w₁))
    (succeeded : r.Succeeded) (all : Repeats d w₁ answers w') :
    (∀ a ∈ answers, a = .ok (some r)) ∧ ∃ id, r.data.get? "taskId" = some (.str id) ∧
      w'.store.db.unstamped id = w₁.store.db.unstamped id := by
  obtain ⟨id, names⟩ := d.task_named named setter first succeeded
  have steps : (∀ a ∈ answers, a = .ok (some r)) ∧
      w'.store.db.unstamped id = w₁.store.db.unstamped id := by
    have before : ∃ s w, { d with setup := s }.run w = (.ok (some r), w₁) := ⟨d.setup, w, first⟩
    clear first
    induction all with
    | finished still =>
      rw [still]
      exact ⟨by simp, rfl⟩
    | @again w₁ v w' rest s still reachable later ih =>
      obtain ⟨s₀, w₀, ran⟩ := before
      obtain ⟨v₁, id', ran', names', unstamped⟩ :=
        Dispatch.again (d := { d with setup := s₀ }) named setter ran succeeded s still reachable
      obtain rfl : id' = id := by simpa using names'.symm.trans names
      obtain ⟨others, kept⟩ := ih ⟨s, v, by rw [ran']⟩
      refine ⟨List.forall_mem_cons.mpr ⟨by rw [ran'], others⟩, ?_⟩
      rw [kept, ran', unstamped, still]
  exact ⟨steps.1, id, names, steps.2⟩

/-- A world at another time. -/
def World.later (w : World) (now : Moment) : World :=
  { w with store := { w.store with now := now } }

theorem Repeats.once (d : Dispatch) {w : World} (reachable : w.store.refusal? = none)
    (now : Moment) :
    Repeats d w [(d.run (w.later now)).1] (d.run (w.later now)).2 :=
  .again d.setup (Eq.refl w.store.db) reachable (.finished rfl)

def afternoon : Moment := ⟨⟨2026, 1, 1⟩, 15, 0, 0, 0⟩

/-- A task that was moved in the office is moved once more in the afternoon, to where it is. -/
theorem a_move_is_repeated :
    ∃ r id moved, (move "s-doing").run office = (.ok (some r), moved) ∧ r.Succeeded ∧
      ((move "s-doing").run (moved.later afternoon)).1 = .ok (some r) ∧
      r.data.get? "taskId" = some (.str id) ∧
      ((move "s-doing").run (moved.later afternoon)).2.store.db.unstamped id =
        moved.store.db.unstamped id := by
  have succeeds : (move "s-doing").Succeeds office := by decide +kernel
  have reachable : ((move "s-doing").run office).2.store.refusal?.isNone = true := by
    decide +kernel
  obtain ⟨_, first, r, rfl, succeeded⟩ := succeeds
  rcases ran : (move "s-doing").run office with ⟨a, moved⟩
  rw [ran] at first reachable
  obtain rfl : a = .ok (some r) := first
  have once := Repeats.once (move "s-doing") (Option.isNone_iff_eq_none.mp reachable) afternoon
  have setter : ActionKind.changeStatus ∈ ActionKind.setters := by decide
  obtain ⟨answers, id, names, kept⟩ := setters_repeat rfl setter ran succeeded once
  exact ⟨r, id, moved, rfl, succeeded, answers _ (List.mem_singleton_self _), names, kept⟩

end Engine
end TaskRules
