import TaskRules.Proofs.CreateTaskScript

/-!
A world in which tasks of one project can be created, and what it answers. The project, the chosen
statuses and the assignees are there; the look-ups find them, a claim of a free number adds a task,
and a claim of a number that the project has is refused. After each answer the world is as ready as
before.

Proved:
- `finds_project`, `finds_status`, `gives_number`: what the look-ups are answered.
- `grants_claim`, `refuses_claim`: what a claim is answered, and what it leaves.
-/

namespace TaskRules.Engine
open TaskRules.Action

/-- The slug of a project's task under a number. -/
def numberedSlug (project : Project) (number : Int) : String :=
  project.slug ++ "-" ++ decimal number

theorem numberedSlug_injective {project : Project} {m n : Int}
    (h : numberedSlug project m = numberedSlug project n) : m = n := by
  have hl := congrArg String.toList h
  simp only [numberedSlug, String.toList_append, List.append_assoc,
    List.append_cancel_left_eq] at hl
  exact decimal_injective (String.toList_injective hl)

/-! ## Creations -/

/-- A dispatch of a creation on a project: its configuration and payload can be read. -/
structure Asks (project : Project) (config payload : Json) (j : Creation) : Prop where
  config : ∃ fields, config = .obj fields ∧ readCreateTask fields = .ok j.config
  payload : Payload.read payload = .ok j.payload
  target : j.config.projectId = project.id

/-- A creation whose texts can be written: no one looks into them before the task is added. -/
structure Storable (j : Creation) : Prop where
  title : Writable (.str (newTitle j.config j.payload.named))
  description : Writable (.ofText? j.config.description)
  sprint : Writable (.ofText? j.config.sprintId)
  creator : Writable (j.context.owner.orElse j.context.triggeredBy)

theorem Asks.project_whole {project : Project} {config payload : Json} {j : Creation}
    (h : Asks project config payload j) : Text.isWhole project.id.toList = true := by
  obtain ⟨fields, -, hread⟩ := h.config
  rw [← h.target]
  exact (readCreateTask_words hread).2.1

theorem Asks.draft_proper {project : Project} {config payload : Json} {j : Creation}
    (h : Asks project config payload j) (hj : Storable j)
    (hslug : Text.isWhole project.slug.toList = true) {statusId : String}
    (hstatus : Text.isWhole statusId.toList = true) {number : Int}
    (hnumber : Word.fits number = true) :
    (j.draft project statusId number).Proper project.id (numberedSlug project number) number := by
  obtain ⟨fields, -, hread⟩ := h.config
  obtain ⟨-, -, htype, hpriority⟩ := readCreateTask_words hread
  refine ⟨rfl, rfl, rfl, ⟨_, rfl⟩, ⟨_, rfl⟩, ?_⟩
  simp only [Creation.draft, newTask, List.forall_mem_cons]
  exact ⟨writable_str h.project_whole, writable_int hnumber,
    writable_str (Text.isWhole_slug hslug number), hj.title, hj.description, writable_str htype,
    writable_str hpriority, writable_str hstatus, hj.sprint, hj.creator, by simp⟩

/-- The status of a creation's task is there: the configured one, or else the default one of the
project's workflow. -/
def StatusThere (project : Project) (db : Database) (j : Creation) : Prop :=
  match orElse j.config.statusId none with
  | some id => db.HasStatus id
  | none => ∃ workflow id, project.workflowId = some workflow ∧ workflow ≠ "" ∧
      Text.isWhole workflow.toList = true ∧ db.defaultStatus? workflow = some id ∧ id ≠ "" ∧
      db.HasStatus id

/-! ## Worlds -/

variable {k : Nat}

/-- A world in which creations can be done: the database can be used, and the project, the statuses
and the assignees are there. Ids that have not been given out are in no row. -/
structure Ready (project : Project) (asked : Fin k → Creation) (w : World) : Prop where
  usable : w.store.refusal? = none
  current : w.overtaken = []
  known : w.store.db.project? project.id = some project
  slug : Text.isWhole project.slug.toList = true
  unused : ∀ n, w.store.used .task < n → w.store.db.Unused (Store.idOf .task n)
  statuses : ∀ i, StatusThere project w.store.db (asked i)
  assignees : ∀ i, ∀ id ∈ (asked i).config.assigneeIds, w.store.db.HasUser id

variable {project : Project} {asked : Fin k → Creation} {w : World} (s : Setup)

/-- What does not touch the store leaves the world ready. -/
theorem Ready.aside (h : Ready project asked w) {w' : World} (hstore : w'.store = w.store)
    (hovertaken : w'.overtaken = w.overtaken) : Ready project asked w' := by
  cases w
  cases w'
  cases hstore
  cases hovertaken
  exact ⟨h.usable, h.current, h.known, h.slug, h.unused, h.statuses, h.assignees⟩

/-- An attempt to add a task leaves the world ready, if the ids that it left are unused. -/
theorem Ready.attempted (h : Ready project asked w) {w' : World} {tasks : List Task}
    {assignments : List Assignment}
    (hstore : w'.store = { w.store.useIds .task 1 with
      db := { w.store.db with tasks := tasks, assignments := assignments } })
    (hovertaken : w'.overtaken = w.overtaken)
    (hunused : ∀ n, w.store.used .task + 1 < n →
      ({ w.store.db with tasks := tasks, assignments := assignments } : Database).Unused
        (Store.idOf .task n)) : Ready project asked w' := by
  cases w
  cases w'
  cases hstore
  cases hovertaken
  exact ⟨h.usable, h.current, h.known, h.slug, hunused, h.statuses, h.assignees⟩

/-! ## Answers -/

/-- The project is found. -/
theorem finds_project (h : Ready project asked w) (hid : Text.isWhole project.id.toList = true) :
    s.answer (.findProject (.str project.id)) w = (.ok (some project), w) := by
  refine onStore_apply (Store.query_ok h.usable ?_)
  rw [key_found hid]
  exact congrArg Except.ok h.known

/-- The default status is found. -/
theorem finds_status (h : Ready project asked w) {workflow id : String}
    (hworkflow : project.workflowId = some workflow) (hne : workflow ≠ "")
    (hwhole : Text.isWhole workflow.toList = true)
    (hdefault : w.store.db.defaultStatus? workflow = some id) :
    s.answer (.defaultStatus (.ofText? project.workflowId)) w = (.ok (some id), w) := by
  refine onStore_apply ?_
  have htruthy : (Json.str workflow).truthy = true := by
    simp [Json.truthy, hne]
  rw [hworkflow]
  show Store.defaultStatus (.str workflow) w.store = _
  rw [Store.defaultStatus, htruthy, if_neg (by simp)]
  refine Store.query_ok h.usable ?_
  rw [text_stored hwhole]
  exact congrArg Except.ok hdefault

/-- The number after the largest is given. -/
theorem gives_number (h : Ready project asked w) (hid : Text.isWhole project.id.toList = true)
    {m : Int} (hm : w.store.db.Largest project.id m) :
    s.answer (.nextNumber (.str project.id)) w = (.ok (m + 1), w) := by
  show Setup.nextNumber (.str project.id) w = _
  rw [Setup.nextNumber, h.current]
  exact onStore_apply (Store.query_ok h.usable (Database.nextNumber_of_largest hid hm))

/-- A world after one more task of a project. -/
structure Added (project : Project) (n : Int) (w w' : World) (t : Task) : Prop where
  projectId : t.projectId = project.id
  number : t.number = .int n
  slug : t.slug = numberedSlug project n
  tasks : w'.store.db.tasks = w.store.db.tasks ++ [t]
  statuses : ∀ id, w.store.db.HasStatus id → w'.store.db.HasStatus id

theorem createTask_of_ok {d : Task.Draft} {ids : Json} {v : TaskView} {w' : World}
    (h : World.onStore (Store.createTask d ids) w = (.ok v, w')) :
    s.answer (.createTask d ids) w = (.ok v, w') := by
  show Setup.createTask d ids w = _
  rw [Setup.createTask, Run.bind_of_ok (Run.attempt_apply _ w), h]
  rfl

theorem createTask_of_taken {d : Task.Draft} {ids p n slug : Json} {w' : World}
    (h : World.onStore (Store.createTask d ids) w = (.error (.sequenceTaken p n slug), w')) :
    (s.answer (.createTask d ids) w).1 = .error (.sequenceTaken p n slug) ∧
      (s.answer (.createTask d ids) w).2.store = w'.store ∧
      (s.answer (.createTask d ids) w).2.overtaken = w'.overtaken := by
  have hanswer : s.answer (.createTask d ids) w = Setup.createTask d ids w := rfl
  rw [hanswer, Setup.createTask, Run.bind_of_ok (Run.attempt_apply _ w), h]
  exact ⟨rfl, rfl, rfl⟩

section Claims
variable {config payload : Json} {i : Fin k} {statusId : String} {number : Int}

/-- A claim of a free number adds a task. -/
theorem grants_claim (h : Ready project asked w) (asks : Asks project config payload (asked i))
    (hj : Storable (asked i)) (hstatus : w.store.db.HasStatus statusId)
    (hnumber : Word.fits number = true)
    (hfree : w.store.db.Free project.id (numberedSlug project number) number) :
    ∃ t v w', s.answer (.createTask ((asked i).draft project statusId number)
        (textsJson (asked i).config.assigneeIds)) w = (.ok v, w') ∧
      Ready project asked w' ∧ Added project number w w' t ∧
      v.id = t.id ∧ v.number = t.number ∧ v.slug = t.slug := by
  have hd := asks.draft_proper hj h.slug hstatus.1 hnumber
  have hid : w.store.db.Unused (w.store.nextId .task) := h.unused _ (Nat.lt_succ_self _)
  obtain ⟨t, wanted, ht, hp, hn, hs, hcall⟩ :=
    Store.createTask_added h.usable hd rfl hstatus (h.assignees i) hfree hid
  have hanswer := createTask_of_ok s (onStore_apply hcall)
  refine ⟨t, _, _, hanswer, ?_, ⟨hp, hn, hs, rfl, fun id h => h⟩, rfl, rfl, rfl⟩
  refine h.attempted rfl rfl ?_
  intro n hn
  have hne : t.id ≠ Store.idOf .task n := by
    rw [ht, Store.nextId]
    intro heq
    have := Store.idOf_injective heq
    omega
  obtain ⟨htasks, hassignments⟩ := h.unused n (by omega)
  constructor
  · intro u hu
    rcases List.mem_append.mp hu with hu | hu
    · exact htasks u hu
    · rwa [List.mem_singleton.mp hu]
  · intro a ha
    rcases List.mem_append.mp ha with ha | ha
    · exact hassignments a ha
    · obtain ⟨u, -, rfl⟩ := List.mem_map.mp ha
      exact hne

/-- A claim of a number that the project has is refused, and leaves the database as it was. -/
theorem refuses_claim (h : Ready project asked w) (asks : Asks project config payload (asked i))
    (hj : Storable (asked i)) (hstatus : w.store.db.HasStatus statusId)
    (hnumber : Word.fits number = true) {u : Task} (hu : u ∈ w.store.db.tasks)
    (hup : u.projectId = project.id) (hun : u.number = .int number) :
    ∃ p n slug w', s.answer (.createTask ((asked i).draft project statusId number)
        (textsJson (asked i).config.assigneeIds)) w = (.error (.sequenceTaken p n slug), w') ∧
      Ready project asked w' ∧ w'.store.db = w.store.db := by
  have hd := asks.draft_proper hj h.slug hstatus.1 hnumber
  have hcall := Store.createTask_taken h.usable hd rfl hstatus (h.assignees i) hu hup hun
  obtain ⟨hanswer, hw, hovertaken⟩ := createTask_of_taken s (onStore_apply hcall)
  have hunused : ∀ n, w.store.used .task + 1 < n → w.store.db.Unused (Store.idOf .task n) :=
    fun n hn => h.unused n (by omega)
  have hdb : (s.answer (.createTask ((asked i).draft project statusId number)
      (textsJson (asked i).config.assigneeIds)) w).2.store.db = w.store.db := by
    rw [hw]
    rfl
  exact ⟨_, _, _, _, Prod.ext hanswer rfl, h.attempted hw hovertaken hunused, hdb⟩

end Claims
end TaskRules.Engine
