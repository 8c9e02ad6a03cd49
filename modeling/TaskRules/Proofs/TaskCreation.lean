import TaskRules.Action.Perform
import TaskRules.Proofs.Numerals
import TaskRules.Proofs.Transactions

/-!
Adding one task to a project. The number after the largest one is free, so a task that takes it is
added at the end of its table; a number that has been taken in the meantime is reported as taken,
and the database stays as it was.

Proved:
- `draft_kept`, `draft_row`: what the columns keep of a draft, and the row that it makes.
- `nextNumber_of_largest`: the next number is the one after the largest.
- `insertTask_added`, `insertTask_taken`: a task under a free number and slug is added, one under a
  number that the project has is refused.
- `createTask_added`, `createTask_taken`: and so is one by the call that checks its status and its
  assignees first.
-/

namespace TaskRules

/-! ## Rows -/

/-- A value that a statement can hand to the database. -/
def Writable (v : Json) : Prop := handedOver v = .ok v

theorem writable_str {s : String} (h : Text.isWhole s.toList = true) : Writable (.str s) := by
  rw [Writable, handedOver, if_pos h]

theorem writable_int {n : Int} (h : Word.fits n = true) : Writable (.int n) := by
  rw [Writable, handedOver, if_pos h]

theorem writable_null : Writable .null := rfl

theorem text_stored {s : String} (h : Text.isWhole s.toList = true) :
    Affinity.text.store (.str s) = .ok (.str s) := by
  rw [Affinity.store, writable_str h]
  rfl

theorem key_found {id : String} (h : Text.isWhole id.toList = true) :
    Column.key? (.str id) = .ok (some id) := by
  show (Affinity.text.store (.str id) >>= _) = _
  rw [text_stored h]
  rfl

theorem admits_text (v : Json) : ColumnKind.text.admits v = true := by
  cases v <;> rfl

theorem admits_quantity (v : Json) : ColumnKind.quantity.admits v = true := by
  cases v <;> rfl

theorem admits_moment (m : Option Moment) :
    ColumnKind.moment.admits (Column.ofMoment? m) = true := by
  cases m <;> rfl

theorem store_text {v : Json} (h : Writable v) :
    ColumnKind.text.store v = .ok (Affinity.text.kept v) := by
  rw [ColumnKind.store, Affinity.store, h]
  rfl

theorem store_quantity {v : Json} (h : Writable v) :
    ColumnKind.quantity.store v = .ok (Affinity.number.kept v) := by
  rw [ColumnKind.store, Affinity.store, h]
  rfl

/-! ## The row of a draft -/

/-- A draft of a task with a number, a slug, a title and a status, whose values can be written. -/
structure Task.Draft.Proper (d : Task.Draft) (projectId slug : String) (number : Int) : Prop where
  projectId : d.projectId = .str projectId
  number : d.number = .int number
  slug : d.slug = .str slug
  title : ∃ title, d.title = .str title
  statusId : ∃ statusId, d.statusId = .str statusId
  writable : ∀ v ∈ [d.projectId, d.number, d.slug, d.title, d.description, d.type, d.priority,
    d.statusId, d.sprintId, d.createdBy], Writable v

/-- What the columns of a task keep of a draft. -/
def Task.Draft.kept (d : Task.Draft) : Json.Fields :=
  [("project_id", Affinity.text.kept d.projectId), ("task_number", Affinity.number.kept d.number),
    ("slug", Affinity.text.kept d.slug), ("title", Affinity.text.kept d.title),
    ("description", Affinity.text.kept d.description), ("type", Affinity.text.kept d.type),
    ("priority", Affinity.text.kept d.priority), ("status_id", Affinity.text.kept d.statusId),
    ("sprint_id", Affinity.text.kept d.sprintId), ("due_date", Column.ofMoment? d.dueDate),
    ("start_date", Column.ofMoment? d.startDate), ("created_by", Affinity.text.kept d.createdBy)]

theorem draft_kept {d : Task.Draft} {projectId slug : String} {number : Int}
    (hd : d.Proper projectId slug number) : Table.tasks.keep d.toFields = .ok d.kept := by
  have hw := hd.writable
  simp only [List.forall_mem_cons] at hw
  obtain ⟨hpid, hnum, hslug, htitle, hdesc, htype, hprio, hstat, hspr, hby, -⟩ := hw
  have hgiven : (Table.tasks.columns.filterMap fun c =>
      (Json.Fields.get? d.toFields c.1).map (c, ·)) =
      [(("project_id", .text), d.projectId), (("task_number", .quantity), d.number),
        (("slug", .text), d.slug), (("title", .text), d.title),
        (("description", .text), d.description), (("type", .text), d.type),
        (("priority", .text), d.priority), (("status_id", .text), d.statusId),
        (("sprint_id", .text), d.sprintId), (("due_date", .moment), Column.ofMoment? d.dueDate),
        (("start_date", .moment), Column.ofMoment? d.startDate),
        (("created_by", .text), d.createdBy)] := by
    rfl
  rw [Table.keep, hgiven]
  simp only [List.any_cons, List.any_nil, admits_text, admits_quantity, admits_moment,
    Bool.not_true, Bool.or_false, Bool.false_eq_true, if_false, List.mapM_cons, List.mapM_nil,
    store_text hpid, store_quantity hnum, store_text hslug, store_text htitle, store_text hdesc,
    store_text htype, store_text hprio, store_text hstat, store_text hspr, store_text hby]
  rfl

theorem draft_row {d : Task.Draft} {projectId slug : String} {number : Int}
    (hd : d.Proper projectId slug number) (id : String) (now : Moment) :
    ∃ t, Task.ofFields? d.kept id now = some t ∧ t.id = id ∧ t.projectId = projectId ∧
      t.number = .int number ∧ t.slug = slug := by
  obtain ⟨title, htitle⟩ := hd.title
  obtain ⟨statusId, hstatus⟩ := hd.statusId
  have row : ∃ t, Task.ofFields? d.kept id now = some t := by
    unfold Task.ofFields? Task.Draft.kept
    rw [hd.projectId, hd.number, hd.slug, htitle, hstatus]
    exact ⟨_, rfl⟩
  obtain ⟨t, ht⟩ := row
  refine ⟨t, ht, ?_⟩
  unfold Task.ofFields? Task.Draft.kept at ht
  rw [hd.projectId, hd.number, hd.slug, htitle, hstatus] at ht
  cases ht
  exact ⟨rfl, rfl, rfl, rfl⟩

/-! ## Numbers of a project -/

/-- The largest number of a project's tasks, which are integers; 0 when it has no task. -/
structure Database.Largest (db : Database) (projectId : String) (m : Int) : Prop where
  whole : ∀ t ∈ db.tasks, t.projectId = projectId → ∃ n, t.number = .int n ∧ n ≤ m
  attained : (∃ t ∈ db.tasks, t.projectId = projectId ∧ t.number = .int m) ∨
    (m = 0 ∧ ∀ t ∈ db.tasks, t.projectId ≠ projectId)

namespace Database

/-- The larger of what has been seen and a number. -/
def larger (seen : Option Quantity) (n : Quantity) : Option Quantity :=
  match seen with
  | none => some n
  | some m => some (if n.le m then m else n)

theorem larger_int (seen n : Int) :
    larger (some (.int seen)) (.int n) = some (.int (max seen n)) := by
  by_cases h : n ≤ seen
  · rw [Int.max_eq_left h]
    simp [larger, Quantity.le, Json.Numeric.le, h]
  · rw [Int.max_eq_right (Int.le_of_not_le h)]
    simp [larger, Quantity.le, Json.Numeric.le, h]

theorem foldl_larger {l : List Quantity} {m : Int} (hints : ∀ q ∈ l, ∃ n, q = .int n ∧ n ≤ m)
    {seen : Int} (hseen : seen ≤ m) (hm : seen = m ∨ .int m ∈ l) :
    l.foldl larger (some (.int seen)) = some (.int m) := by
  induction l generalizing seen with
  | nil =>
    rcases hm with rfl | hm
    · rfl
    · cases hm
  | cons q rest ih =>
    obtain ⟨n, rfl, hn⟩ := hints q (List.mem_cons_self ..)
    have hrest : ∀ q ∈ rest, ∃ n, q = .int n ∧ n ≤ m :=
      fun q hq => hints q (List.mem_cons_of_mem _ hq)
    rw [List.foldl_cons, larger_int]
    refine ih hrest (by omega) ?_
    rcases hm with rfl | hm
    · left
      omega
    · rcases List.mem_cons.mp hm with h | h
      · left
        cases h
        omega
      · exact .inr h

/-- The numbers of a project's tasks. -/
def numbersOf (db : Database) (projectId : String) : List Quantity :=
  (db.tasks.filter (·.projectId == projectId)).map (·.number)

theorem largest_of {db : Database} {projectId : String} {m : Int} (h : db.Largest projectId m) :
    db.largestNumber? projectId = some (.int m) ∨
      (m = 0 ∧ db.largestNumber? projectId = none) := by
  have hfold : db.largestNumber? projectId = (db.numbersOf projectId).foldl larger none := rfl
  rcases h.attained with ⟨t, ht, hp, hn⟩ | ⟨rfl, hnone⟩
  · left
    have hints : ∀ q ∈ db.numbersOf projectId, ∃ n, q = .int n ∧ n ≤ m := by
      intro q hq
      obtain ⟨u, hu, rfl⟩ := List.mem_map.mp hq
      obtain ⟨hu, hup⟩ := List.mem_filter.mp hu
      exact h.whole u hu (by simpa using hup)
    have hmem : Quantity.int m ∈ db.numbersOf projectId :=
      List.mem_map.mpr ⟨t, List.mem_filter.mpr ⟨ht, by simp [hp]⟩, hn⟩
    rw [hfold]
    cases hl : db.numbersOf projectId with
    | nil =>
      rw [hl] at hmem
      cases hmem
    | cons q rest =>
      rw [hl] at hints hmem
      obtain ⟨n, rfl, hn⟩ := hints q (List.mem_cons_self ..)
      refine foldl_larger (fun q hq => hints q (List.mem_cons_of_mem _ hq)) hn ?_
      rcases List.mem_cons.mp hmem with h | h
      · cases h
        exact .inl rfl
      · exact .inr h
  · right
    have hempty : db.numbersOf projectId = [] := by
      rw [numbersOf, List.map_eq_nil_iff, List.filter_eq_nil_iff]
      intro t ht
      simpa using hnone t ht
    rw [hfold, hempty]
    exact ⟨rfl, rfl⟩

/-- The next number is the one after the largest. -/
theorem nextNumber_of_largest {db : Database} {projectId : String} {m : Int}
    (hp : Text.isWhole projectId.toList = true) (h : db.Largest projectId m) :
    db.nextNumber (.str projectId) = .ok (m + 1) := by
  have hzero : (Quantity.int m).orZero = .int m := by
    rw [Quantity.orZero]
    by_cases hm : m = 0
    · subst hm
      rfl
    · simp [Quantity.toJson, Json.truthy, hm]
  rw [nextNumber, text_stored hp]
  rcases largest_of h with hl | ⟨rfl, hl⟩
  · simp only [hl, hzero, bind, Except.bind, Quantity.whole]
    rfl
  · simp only [hl, bind, Except.bind]
    rfl

/-! ## Adding -/

/-- A project has no task of a number or a slug. -/
def Free (db : Database) (projectId slug : String) (number : Int) : Prop :=
  ∀ t ∈ db.tasks, t.projectId = projectId → t.number ≠ .int number ∧ t.slug ≠ slug

/-- No row is about a task of an id. -/
def Unused (db : Database) (id : String) : Prop :=
  (∀ t ∈ db.tasks, t.id ≠ id) ∧ ∀ a ∈ db.assignments, a.taskId ≠ id

/-- The database with one more task and its assignments. -/
def withTask (db : Database) (t : Task) (assigneeIds : List String) (now : Moment) : Database :=
  { db with
    tasks := db.tasks ++ [t]
    assignments := db.assignments ++ assigneeIds.map (⟨t.id, ·, now⟩) }

/-- What comes of adding the row of a draft. -/
theorem insertTask_eq {db : Database} {d : Task.Draft} {projectId slug : String} {number : Int}
    (hd : d.Proper projectId slug number) {id : String} {now : Moment} {t : Task}
    (hrow : Task.ofFields? d.kept id now = some t) (assigneeIds : List String) :
    db.insertTask now id d assigneeIds =
      if db.tasks.any (Task.clashes t) then
        .error (if db.sequenceTaken d.kept then .sequenceTaken d.projectId d.number d.slug
          else .constraint)
      else if (assigneeIds.map fun u => (⟨t.id, u, now⟩ : Assignment)).any fun a =>
          db.assignments.any a.clashes then .error .constraint
      else .ok ((db.withTask t assigneeIds now).viewOf t, db.withTask t assigneeIds now) := by
  have hadd : (rowOrFault (Task.ofFields? d.kept id now) >>= fun t =>
      (addRow Task.clashes db.tasks t).map (t, ·)) =
      if db.tasks.any (Task.clashes t) then .error .constraint
      else .ok (t, db.tasks ++ [t]) := by
    rw [hrow]
    show (addRow Task.clashes db.tasks t).map (t, ·) = _
    rw [addRow]
    split <;> rfl
  rw [insertTask, draft_kept hd]
  simp only [bind, Except.bind] at hadd ⊢
  rw [hadd]
  by_cases hclash : db.tasks.any (Task.clashes t) = true
  · rw [if_pos hclash, if_pos hclash]
    dsimp only
    split <;> rfl
  · rw [if_neg hclash, if_neg hclash]
    dsimp only
    split <;> rfl

/-- A task under a free number and slug is added at the end. -/
theorem insertTask_added {db : Database} {d : Task.Draft} {projectId slug : String} {number : Int}
    (hd : d.Proper projectId slug number) (hfree : db.Free projectId slug number) {id : String}
    (hid : db.Unused id) (now : Moment) (assigneeIds : List String) :
    ∃ t, t.id = id ∧ t.projectId = projectId ∧ t.number = .int number ∧ t.slug = slug ∧
      db.insertTask now id d assigneeIds = .ok ((db.withTask t assigneeIds now).viewOf t,
        db.withTask t assigneeIds now) := by
  obtain ⟨t, hrow, ht, hp, hn, hs⟩ := draft_row hd id now
  refine ⟨t, ht, hp, hn, hs, ?_⟩
  have hclash : ¬ db.tasks.any (Task.clashes t) = true := by
    intro hc
    obtain ⟨u, hu, hc⟩ := List.any_eq_true.mp hc
    simp only [Task.clashes, Bool.or_eq_true, Bool.and_eq_true, beq_iff_eq, ht, hp, hn, hs] at hc
    rcases hc with hc | ⟨hup, hc⟩
    · exact hid.1 u hu hc.symm
    · obtain ⟨hnumber, hslug⟩ := hfree u hu hup.symm
      rcases hc with hc | hc
      · exact hnumber hc.symm
      · exact hslug hc.symm
  have hlinks : ¬ ((assigneeIds.map fun u => (⟨t.id, u, now⟩ : Assignment)).any fun a =>
      db.assignments.any a.clashes) = true := by
    intro hc
    obtain ⟨a, ha, hc⟩ := List.any_eq_true.mp hc
    obtain ⟨u, -, rfl⟩ := List.mem_map.mp ha
    obtain ⟨b, hb, hc⟩ := List.any_eq_true.mp hc
    simp only [Assignment.clashes, Bool.and_eq_true, beq_iff_eq, ht] at hc
    exact hid.2 b hb hc.1.symm
  rw [insertTask_eq hd hrow, if_neg hclash, if_neg hlinks]

/-- A number that the project has is refused. -/
theorem insertTask_taken {db : Database} {d : Task.Draft} {projectId slug : String} {number : Int}
    (hd : d.Proper projectId slug number) {u : Task} (hu : u ∈ db.tasks)
    (hup : u.projectId = projectId) (hun : u.number = .int number) (id : String) (now : Moment)
    (assigneeIds : List String) :
    db.insertTask now id d assigneeIds = .error (.sequenceTaken d.projectId d.number d.slug) := by
  obtain ⟨t, hrow, -, hp, hn, -⟩ := draft_row hd id now
  have hclash : db.tasks.any (Task.clashes t) = true :=
    List.any_eq_true.mpr ⟨u, hu, by simp [Task.clashes, hp, hn, hup, hun]⟩
  have hkp : Column.text? d.kept "project_id" = some projectId := by
    rw [Task.Draft.kept, hd.projectId]
    rfl
  have hkn : Column.quantity? d.kept "task_number" = some (.int number) := by
    rw [Task.Draft.kept, hd.number]
    rfl
  have htaken : db.sequenceTaken d.kept = true :=
    List.any_eq_true.mpr ⟨u, hu, by simp [hkp, hkn, hup, hun]⟩
  rw [insertTask_eq hd hrow, if_pos hclash, if_pos htaken]

/-! ## What has to be there -/

/-- A user is there, under an id that can be looked up. -/
def HasUser (db : Database) (id : String) : Prop :=
  Text.isWhole id.toList = true ∧ (db.user? id).isSome = true

/-- A status is there, under an id that can be looked up. -/
def HasStatus (db : Database) (id : String) : Prop :=
  Text.isWhole id.toList = true ∧ (db.status? id).isSome = true

theorem differing_texts (ids : List String) :
    ∃ rest : List String, differing (ids.map Json.str) = .ok (rest.map Json.str) ∧
      ∀ id ∈ rest, id ∈ ids := by
  induction ids with
  | nil => exact ⟨[], rfl, by simp⟩
  | cons id ids ih =>
    obtain ⟨rest, hrest, hmem⟩ := ih
    refine ⟨id :: rest.filter fun other => !(Json.str id).same (.str other), ?_, ?_⟩
    · rw [List.map_cons, differing, hrest]
      show Except.ok (Json.str id :: (rest.map Json.str).filter fun w => !(Json.str id).same w) = _
      rw [List.filter_map]
      rfl
    · intro other hother
      rcases List.mem_cons.mp hother with rfl | hother
      · exact List.mem_cons_self ..
      · exact List.mem_cons_of_mem _ (hmem other (List.mem_filter.mp hother).1)

theorem requireUsers_ok {db : Database} {ids : List String} (h : ∀ id ∈ ids, db.HasUser id) :
    ∃ wanted, db.requireUsers (Action.textsJson ids) = .ok wanted := by
  obtain ⟨rest, hrest, hmem⟩ := differing_texts ids
  have hcheck : ∀ l : List String, (∀ id ∈ l, db.HasUser id) →
      ((l.map Json.str).forM fun v => do let _ ← handedOver v) = (.ok () : Except Fault Unit) ∧
        (l.map Json.str).mapM db.requireUser = .ok l := by
    intro l hl
    induction l with
    | nil => exact ⟨rfl, rfl⟩
    | cons id l ih =>
      obtain ⟨hwhole, hthere⟩ := hl id (List.mem_cons_self ..)
      obtain ⟨hall, hmap⟩ := ih fun id hid => hl id (List.mem_cons_of_mem _ hid)
      have hw : handedOver (.str id) = .ok (.str id) := writable_str hwhole
      have hr : db.requireUser (.str id) = .ok id := by
        rw [requireUser, if_pos hthere]
      constructor
      · show ((do let _ ← handedOver (.str id)) >>= fun _ =>
          (l.map Json.str).forM fun v => do let _ ← handedOver v) = _
        rw [hw]
        exact hall
      · rw [List.map_cons, List.mapM_cons, hr, hmap]
        rfl
  obtain ⟨hall, hmap⟩ := hcheck rest fun id hid => h id (hmem id hid)
  refine ⟨rest, ?_⟩
  rw [requireUsers]
  show (differing (ids.map Json.str) >>= _) = _
  rw [hrest]
  show (((rest.map Json.str).forM fun v => do let _ ← handedOver v) >>= _) = _
  rw [hall]
  exact hmap

theorem checkDraft_ok {db : Database} {d : Task.Draft} {statusId : String}
    (hd : d.statusId = .str statusId) (hs : db.HasStatus statusId) {ids : List String}
    (hu : ∀ id ∈ ids, db.HasUser id) :
    ∃ wanted, db.checkDraft d (Action.textsJson ids) = .ok wanted := by
  obtain ⟨wanted, hwanted⟩ := requireUsers_ok hu
  have hstatus : db.requireStatus (.str statusId) = .ok () := by
    obtain ⟨status, hstatus⟩ := Option.isSome_iff_exists.mp hs.2
    rw [requireStatus, key_found hs.1]
    simp only [bind, Except.bind, Option.bind_some, hstatus]
    rfl
  refine ⟨wanted, ?_⟩
  rw [checkDraft, hd, hstatus, hwanted]
  split <;> rfl

end Database

/-! ## One call -/

namespace Store

theorem query_ok {s : Store} (hs : s.refusal? = none) {f : Database → Except Fault α} {a : α}
    (hf : f s.db = .ok a) : query f s = (.ok a, s) := by
  rw [query, hs, hf]

theorem outage_of_refusal {s : Store} (hs : s.refusal? = none) : s.outage = none := by
  cases ho : s.outage with
  | none => rfl
  | some e => simp [refusal?, ho] at hs

theorem insert_ok {s : Store} (hs : s.refusal? = none) {kind : IdKind}
    {f : Database → Moment → String → Except Fault (α × Database)} {a : α} {db : Database}
    (hf : f s.db s.now (s.nextId kind) = .ok (a, db)) :
    insert kind true f s = (.ok a, { s.useIds kind 1 with db := db }) := by
  rw [insert, outage_of_refusal hs]
  simp only [hs, hf, if_true]

theorem insert_error {s : Store} (hs : s.refusal? = none) {kind : IdKind}
    {f : Database → Moment → String → Except Fault (α × Database)} {e : Fault}
    (hf : f s.db s.now (s.nextId kind) = .error e) :
    insert kind true f s = (.error e, s.useIds kind 1) := by
  rw [insert, outage_of_refusal hs]
  simp only [hs, hf, if_true]

theorem createTask_checked {s : Store} (hs : s.refusal? = none) {d : Task.Draft}
    {statusId : String} (hd : d.statusId = .str statusId) (hstatus : s.db.HasStatus statusId)
    {ids : List String} (husers : ∀ id ∈ ids, s.db.HasUser id) :
    ∃ wanted, createTask d (Action.textsJson ids) s =
      insert .task true (·.insertTask · · d wanted) s := by
  obtain ⟨wanted, hwanted⟩ := Database.checkDraft_ok hd hstatus husers
  have hquery : query (·.checkDraft d (Action.textsJson ids)) s = (.ok wanted, s) :=
    query_ok hs hwanted
  exact ⟨wanted, Run.bind_of_ok hquery _⟩

/-- A call that adds a task under a free number and slug. -/
theorem createTask_added {s : Store} (hs : s.refusal? = none) {d : Task.Draft}
    {projectId slug statusId : String} {number : Int} (hd : d.Proper projectId slug number)
    (hstatusId : d.statusId = .str statusId) (hstatus : s.db.HasStatus statusId)
    {ids : List String} (husers : ∀ id ∈ ids, s.db.HasUser id)
    (hfree : s.db.Free projectId slug number) (hid : s.db.Unused (s.nextId .task)) :
    ∃ t wanted, t.id = s.nextId .task ∧ t.projectId = projectId ∧ t.number = .int number ∧
      t.slug = slug ∧ createTask d (Action.textsJson ids) s =
        (.ok ((s.db.withTask t wanted s.now).viewOf t),
          { s.useIds .task 1 with db := s.db.withTask t wanted s.now }) := by
  obtain ⟨wanted, hcall⟩ := createTask_checked hs hstatusId hstatus husers
  obtain ⟨t, ht, hp, hn, hslug, hadded⟩ := Database.insertTask_added hd hfree hid s.now wanted
  refine ⟨t, wanted, ht, hp, hn, hslug, ?_⟩
  rw [hcall]
  exact insert_ok hs hadded

/-- A call that asks for a number that the project has. -/
theorem createTask_taken {s : Store} (hs : s.refusal? = none) {d : Task.Draft}
    {projectId slug statusId : String} {number : Int} (hd : d.Proper projectId slug number)
    (hstatusId : d.statusId = .str statusId) (hstatus : s.db.HasStatus statusId)
    {ids : List String} (husers : ∀ id ∈ ids, s.db.HasUser id) {u : Task} (hu : u ∈ s.db.tasks)
    (hup : u.projectId = projectId) (hun : u.number = .int number) :
    createTask d (Action.textsJson ids) s =
      (.error (.sequenceTaken d.projectId d.number d.slug), s.useIds .task 1) := by
  obtain ⟨wanted, hcall⟩ := createTask_checked hs hstatusId hstatus husers
  rw [hcall]
  exact insert_error hs (Database.insertTask_taken hd hu hup hun _ _ wanted)

end Store
end TaskRules
