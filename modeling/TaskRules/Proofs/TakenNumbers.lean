import TaskRules.Proofs.EditChecks
import TaskRules.Proofs.ReadyWorld
import TaskRules.Proofs.StoreFaults

/-!
What it takes for a number to be taken. The next number of a project is above all that its tasks
have. A task is refused as taken only when its project has a task of its number or of its slug; no
other check of a new task fails that way.

Proved:
- `exists_largest`, `nextNumber_above`: the next number of a project.
- `taken_of_insertTask`, `taken_of_createTask`: why a task is refused as taken.
- `insertTask_clashing`, `createTask_clashing`: when it is.
-/

namespace TaskRules
open TaskRules.Action (isTaken)

/-! ## Numbers and slugs of a project -/

namespace Database

def HasNumber (db : Database) (projectId : String) (n : Int) : Prop :=
  ∃ t ∈ db.tasks, t.projectId = projectId ∧ t.number = .int n

def HasSlug (db : Database) (projectId slug : String) : Prop :=
  ∃ t ∈ db.tasks, t.projectId = projectId ∧ t.slug = slug

/-- The tasks of a project are numbered by integers. -/
def Counted (db : Database) (projectId : String) : Prop :=
  ∀ t ∈ db.tasks, t.projectId = projectId → ∃ n, t.number = .int n

/-- The number of a task of a project. -/
def ownNumber? (projectId : String) (t : Task) : Option Int :=
  match t.number with
  | .int n => if t.projectId = projectId then some n else none
  | _ => none

theorem mem_ownNumbers {db : Database} {projectId : String} {n : Int} :
    n ∈ db.tasks.filterMap (ownNumber? projectId) ↔ db.HasNumber projectId n := by
  rw [List.mem_filterMap]
  refine exists_congr fun t => and_congr_right fun _ => ?_
  unfold ownNumber?
  cases t.number <;> simp

theorem exists_largest {db : Database} {projectId : String} (h : db.Counted projectId) :
    ∃ m, db.Largest projectId m := by
  cases hmax : (db.tasks.filterMap (ownNumber? projectId)).max? with
  | none =>
    have empty := List.max?_eq_none_iff.mp hmax
    refine ⟨0, ?_⟩
    have foreign : ∀ t ∈ db.tasks, t.projectId ≠ projectId := by
      intro t ht own
      obtain ⟨n, number⟩ := h t ht own
      have there : n ∈ db.tasks.filterMap (ownNumber? projectId) :=
        mem_ownNumbers.mpr ⟨t, ht, own, number⟩
      rw [empty] at there
      cases there
    exact ⟨fun t ht own => absurd own (foreign t ht), .inr ⟨rfl, foreign⟩⟩
  | some m =>
    obtain ⟨attained, above⟩ := List.max?_eq_some_iff.mp hmax
    refine ⟨m, fun t ht own => ?_, .inl (mem_ownNumbers.mp attained)⟩
    obtain ⟨n, number⟩ := h t ht own
    exact ⟨n, number, above n (mem_ownNumbers.mpr ⟨t, ht, own, number⟩)⟩

/-- The next number of a project is above those of its tasks. -/
theorem nextNumber_above {db : Database} {projectId : String} (counted : db.Counted projectId)
    {n : Int} (h : db.nextNumber (.str projectId) = .ok n) {k : Int}
    (hk : db.HasNumber projectId k) : k < n := by
  obtain ⟨m, largest⟩ := exists_largest counted
  cases whole : Text.isWhole projectId.toList with
  | true =>
    rw [nextNumber_of_largest whole largest] at h
    obtain ⟨t, ht, own, number⟩ := hk
    obtain ⟨k', number', le⟩ := largest.whole t ht own
    cases number.symm.trans number'
    cases h
    omega
  | false =>
    have unwritable := store_checks projectId
    unfold nextNumber at h
    obtain ⟨v, stored, -⟩ := ok_of_bind h
    rw [stored] at unwritable
    exact absurd unwritable.2 (by simp [whole])

end Database

/-! ## Taken numbers -/

theorem not_taken {e : Fault} (h : e.OfStore) (taken : isTaken e = true) : False :=
  Bool.false_ne_true (h.untaken.symm.trans taken)

namespace Database
variable {db : Database} {d : Task.Draft} {projectId slug : String} {n : Int} {e : Fault}

/-- A task is refused as taken when its project has a task of its number or of its slug. -/
theorem taken_of_insertTask (project : d.projectId = .str projectId) (number : d.number = .int n)
    (hslug : d.slug = .str slug) {now : Moment} {id : String} {assigneeIds : List String}
    (h : db.insertTask now id d assigneeIds = .error e) (taken : isTaken e = true) :
    db.HasNumber projectId n ∨ db.HasSlug projectId slug := by
  have added : ∀ kept, FailsFor Fault.OfStore (rowOrFault (Task.ofFields? kept id now) >>= fun t =>
      (addRow Task.clashes db.tasks t).map (t, ·)) :=
    fun _ => (rowOrFault_fails _).bind fun _ => (addRow_fails _ _ _).map _
  unfold insertTask at h
  cases hkept : Table.tasks.keep d.toFields with
  | error e' =>
    rw [hkept] at h
    obtain rfl := Except.error.inj h
    exact (not_taken (keep_fails .tasks d.toFields _ hkept) taken).elim
  | ok kept =>
    rw [hkept] at h
    have found : db.sequenceTaken kept = true := by
      have unclaimed := added kept
      simp only [bind, Except.bind] at h unclaimed
      split at h
      · split at h
        · cases h
          cases taken
        · cases h
      · rename_i hadded
        split at h
        · assumption
        · cases h
          exact (not_taken (unclaimed _ hadded) taken).elim
    obtain ⟨t, ht, same⟩ := List.any_eq_true.mp found
    rw [Table.keep_text hkept "project_id" (by decide) rfl (o := some projectId) project,
      Table.keep_int hkept "task_number" (by decide) rfl number,
      Table.keep_text hkept "slug" (by decide) rfl (o := some slug) hslug] at same
    simp only [Bool.and_eq_true, Bool.or_eq_true, beq_iff_eq, Option.some.injEq] at same
    obtain ⟨own, same⟩ := same
    exact same.imp (fun number => ⟨t, ht, own.symm, number.symm⟩)
      fun slug => ⟨t, ht, own.symm, slug.symm⟩

/-- A draft whose values can be written is refused as taken when its project has a task of its
number or of its slug. -/
theorem insertTask_clashing (hd : d.Proper projectId slug n)
    (h : db.HasNumber projectId n ∨ db.HasSlug projectId slug) (id : String) (now : Moment)
    (assigneeIds : List String) :
    db.insertTask now id d assigneeIds = .error (.sequenceTaken d.projectId d.number d.slug) := by
  obtain ⟨t, hrow, -, own, number, hslug⟩ := draft_row hd id now
  have kept := draft_kept hd
  obtain ⟨u, hu, owned, same⟩ : ∃ u ∈ db.tasks, u.projectId = projectId ∧
      (u.number = .int n ∨ u.slug = slug) := by
    rcases h with ⟨u, hu, owned, same⟩ | ⟨u, hu, owned, same⟩
    · exact ⟨u, hu, owned, .inl same⟩
    · exact ⟨u, hu, owned, .inr same⟩
  have clash : db.tasks.any (Task.clashes t) = true :=
    List.any_eq_true.mpr ⟨u, hu, by
      rcases same with same | same <;> simp [Task.clashes, own, number, hslug, owned, same]⟩
  have found : db.sequenceTaken d.kept = true := by
    refine List.any_eq_true.mpr ⟨u, hu, ?_⟩
    rw [Table.keep_text kept "project_id" (by decide) rfl (o := some projectId) hd.projectId,
      Table.keep_int kept "task_number" (by decide) rfl hd.number,
      Table.keep_text kept "slug" (by decide) rfl (o := some slug) hd.slug]
    rcases same with same | same <;> simp [owned, same]
  rw [insertTask_eq hd hrow, if_pos clash, if_pos found]

end Database

namespace Store
variable {s : Store} {d : Task.Draft} {projectId slug : String} {n : Int} {e : Fault}

theorem createTask_unreached (h : s.refusal? = some e) (d : Task.Draft) (assigneeIds : Json) :
    createTask d assigneeIds s = (.error e, s) := by
  have asked : query (·.checkDraft d assigneeIds) s = (.error e, s) := by
    simp only [query, h]
  exact Run.bind_of_error asked _

/-- A call that fails, on a store that can be reached: a check of the draft fails, or the row cannot
be added and has used up an id. -/
theorem createTask_failed (reachable : s.refusal? = none) {assigneeIds : Json}
    (h : (createTask d assigneeIds s).1 = .error e) :
    (s.db.checkDraft d assigneeIds = .error e ∧ (createTask d assigneeIds s).2 = s) ∨
      ∃ wanted, s.db.insertTask s.now (s.nextId .task) d wanted = .error e ∧
        (createTask d assigneeIds s).2 = s.useIds .task 1 := by
  have asked : query (·.checkDraft d assigneeIds) s = (s.db.checkDraft d assigneeIds, s) := by
    simp only [query, reachable]
  unfold createTask at h ⊢
  cases checked : s.db.checkDraft d assigneeIds with
  | error e' =>
    rw [checked] at asked
    rw [Run.bind_of_error asked] at h ⊢
    obtain rfl := Except.error.inj h
    exact .inl ⟨rfl, rfl⟩
  | ok wanted =>
    rw [checked] at asked
    rw [Run.bind_of_ok asked] at h ⊢
    cases made : s.db.insertTask s.now (s.nextId .task) d wanted with
    | error e' =>
      rw [insert_error reachable made] at h ⊢
      obtain rfl := Except.error.inj h
      exact .inr ⟨wanted, made, rfl⟩
    | ok p =>
      rw [insert_ok reachable made] at h
      cases h

/-- A call that is refused as taken, on a store that can be reached. -/
theorem taken_of_createTask (reachable : s.refusal? = none) (project : d.projectId = .str projectId)
    (number : d.number = .int n) (hslug : d.slug = .str slug) {assigneeIds : Json}
    (h : (createTask d assigneeIds s).1 = .error e) (taken : isTaken e = true) :
    s.db.HasNumber projectId n ∨ s.db.HasSlug projectId slug := by
  rcases createTask_failed reachable h with ⟨checked, -⟩ | ⟨wanted, made, -⟩
  · exact (not_taken (s.db.checkDraft_fails d assigneeIds _ checked) taken).elim
  · exact Database.taken_of_insertTask project number hslug made taken

/-- A call that asks for a number or a slug that the project has. -/
theorem createTask_clashing (reachable : s.refusal? = none) (hd : d.Proper projectId slug n)
    {statusId : String} (hstatusId : d.statusId = .str statusId) (hstatus : s.db.HasStatus statusId)
    {ids : List String} (husers : ∀ id ∈ ids, s.db.HasUser id)
    (h : s.db.HasNumber projectId n ∨ s.db.HasSlug projectId slug) :
    createTask d (Action.textsJson ids) s =
      (.error (.sequenceTaken d.projectId d.number d.slug), s.useIds .task 1) := by
  obtain ⟨wanted, called⟩ := createTask_checked reachable hstatusId hstatus husers
  rw [called]
  exact insert_error reachable (Database.insertTask_clashing hd h _ _ wanted)

end Store
end TaskRules
