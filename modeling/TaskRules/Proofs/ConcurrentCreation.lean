import Mathlib.Data.Fintype.EquivFin
import TaskRules.Proofs.ReadyWorld

/-!
Actions that create tasks of one project at the same time. The runs share a world and take turns,
one request at a time, in any order; others may take steps in between that leave the project, its
tasks and what the runs look up alone (`Harmless`). Looking up the next number and claiming it are
two turns, so a claim can come too late; but every claim that is lost was won by another run, and
with as many attempts as there are runs the last one is never lost.

The invariant (`Course`) keeps the runs that have created a task in the order in which they did.
The `n`th of them, counted from 0, has number `m + 1 + n`, where `m` was the largest number before.
A run that has lost claims can name as many runs that created a task.

Proved:
- `advance_course`, `others_course`: a turn of a run and a step of others keep the invariant.
- `plays_course`: so does every interleaving.
- `runs_number_consecutively`: every run ends after a bounded number of its turns, none fails, and
  when all have ended their tasks have the numbers `m + 1` to `m + k`, each once, and the slugs that
  go with them, after the tasks that were there.
- `a_lone_half_is_not_stored`: a run whose title holds a lone half fails, though its configuration
  was read.
-/

namespace TaskRules.Engine
open TaskRules.Action

variable {k : Nat}

/-! ## Interleavings -/

/-- Runs, and the world that they share. -/
structure System (k : Nat) where
  world : World
  runs : Fin k → Script (Option Result)

/-- A turn of a run: its next request is answered. A run that has ended does nothing. -/
def System.advance (s : Setup) (sys : System k) (i : Fin k) : System k :=
  match sys.runs i with
  | .done _ => sys
  | .ask q next =>
    { world := (s.answer q sys.world).2
      runs := Function.update sys.runs i (next (s.answer q sys.world).1) }

/-- What runs and others make of a system in some order, with the number of turns of each run. -/
inductive Plays (s : Setup) (others : World → World → Prop) (sys : System k) :
    (Fin k → Nat) → System k → Prop
  | start : Plays s others sys (fun _ => 0) sys
  | turn {turns : Fin k → Nat} {sys' : System k} (h : Plays s others sys turns sys') (i : Fin k) :
      Plays s others sys (Function.update turns i (turns i + 1)) (sys'.advance s i)
  | other {turns : Fin k → Nat} {sys' : System k} {w : World} (h : Plays s others sys turns sys')
      (step : others sys'.world w) : Plays s others sys turns { sys' with world := w }

/-- The turns of a schedule, its last turn first. -/
def System.play (s : Setup) (sys : System k) : List (Fin k) → System k
  | [] => sys
  | i :: rest => (sys.play s rest).advance s i

theorem plays_schedule (s : Setup) (others : World → World → Prop) (sys : System k) :
    ∀ schedule : List (Fin k), Plays s others sys (fun i => schedule.count i) (sys.play s schedule)
  | [] => .start
  | i :: rest => by
    have hturn := (plays_schedule s others sys rest).turn i
    have hcount : (fun j => (i :: rest).count j) =
        Function.update (fun j => rest.count j) i (rest.count i + 1) := by
      funext j
      rcases eq_or_ne j i with rfl | hj
      · simp
      · simp [hj, hj.symm]
    rw [hcount]
    exact hturn

/-- Dispatches of actions that create tasks, before their first turns. -/
def dispatched (maxAttempts : Json) (w : World) (config payload : Fin k → Json)
    (asked : Fin k → Creation) : System k where
  world := w
  runs i := (Registry.standard maxAttempts).dispatch (.str "CREATE_TASK") (config i)
    (Payload.read (payload i)) (asked i).context

/-- Whether a run has ended. -/
def System.Ended (sys : System k) (i : Fin k) : Prop := ∃ r, sys.runs i = .done r

/-! ## What the runs rely on -/

/-- A step of others that leaves alone the project's tasks and what the creations rely on. -/
structure Harmless (project : Project) (asked : Fin k → Creation) (w w' : World) : Prop where
  ready : Ready project asked w → Ready project asked w'
  statuses : ∀ id, w.store.db.HasStatus id → w'.store.db.HasStatus id
  tasks : w'.store.db.tasks.filter (·.projectId == project.id) =
    w.store.db.tasks.filter (·.projectId == project.id)

/-- Tasks that no step of others touches. -/
def Spared (others : World → World → Prop) (keep : Task → Bool) : Prop :=
  ∀ w w', others w w' → w'.store.db.tasks.filter keep = w.store.db.tasks.filter keep

/-- Room for `k` tasks after number `m`: integers that fit the database, and free slugs. -/
structure Room (project : Project) (m : Int) (k : Nat) (db : Database) : Prop where
  largest : db.Largest project.id m
  low : Word.smallest ≤ m
  high : m + k ≤ Word.largest
  slugs : ∀ n, m < n → n ≤ m + k → ∀ t ∈ db.tasks, t.projectId = project.id →
    t.slug ≠ numberedSlug project n

/-! ## Tasks in a row -/

/-- Tasks of a project with consecutive numbers from `m + 1` on. -/
def Consecutive (project : Project) (m : Int) (new : List Task) : Prop :=
  ∀ (n : Nat) (t : Task), new[n]? = some t → t.projectId = project.id ∧
    t.number = .int (m + 1 + n) ∧ t.slug = numberedSlug project (m + 1 + n)

/-- A database with tasks of a project after those that another has of it. -/
def Extends (project : Project) (db₀ : Database) (new : List Task) (db : Database) : Prop :=
  db.tasks.filter (·.projectId == project.id) =
    db₀.tasks.filter (·.projectId == project.id) ++ new

section Numbers
variable {project : Project} {m : Int} {new : List Task} {db₀ db : Database}

theorem Consecutive.append (h : Consecutive project m new) {t : Task}
    (hproject : t.projectId = project.id) (hnumber : t.number = .int (m + 1 + new.length))
    (hslug : t.slug = numberedSlug project (m + 1 + new.length)) :
    Consecutive project m (new ++ [t]) := by
  intro n u hu
  rcases Nat.lt_or_ge n new.length with hn | hn
  · rw [List.getElem?_append_left hn] at hu
    exact h n u hu
  · rw [List.getElem?_append_right hn] at hu
    rw [List.getElem?_singleton] at hu
    split at hu
    · obtain rfl : n = new.length := by omega
      cases hu
      exact ⟨hproject, hnumber, hslug⟩
    · cases hu

theorem Consecutive.filter_self (h : Consecutive project m new) :
    new.filter (·.projectId == project.id) = new := by
  rw [List.filter_eq_self]
  intro t ht
  obtain ⟨n, hn⟩ := List.getElem?_of_mem ht
  simpa using (h n t hn).1

theorem Extends.mem_iff (h : Extends project db₀ new db) {t : Task} :
    t ∈ db.tasks ∧ t.projectId = project.id ↔
      (t ∈ db₀.tasks ∧ t.projectId = project.id) ∨ t ∈ new := by
  have hmem : ∀ db : Database, t ∈ db.tasks.filter (·.projectId == project.id) ↔
      t ∈ db.tasks ∧ t.projectId = project.id := by
    intro db
    rw [List.mem_filter, beq_iff_eq]
  rw [← hmem db, h, List.mem_append, hmem]

/-- The largest number after tasks in a row. -/
theorem Extends.largest (h : Extends project db₀ new db) (hnew : Consecutive project m new)
    (hm : db₀.Largest project.id m) : db.Largest project.id (m + new.length) := by
  constructor
  · intro t ht hp
    rcases h.mem_iff.mp ⟨ht, hp⟩ with ⟨hold, -⟩ | hmem
    · obtain ⟨n, hn, hle⟩ := hm.whole t hold hp
      exact ⟨n, hn, by omega⟩
    · obtain ⟨n, hn⟩ := List.getElem?_of_mem hmem
      obtain ⟨hlt, -⟩ := List.getElem?_eq_some_iff.mp hn
      exact ⟨_, (hnew n t hn).2.1, by omega⟩
  · rcases Nat.eq_zero_or_pos new.length with hzero | hpos
    · obtain rfl := List.eq_nil_of_length_eq_zero hzero
      rcases hm.attained with ⟨t, ht, hp, hn⟩ | ⟨rfl, hnone⟩
      · obtain ⟨ht, -⟩ := h.mem_iff.mpr (.inl ⟨ht, hp⟩)
        exact .inl ⟨t, ht, hp, by simpa using hn⟩
      · refine .inr ⟨by simp, fun t ht hp => ?_⟩
        rcases h.mem_iff.mp ⟨ht, hp⟩ with ⟨hold, -⟩ | hmem
        · exact hnone t hold hp
        · cases hmem
    · have hlast : new[new.length - 1]? = some new[new.length - 1] :=
        List.getElem?_eq_getElem (by omega)
      obtain ⟨hp, hn, -⟩ := hnew _ _ hlast
      obtain ⟨ht, -⟩ := h.mem_iff.mpr (.inr (List.mem_of_getElem? hlast))
      refine .inl ⟨_, ht, hp, ?_⟩
      rw [hn]
      congr 1
      omega

/-- The number after tasks in a row is free. -/
theorem Extends.free (h : Extends project db₀ new db) (hnew : Consecutive project m new)
    (hroom : Room project m k db₀) (hlt : new.length < k) :
    db.Free project.id (numberedSlug project (m + 1 + new.length)) (m + 1 + new.length) := by
  intro t ht hp
  rcases h.mem_iff.mp ⟨ht, hp⟩ with ⟨hold, -⟩ | hmem
  · obtain ⟨n, hn, hle⟩ := hroom.largest.whole t hold hp
    constructor
    · rw [hn]
      intro heq
      cases heq
      omega
    · exact hroom.slugs _ (by omega) (by omega) t hold hp
  · obtain ⟨n, hn⟩ := List.getElem?_of_mem hmem
    obtain ⟨hn', -⟩ := List.getElem?_eq_some_iff.mp hn
    obtain ⟨-, hnumber, hslug⟩ := hnew n t hn
    constructor
    · rw [hnumber]
      intro heq
      have := Quantity.int.inj heq
      omega
    · rw [hslug]
      intro heq
      have := numberedSlug_injective heq
      omega

end Numbers

/-! ## The invariant -/

/-- The task that a run reports is the one that it added. -/
def Listed (order : List (Fin k)) (new : List Task) (i : Fin k) (t : TaskView) : Prop :=
  ∃ (n : Nat) (u : Task), order[n]? = some i ∧ new[n]? = some u ∧
    t.id = u.id ∧ t.number = u.number ∧ t.slug = u.slug

/-- What a run in some phase knows of the runs that have created tasks: it is one of them when its
task is there, and before that each claim that it lost was won by one of them. -/
def Placed (db : Database) (order : List (Fin k)) (new : List Task) (m : Int) (attempts : Nat)
    (i : Fin k) : Phase → Prop
  | .finding => i ∉ order
  | .choosing => i ∉ order
  | .looking statusId left => i ∉ order ∧ db.HasStatus statusId ∧ attempts ≤ left + 1 + order.length
  | .claiming statusId left number => i ∉ order ∧ db.HasStatus statusId ∧
      ∃ seen ≤ order.length, number = m + 1 + seen ∧ attempts ≤ left + 1 + seen
  | .noting statusId left => i ∉ order ∧ db.HasStatus statusId ∧ attempts ≤ left + 1 + order.length
  | .telling t => Listed order new i t
  | .ended t => Listed order new i t

/-- Where the runs are after some turns: `order` are those that have created a task, in the order in
which they did, and `new` their tasks. -/
structure Course (project : Project) (asked : Fin k → Creation) (m : Int) (attempts : Nat)
    (others : World → World → Prop) (w₀ : World) (turns : Fin k → Nat) (sys : System k)
    (phase : Fin k → Phase) (order : List (Fin k)) (new : List Task) : Prop where
  ready : Ready project asked sys.world
  stage : ∀ i, Stage project attempts (asked i) (phase i) (sys.runs i)
  budget : ∀ i, (phase i).todo attempts ≤ 3 * attempts + 2 - turns i
  nodup : order.Nodup
  count : new.length = order.length
  row : Consecutive project m new
  tasks : ∀ keep, Spared others keep → sys.world.store.db.tasks.filter keep =
    w₀.store.db.tasks.filter keep ++ new.filter keep
  placed : ∀ i, Placed sys.world.store.db order new m attempts i (phase i)

section Steps
variable {project : Project} {asked : Fin k → Creation} {m : Int} {attempts : Nat}
  {others : World → World → Prop} {w₀ : World} {turns : Fin k → Nat} {sys : System k}
  {phase : Fin k → Phase} {order : List (Fin k)} {new : List Task}

theorem Listed.append {i : Fin k} {t : TaskView} (h : Listed order new i t)
    (later : List (Fin k)) (more : List Task) : Listed (order ++ later) (new ++ more) i t := by
  obtain ⟨n, u, hn, hu, hsame⟩ := h
  obtain ⟨hn', -⟩ := List.getElem?_eq_some_iff.mp hn
  obtain ⟨hu', -⟩ := List.getElem?_eq_some_iff.mp hu
  refine ⟨n, u, ?_, ?_, hsame⟩
  · rwa [List.getElem?_append_left hn']
  · rwa [List.getElem?_append_left hu']

/-- What a run knows stays true while others add tasks and statuses stay. -/
theorem Placed.mono {db db' : Database} {i : Fin k} {p : Phase}
    (h : Placed db order new m attempts i p) (later : List (Fin k)) (more : List Task)
    (hi : i ∉ later) (hstatuses : ∀ id, db.HasStatus id → db'.HasStatus id) :
    Placed db' (order ++ later) (new ++ more) m attempts i p := by
  have hout : i ∉ order → i ∉ order ++ later := by
    intro hnot hmem
    rcases List.mem_append.mp hmem with hmem | hmem
    · exact hnot hmem
    · exact hi hmem
  have hlength : order.length ≤ (order ++ later).length := by simp
  cases p with
  | finding => exact hout h
  | choosing => exact hout h
  | looking statusId left =>
    obtain ⟨hnot, hstatus, hleft⟩ := h
    exact ⟨hout hnot, hstatuses _ hstatus, by omega⟩
  | claiming statusId left number =>
    obtain ⟨hnot, hstatus, seen, hseen, hnumber, hleft⟩ := h
    exact ⟨hout hnot, hstatuses _ hstatus, seen, by omega, hnumber, hleft⟩
  | noting statusId left =>
    obtain ⟨hnot, hstatus, hleft⟩ := h
    exact ⟨hout hnot, hstatuses _ hstatus, by omega⟩
  | telling t => exact Listed.append h later more
  | ended t => exact Listed.append h later more

theorem spared_own (harmless : ∀ w w', others w w' → Harmless project asked w w') :
    Spared others (·.projectId == project.id) :=
  fun w w' step => (harmless w w' step).tasks

theorem Course.extends_tasks
    (h : Course project asked m attempts others w₀ turns sys phase order new)
    (harmless : ∀ w w', others w w' → Harmless project asked w w') :
    Extends project w₀.store.db new sys.world.store.db := by
  have own := h.tasks _ (spared_own harmless)
  rwa [h.row.filter_self] at own

theorem stage_update {i : Fin k} {p : Phase} {x : Script (Option Result)}
    (h : ∀ j, Stage project attempts (asked j) (phase j) (sys.runs j))
    (stage : Stage project attempts (asked i) p x) (j : Fin k) :
    Stage project attempts (asked j) (Function.update phase i p j)
      (Function.update sys.runs i x j) := by
  rcases eq_or_ne j i with rfl | hj
  · simpa using stage
  · simpa [hj] using h j

theorem budget_update {i : Fin k} {p : Phase}
    (h : ∀ j, (phase j).todo attempts ≤ 3 * attempts + 2 - turns j)
    (fewer : p.todo attempts + 1 ≤ (phase i).todo attempts) (j : Fin k) :
    (Function.update phase i p j).todo attempts ≤
      3 * attempts + 2 - Function.update turns i (turns i + 1) j := by
  have hi := h i
  rcases eq_or_ne j i with rfl | hj
  · simp only [Function.update_self]
    omega
  · simpa [hj] using h j

/-- A turn of a run that adds no task. -/
theorem Course.move (h : Course project asked m attempts others w₀ turns sys phase order new)
    {i : Fin k} {w : World} {x : Script (Option Result)} {p : Phase}
    (ready : Ready project asked w) (hdb : w.store.db = sys.world.store.db)
    (stage : Stage project attempts (asked i) p x)
    (fewer : p.todo attempts + 1 ≤ (phase i).todo attempts)
    (placed : Placed sys.world.store.db order new m attempts i p) :
    Course project asked m attempts others w₀ (Function.update turns i (turns i + 1))
      ⟨w, Function.update sys.runs i x⟩ (Function.update phase i p) order new := by
  refine ⟨ready, stage_update h.stage stage, budget_update h.budget fewer, h.nodup, h.count, h.row,
    ?_, ?_⟩
  · rw [hdb]
    exact h.tasks
  · intro j
    rw [hdb]
    rcases eq_or_ne j i with rfl | hj
    · simpa using placed
    · simpa [hj] using h.placed j

/-- A turn of a run that adds a task. -/
theorem Course.claim (h : Course project asked m attempts others w₀ turns sys phase order new)
    {i : Fin k} {w : World} {x : Script (Option Result)} {t : Task} {v : TaskView}
    (ready : Ready project asked w)
    (added : Added project (m + 1 + order.length) sys.world w t) (hi : i ∉ order)
    (hv : v.id = t.id ∧ v.number = t.number ∧ v.slug = t.slug)
    (stage : Stage project attempts (asked i) (.telling v) x)
    (fewer : (Phase.telling v).todo attempts + 1 ≤ (phase i).todo attempts) :
    Course project asked m attempts others w₀ (Function.update turns i (turns i + 1))
      ⟨w, Function.update sys.runs i x⟩ (Function.update phase i (.telling v)) (order ++ [i])
      (new ++ [t]) := by
  have hnodup : (order ++ [i]).Nodup := by
    rw [List.nodup_append]
    refine ⟨h.nodup, List.nodup_singleton i, ?_⟩
    intro a ha b hb
    rw [List.mem_singleton.mp hb]
    rintro rfl
    exact hi ha
  have hrow : Consecutive project m (new ++ [t]) := by
    refine h.row.append added.projectId ?_ ?_
    · rw [added.number, h.count]
    · rw [added.slug, h.count]
  refine ⟨ready, stage_update h.stage stage, budget_update h.budget fewer, hnodup,
    by simp [h.count], hrow, ?_, ?_⟩
  · intro keep hkeep
    rw [added.tasks, List.filter_append, List.filter_append, h.tasks keep hkeep, List.append_assoc]
  · intro j
    rcases eq_or_ne j i with rfl | hj
    · rw [Function.update_self]
      exact ⟨order.length, t, by simp, by simp [← h.count], hv⟩
    · rw [Function.update_of_ne hj]
      exact (h.placed j).mono [i] [t] (by simpa using hj) added.statuses

/-- What the runs and their surroundings promise. -/
structure Promises (project : Project) (maxAttempts : Int) (config payload : Fin k → Json)
    (asked : Fin k → Creation) (m : Int) (others : World → World → Prop) (w : World) : Prop where
  asks : ∀ i, Asks project (config i) (payload i) (asked i)
  storable : ∀ i, Storable (asked i)
  ready : Ready project asked w
  room : Room project m k w.store.db
  enough : k ≤ maxAttempts
  harmless : ∀ w w', others w w' → Harmless project asked w w'

variable {maxAttempts : Int} {config payload : Fin k → Json}

/-- Fewer runs than there are have created a task while one has not. -/
theorem length_lt_of_absent {i : Fin k} (hnodup : order.Nodup) (hi : i ∉ order) :
    order.length < k := by
  have hcons : (i :: order).Nodup := List.nodup_cons.mpr ⟨hi, hnodup⟩
  have hcard := hcons.length_le_card
  rw [Fintype.card_fin, List.length_cons] at hcard
  omega

theorem fits_within {n : Int} (hlow : Word.smallest ≤ n) (hhigh : n ≤ Word.largest) :
    Word.fits n = true := by
  simp [Word.fits, hlow, hhigh]

/-- A turn of a run that has ended. -/
theorem Course.idle (h : Course project asked m attempts others w₀ turns sys phase order new)
    {i : Fin k} {t : TaskView} (hp : phase i = .ended t) :
    Course project asked m attempts others w₀ (Function.update turns i (turns i + 1)) sys phase
      order new := by
  refine { h with budget := fun j => ?_ }
  rcases eq_or_ne j i with rfl | hj
  · rw [hp]
    exact Nat.zero_le _
  · simpa [hj] using h.budget j

theorem advance_of_ask {s : Setup} {i : Fin k} {q : Request}
    {next : Except Fault q.Answer → Script (Option Result)} {r : Except Fault q.Answer} {w : World}
    (hrun : sys.runs i = .ask q next) (hanswer : s.answer q sys.world = (r, w)) :
    sys.advance s i = ⟨w, Function.update sys.runs i (next r)⟩ := by
  rw [System.advance, hrun]
  dsimp only
  rw [hanswer]

/-- A turn of a run keeps the invariant. -/
theorem advance_course (s : Setup)
    (promises : Promises project maxAttempts config payload asked m others w₀)
    (hattempts : k ≤ attempts)
    (h : Course project asked m attempts others w₀ turns sys phase order new) (i : Fin k) :
    ∃ phase' order' new', Course project asked m attempts others w₀
      (Function.update turns i (turns i + 1)) (sys.advance s i) phase' order' new' := by
  have hpos : 1 ≤ attempts := by
    have := i.isLt
    omega
  have hasks := promises.asks i
  have hstorable := promises.storable i
  have hwhole := hasks.project_whole
  have hext := h.extends_tasks promises.harmless
  have hstage := h.stage i
  have hplaced := h.placed i
  generalize hp : phase i = p at hstage hplaced
  generalize hx : sys.runs i = x at hstage
  cases hstage with
  | @finding next rest =>
    rw [hasks.target] at hx
    rw [advance_of_ask hx (finds_project s h.ready hwhole)]
    have hstatus := h.ready.statuses i
    refine ⟨_, _, _, h.move h.ready rfl rest ?_ ?_⟩
    · rw [hp, Creation.chosen]
      split <;> simp only [Phase.todo] <;> omega
    · rw [StatusThere] at hstatus
      rw [Creation.chosen]
      cases hchosen : orElse (asked i).config.statusId none with
      | some id =>
        rw [hchosen] at hstatus
        exact ⟨hplaced, hstatus, by omega⟩
      | none => exact hplaced
  | @choosing next unset rest =>
    have hstatus := h.ready.statuses i
    rw [StatusThere, unset] at hstatus
    obtain ⟨workflow, id, hworkflow, hne, hwhole', hdefault, hid, hstatus⟩ := hstatus
    rw [advance_of_ask hx (finds_status s h.ready hworkflow hne hwhole' hdefault)]
    refine ⟨_, _, _, h.move h.ready rfl (rest id hid) ?_ ⟨hplaced, hstatus, by omega⟩⟩
    rw [hp]
    simp only [Phase.todo]
    omega
  | @looking statusId left next rest =>
    -- the number that is given counts the tasks added so far
    obtain ⟨hnot, hstatus, hleft⟩ := hplaced
    have hlargest := hext.largest h.row promises.room.largest
    rw [h.count] at hlargest
    rw [advance_of_ask hx (gives_number s h.ready hwhole hlargest)]
    refine ⟨_, _, _, h.move h.ready rfl (rest _) ?_
      ⟨hnot, hstatus, order.length, le_rfl, ?_, hleft⟩⟩
    · rw [hp]
      simp only [Phase.todo]
      omega
    · omega
  | @claiming statusId left number next granted taken =>
    obtain ⟨hnot, hstatus, seen, hseen, rfl, hleft⟩ := hplaced
    have hlt := length_lt_of_absent h.nodup hnot
    have hlow := promises.room.low
    have hhigh := promises.room.high
    have hfits : Word.fits (m + 1 + seen) = true := fits_within (by omega) (by omega)
    rcases Nat.eq_or_lt_of_le hseen with rfl | hlate
    · -- no run has claimed a number since the look-up
      have hfree := hext.free h.row promises.room (by rw [h.count]; exact hlt)
      rw [h.count] at hfree
      obtain ⟨t, v, w', hanswer, ready, added, hv⟩ :=
        grants_claim s h.ready hasks hstorable hstatus hfits hfree
      rw [advance_of_ask hx hanswer]
      refine ⟨_, _, _, h.claim ready added hnot hv (granted v) ?_⟩
      rw [hp]
      simp only [Phase.todo]
      omega
    · -- the number went to the run that claimed it first, so an attempt is left
      obtain ⟨less, rfl⟩ : ∃ less, left = less + 1 := ⟨left - 1, by omega⟩
      have hmem : seen < new.length := by rw [h.count]; exact hlate
      obtain ⟨hproject, hnumber, -⟩ := h.row seen _ (List.getElem?_eq_getElem hmem)
      obtain ⟨hu, -⟩ := hext.mem_iff.mpr (.inr (List.getElem_mem hmem))
      obtain ⟨p, n, slug, w', hanswer, ready, hdb⟩ :=
        refuses_claim s h.ready hasks hstorable hstatus hfits hu hproject hnumber
      rw [advance_of_ask hx hanswer]
      refine ⟨_, _, _, h.move ready hdb (taken less rfl p n slug) ?_ ⟨hnot, hstatus, by omega⟩⟩
      rw [hp]
      simp only [Phase.todo]
      omega
  | @noting statusId left r next rest =>
    have hanswer : s.answer (.log r) sys.world = (.ok (), (s.answer (.log r) sys.world).2) := rfl
    rw [advance_of_ask hx hanswer]
    refine ⟨_, _, _, h.move (h.ready.aside rfl rfl) rfl rest ?_ hplaced⟩
    rw [hp]
    simp only [Phase.todo]
    omega
  | @telling t e next rest =>
    obtain ⟨-, hstore, hovertaken⟩ := emit_keeps s e sys.world
    rw [advance_of_ask hx (emit_answer s e sys.world)]
    refine ⟨_, _, _, h.move (h.ready.aside hstore hovertaken) (congrArg Store.db hstore) rest ?_
      hplaced⟩
    rw [hp]
    exact Nat.le_refl 1
  | ended t =>
    have hsame : sys.advance s i = sys := by rw [System.advance, hx]
    rw [hsame]
    exact ⟨_, _, _, h.idle hp⟩

/-- A step of others keeps the invariant. -/
theorem others_course (promises : Promises project maxAttempts config payload asked m others w₀)
    (h : Course project asked m attempts others w₀ turns sys phase order new) {w : World}
    (step : others sys.world w) :
    Course project asked m attempts others w₀ turns { sys with world := w } phase order new := by
  have harmless := promises.harmless _ _ step
  refine ⟨harmless.ready h.ready, h.stage, h.budget, h.nodup, h.count, h.row, ?_, ?_⟩
  · intro keep hkeep
    rw [← h.tasks keep hkeep]
    exact hkeep _ _ step
  · intro i
    simpa using (h.placed i).mono [] [] List.not_mem_nil harmless.statuses

/-- Every interleaving keeps the invariant. -/
theorem plays_course (s : Setup)
    (promises : Promises project maxAttempts config payload asked m others w₀)
    (hattempts : k ≤ attempts) {sys₀ : System k}
    (h : Course project asked m attempts others w₀ (fun _ => 0) sys₀ phase order new)
    (plays : Plays s others sys₀ turns sys) :
    ∃ phase' order' new',
      Course project asked m attempts others w₀ turns sys phase' order' new' := by
  induction plays with
  | start => exact ⟨_, _, _, h⟩
  | turn plays i ih =>
    obtain ⟨phase', order', new', h'⟩ := ih
    exact advance_course s promises hattempts h' i
  | other plays step ih =>
    obtain ⟨phase', order', new', h'⟩ := ih
    exact ⟨_, _, _, others_course promises h' step⟩

/-- The runs start their courses. -/
theorem dispatched_course (promises : Promises project maxAttempts config payload asked m others w₀)
    (hattempts : attemptsOf (.int maxAttempts) = .ok attempts) :
    Course project asked m attempts others w₀ (fun _ => 0)
      (dispatched (.int maxAttempts) w₀ config payload asked) (fun _ => .finding) [] [] := by
  refine ⟨promises.ready, ?_, fun i => le_rfl, List.nodup_nil, rfl, ?_, ?_, ?_⟩
  · intro i
    obtain ⟨fields, hfields, hread⟩ := (promises.asks i).config
    dsimp only [dispatched]
    rw [hfields, (promises.asks i).payload]
    exact dispatch_stage hattempts hread project
  · intro n t ht
    cases ht
  · intro keep _
    exact (List.append_nil _).symm
  · intro i
    exact List.not_mem_nil

/-! ## All runs -/

/-- What the runs leave when all have ended: each reports one of the tasks with the numbers `m + 1`
to `m + k`, and these come after the tasks that were there. -/
structure Numbered (project : Project) (m : Int) (others : World → World → Prop) (w₀ : World)
    (sys : System k) (place : Fin k → Fin k) (new : List Task) : Prop where
  once : Function.Bijective place
  count : new.length = k
  row : Consecutive project m new
  reported : ∀ i, ∃ t u, sys.runs i = .done (.ok (some (created t))) ∧
    new[(place i).val]? = some u ∧ t.id = u.id ∧ t.number = .int (m + 1 + (place i).val) ∧
    t.slug = numberedSlug project (m + 1 + (place i).val)
  kept : ∀ keep, Spared others keep → sys.world.store.db.tasks.filter keep =
    w₀.store.db.tasks.filter keep ++ new.filter keep

/-- A run that has ended is in the phase that says so. -/
theorem stage_of_done {j : Creation} {p : Phase} {r : Except Fault (Option Result)}
    (h : Stage project attempts j p (.done r)) :
    ∃ t, p = .ended t ∧ r = .ok (some (created t)) := by
  generalize hx : Script.done r = x at h
  cases h with
  | ended t =>
    cases hx
    exact ⟨t, rfl, rfl⟩
  | _ => cases hx

theorem stage_of_spent {j : Creation} {p : Phase} {x : Script (Option Result)}
    (h : Stage project attempts j p x) (hspent : p.todo attempts = 0) : ∃ r, x = .done r := by
  cases h with
  | ended t => exact ⟨_, rfl⟩
  | telling _ => cases hspent
  | _ =>
    simp only [Phase.todo] at hspent
    omega

/-- The places of the runs when each is in the order. -/
theorem places_of_order (hnodup : order.Nodup) {f : Fin k → Nat}
    (hf : ∀ i, order[f i]? = some i) :
    ∃ place : Fin k → Fin k, Function.Bijective place ∧ (∀ i, (place i).val = f i) ∧
      order.length = k := by
  have hbound : order.length ≤ k := by
    have hcard := hnodup.length_le_card
    rwa [Fintype.card_fin] at hcard
  have hlt : ∀ i, f i < order.length := fun i => (List.getElem?_eq_some_iff.mp (hf i)).1
  have hinj : ∀ i j, f i = f j → i = j := by
    intro i j heq
    have hi := hf i
    rw [heq, hf j] at hi
    exact (Option.some.inj hi).symm
  have hsurj : Function.Bijective fun i => (⟨f i, (hlt i).trans_le hbound⟩ : Fin k) :=
    Finite.injective_iff_bijective.mp fun i j heq => hinj i j (Fin.mk.inj heq)
  refine ⟨_, hsurj, fun i => rfl, le_antisymm hbound (Nat.le_of_not_lt fun hshort => ?_)⟩
  obtain ⟨i, hi⟩ := hsurj.surjective ⟨order.length, hshort⟩
  have := Fin.mk.inj hi
  have := hlt i
  omega

/-- Runs that create tasks of one project at the same time, with as many attempts as there are runs:
each ends after a bounded number of its turns, none fails, and their tasks get the next numbers of
the project, each once. -/
theorem runs_number_consecutively (s : Setup)
    (promises : Promises project maxAttempts config payload asked m others w₀)
    (plays : Plays s others (dispatched (.int maxAttempts) w₀ config payload asked) turns sys) :
    (∀ i, 3 * maxAttempts.toNat + 2 ≤ turns i → sys.Ended i) ∧
    (∀ i r, sys.runs i = .done r → ∃ t, r = .ok (some (created t))) ∧
    ((∀ i, sys.Ended i) → ∃ place new, Numbered project m others w₀ sys place new) := by
  have hattempts : attemptsOf (.int maxAttempts) = .ok (max 1 maxAttempts.toNat) := rfl
  have henough := promises.enough
  have hstart := dispatched_course promises hattempts
  obtain ⟨phase, order, new, h⟩ := plays_course s promises (by omega) hstart plays
  refine ⟨?_, ?_, ?_⟩
  · intro i hturns
    have hi := i.isLt
    have hbudget := h.budget i
    exact stage_of_spent (h.stage i) (by omega)
  · intro i r hr
    have hstage := h.stage i
    rw [hr] at hstage
    obtain ⟨t, -, hresult⟩ := stage_of_done hstage
    exact ⟨t, hresult⟩
  · intro hended
    have hlisted : ∀ i, ∃ t, sys.runs i = .done (.ok (some (created t))) ∧
        Listed order new i t := by
      intro i
      obtain ⟨r, hr⟩ := hended i
      have hstage := h.stage i
      have hplaced := h.placed i
      rw [hr] at hstage
      obtain ⟨t, hphase, rfl⟩ := stage_of_done hstage
      rw [hphase] at hplaced
      exact ⟨t, hr, hplaced⟩
    choose view hdone f task hf htask hsame using hlisted
    obtain ⟨place, hbijective, hplace, hlength⟩ := places_of_order h.nodup hf
    refine ⟨place, new, hbijective, h.count.trans hlength, h.row, ?_, h.tasks⟩
    intro i
    obtain ⟨hid, hnumber, hslug⟩ := hsame i
    obtain ⟨-, hrownumber, hrowslug⟩ := h.row _ _ (htask i)
    rw [hplace i]
    exact ⟨view i, task i, hdone i, htask i, hid, hnumber.trans hrownumber, hslug.trans hrowslug⟩

end Steps

/-! ## A project with one task -/

def newYear : Moment := ⟨⟨2024, 1, 1⟩, 0, 0, 0, 0⟩

def webProject : Project :=
  { id := "p-web", name := "Web", slug := "web", workflowId := none, createdAt := newYear,
    updatedAt := newYear }

def webWorld : World where
  store :=
    { db :=
        { projects := [webProject]
          statuses := [⟨"s-todo", "wf-1", "To Do", "TODO", .int 0, true⟩]
          tasks := [
            { id := Store.idOf .task 1, projectId := "p-web", number := .int 1, slug := "web-1"
              title := "Checkout page crashes", description := none, type := "BUG"
              priority := "HIGH", statusId := "s-todo", sprintId := none, parentTaskId := none
              dueDate := none, startDate := none, createdBy := none, updatedBy := none
              createdAt := newYear, updatedAt := newYear }] }
      used := fun _ => 1
      now := newYear }

def webConfig (title : String) : Json :=
  .obj [("projectId", .str "p-web"), ("title", .str title), ("statusId", .str "s-todo")]

def webCreation (title : String) : Creation where
  config :=
    { projectId := "p-web", title := some title, description := none, type := "TASK"
      priority := "MEDIUM", statusId := some "s-todo", assigneeIds := [], dueDate := none
      startDate := none, sprintId := none }
  payload := {}
  context := { ruleId := .str "r-1" }

/-- Runs that create tasks of one title, with as many attempts as there are runs. -/
def webRuns (k : Nat) (title : String) : System k :=
  dispatched (.int k) webWorld (fun _ => webConfig title) (fun _ => .null)
    (fun _ => webCreation title)

theorem webCreation_asks (title : String) :
    Asks webProject (webConfig title) .null (webCreation title) :=
  ⟨⟨_, rfl, rfl⟩, rfl, rfl⟩

theorem webWorld_ready (title : String) :
    Ready webProject (fun _ : Fin k => webCreation title) webWorld where
  usable := rfl
  current := rfl
  known := rfl
  slug := by decide
  unused := by
    intro n hn
    refine ⟨?_, List.forall_mem_nil _⟩
    intro t ht
    rw [List.mem_singleton.mp ht]
    intro heq
    obtain rfl := Store.idOf_injective heq
    exact absurd hn (by decide)
  statuses := fun _ => ⟨by decide, rfl⟩
  assignees := fun _ => List.forall_mem_nil _

theorem webWorld_room (h : k ≤ 2) : Room webProject 1 k webWorld.store.db where
  largest := by
    constructor
    · intro t ht _
      rw [List.mem_singleton.mp ht]
      exact ⟨1, rfl, le_rfl⟩
    · exact .inl ⟨_, List.mem_singleton.mpr rfl, rfl, rfl⟩
  low := by decide
  high := by
    show (1 : Int) + k ≤ 9223372036854775807
    omega
  slugs := by
    intro n hn _ t ht _
    rw [List.mem_singleton.mp ht]
    show numberedSlug webProject 1 ≠ numberedSlug webProject n
    intro heq
    have := numberedSlug_injective heq
    omega

/-- Two runs that take turns, eight each: both look up the same number, and one claims it first. -/
theorem two_runs_number_consecutively :
    Promises webProject 2 (fun _ : Fin 2 => webConfig "Follow up") (fun _ => .null)
        (fun _ => webCreation "Follow up") 1 (fun _ _ => False) webWorld ∧
      ∃ place new, Numbered webProject 1 (fun _ _ => False) webWorld
        ((webRuns 2 "Follow up").play {} (List.replicate 8 [0, 1]).flatten) place new := by
  have storable : Storable (webCreation "Follow up") :=
    ⟨writable_str (by decide), writable_null, writable_null, writable_null⟩
  have promises : Promises webProject 2 (fun _ : Fin 2 => webConfig "Follow up") (fun _ => .null)
      (fun _ => webCreation "Follow up") 1 (fun _ _ => False) webWorld :=
    { asks := fun _ => webCreation_asks _
      storable := fun _ => storable
      ready := webWorld_ready _
      room := webWorld_room le_rfl
      enough := le_rfl
      harmless := fun _ _ h => h.elim }
  have hturns : ∀ i : Fin 2, 8 ≤ (List.replicate 8 [0, 1]).flatten.count i := by decide
  obtain ⟨hends, -, hall⟩ := runs_number_consecutively {} promises (plays_schedule {} _
    (webRuns 2 "Follow up") (List.replicate 8 [0, 1]).flatten)
  exact ⟨promises, hall fun i => hends i (hturns i)⟩

/-- A title with a lone half is read, but when the task is added it cannot be written. -/
theorem a_lone_half_is_not_stored :
    let title := String.ofList (Text.ofPoint 0xD800)
    Asks webProject (webConfig title) .null (webCreation title) ∧
      Ready webProject (fun _ : Fin 1 => webCreation title) webWorld ∧
      Room webProject 1 1 webWorld.store.db ∧
      ∃ turns sys e, Plays {} (fun _ _ => False) (webRuns 1 title) turns sys ∧
        sys.runs 0 = .done (.error e) := by
  refine ⟨webCreation_asks _, webWorld_ready _, webWorld_room (by decide), ?_⟩
  exact ⟨_, _, _, plays_schedule _ _ _ [0, 0, 0], rfl⟩

end TaskRules.Engine
