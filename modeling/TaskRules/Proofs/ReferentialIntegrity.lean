import TaskRules.Proofs.Announcements
import TaskRules.Proofs.CreateTaskScript
import TaskRules.Proofs.References
import TaskRules.Store.Sample

/-!
Referential integrity over whole runs. An action names a task, and by its configuration users, a
status, a label or a project. Its one change is made only if they are there, so the references of
the database stay sound however many actions are dispatched. The users of a notification are the
exception: nobody looks them up, and a notification for a stranger is added like any other.

Proved:
- `perform_changes`, `dispatch_changes`: the change that an action asks for, given the database that
  it looked into, is founded: it succeeds only if what the action names is there, and it keeps the
  references.
- `trace_changes`: so is the first change of a run.
- `Dispatch.undone_or_settled`: one dispatch has done nothing, or it has found what it names and
  kept the references.
- `Succession.relinks`, `only_recipients_dangle`: what any number of dispatches leave of the
  references.
- `a_stranger_is_notified`: a notification for a user that is not there.
-/

namespace TaskRules.Action
open TaskRules.Engine

/-! ## What actions name -/

/-- The task that an action is about is there. -/
def TaskThere (db : Database) (configured : Option String) (payload : Json.Fields) : Prop :=
  ∃ id, taskIdOf configured payload = .ok id ∧ (db.task? id).isSome

/-- What an action names is there, except for the users of a notification. -/
def Config.Grounded (db : Database) (payload : Json.Fields) : Config → Prop
  | .assignTask c =>
    TaskThere db c.taskId payload ∧ ∀ user ∈ c.assigneeIds, (db.user? user).isSome
  | .changeStatus c => TaskThere db c.taskId payload ∧ (db.status? c.statusId).isSome
  | .addLabel c => TaskThere db c.taskId payload ∧ (db.label? c.labelId).isSome
  | .sendNotification _ => True
  | .addComment c => TaskThere db c.taskId payload
  | .changePriority c => TaskThere db c.taskId payload
  | .setDueDate c => TaskThere db c.taskId payload
  | .createTask c =>
    (db.project? c.projectId).isSome ∧
      (∀ status, orElse c.statusId none = some status → (db.status? status).isSome) ∧
      ∀ user ∈ c.assigneeIds, (db.user? user).isSome

/-- The users that an action sends a notification to. -/
def Config.recipients : Config → List String
  | .sendNotification c => c.recipients
  | _ => []

/-- A change is founded if it succeeds only when what the action names is there, and then keeps the
references, up to the users that the action notifies. -/
def Founded (s : Setup) (db : Database) (payload : Json.Fields) (c : Config) (q : Request) : Prop :=
  ∀ w w' a, w.store.db = db → s.answer q w = (.ok a, w') → c.Grounded db payload ∧
    ∀ strangers, (∀ id ∈ c.recipients, id ∈ strangers) → db.Relinks strangers w'.store.db

/-- A script that looks into one database until it makes a change that holds. -/
inductive Changes (s : Setup) (db : Database) (P : Request → Prop) : Script α → Prop
  | done (r : Except Fault α) : Changes s db P (.done r)
  | look {q : Request} {next : Except Fault q.Answer → Script α} (looks : q.looks = true)
      (rest : ∀ w, w.store.db = db → Changes s db P (next (s.answer q w).1)) :
      Changes s db P (.ask q next)
  | change {q : Request} {next : Except Fault q.Answer → Script α} (changes : q.changes = true)
      (lost : ∀ e, Changes s db P (next (.error e))) (holds : P q) : Changes s db P (.ask q next)

namespace Changes
variable {s : Setup} {db : Database} {P : Request → Prop}

theorem imp {R : Request → Prop} (hPR : ∀ q, P q → R q) {x : Script α} (h : Changes s db P x) :
    Changes s db R x := by
  induction h with
  | done r => exact .done r
  | look looks rest ih => exact .look looks ih
  | change changes lost holds ih => exact .change changes ih (hPR _ holds)

/-- Looking first, whatever is found. -/
theorem after {x : Script α} (hx : Looks x) {f : α → Script β} (hf : ∀ a, Changes s db P (f a)) :
    Changes s db P (x >>= f) := by
  induction hx with
  | done r =>
    cases r with
    | ok a => exact hf a
    | error e => exact .done (.error e)
  | ask looks rest ih => exact .look looks fun w _ => ih (s.answer _ w).1

/-- Going on with the result. -/
theorem map {x : Script α} (h : Changes s db P x) (f : α → β) :
    Changes s db P (x >>= fun a => pure (f a)) := by
  induction h with
  | done r => cases r <;> exact .done _
  | look looks rest ih => exact .look looks ih
  | change changes lost holds ih => exact .change changes ih holds

/-- A change, and anything after it. -/
theorem request (q : Request) (changes : q.changes = true) (holds : P q) (f : q.Answer → Script α) :
    Changes s db P (Script.request q >>= f) :=
  .change changes (fun e => .done (.error e)) holds

theorem settle {x : Script α} (h : Changes s db P x) (f : Except Fault α → Except Fault β) :
    Changes s db P (x.settle f) := by
  induction h with
  | done r => exact .done (f r)
  | look looks rest ih => exact .look looks ih
  | change changes lost holds ih => exact .change changes ih holds

end Changes

/-! ## Actions -/

variable {s : Setup} {db : Database} {payload : Json.Fields} {context : Context}

theorem update_founded {c : Config} {id : String} {changes : TaskChanges} {chosen : Option String}
    (status : changes.statusId = .ofText? chosen)
    (names : db.Found id changes → c.Grounded db payload) :
    Founded s db payload c (.updateTask (.str id) changes) := by
  rintro w w' task rfl answered
  have stored := ok_of_onStore answered
  obtain ⟨found, -⟩ := Database.updateTask_ok (Store.ok_of_mutate stored)
  exact ⟨names found, fun strangers _ => Store.updateTask_relinks stored status strangers⟩

/-- The change of the task that an action is about, and anything after it. -/
theorem onTask_changes {c : Config} {configured : Option String} {changes : TaskChanges}
    (chosen : Option String) (status : changes.statusId = .ofText? chosen)
    (names : TaskThere db configured payload → (∃ id, db.Found id changes) →
      c.Grounded db payload) (f : TaskView → Script Result) :
    Changes s db (Founded s db payload c) (change configured payload changes >>= f) := by
  unfold change
  cases about : taskIdOf configured payload with
  | error e => exact .done (.error e)
  | ok id =>
    refine .request _ rfl (update_founded status fun found => ?_) f
    exact names ⟨id, about, found.task⟩ ⟨id, found⟩

theorem notify_changes (c : SendNotification) (hc : c.recipients ≠ []) (p : Payload) :
    Changes s db (Founded s db payload (.sendNotification c)) (notify c p context) := by
  have changes : (Request.notify (c.recipients.map (noticeFor c context))).changes = true := by
    simp [Request.changes, hc]
  refine .request _ changes ?_ _
  rintro w w' ids rfl answered
  refine ⟨trivial, fun strangers among => Store.notify_relinks (ok_of_onStore answered) ?_⟩
  intro d hd
  obtain ⟨user, huser, rfl⟩ := List.mem_map.mp hd
  exact ⟨user, among user huser, rfl⟩

theorem comment_changes (c : AddComment) :
    Changes s db (Founded s db payload (.addComment c)) (comment c payload context) := by
  unfold comment
  cases about : taskIdOf c.taskId payload with
  | error e => exact .done (.error e)
  | ok id =>
    refine .request _ rfl ?_ _
    rintro w w' view rfl answered
    have stored := ok_of_onStore answered
    obtain ⟨task, -, htask, -⟩ := Store.comment_ok stored
    exact ⟨⟨id, about, Option.isSome_of_eq_some htask⟩,
      fun strangers _ => Store.comment_relinks stored strangers⟩

/-- The status of a new task is not empty, and the configured one if there is one. -/
theorem newStatus_changes {P : Request → Prop} {c : CreateTask} {project : Project}
    {f : String → Script α} (hf : ∀ id, id ≠ "" →
      (∀ chosen, orElse c.statusId none = some chosen → chosen = id) → Changes s db P (f id)) :
    Changes s db P (newStatus c project >>= f) := by
  have found : ∀ o : Option String, (∀ chosen, orElse c.statusId none = some chosen →
      o = some chosen) → Changes s db P (statusFound project o >>= f) := by
    intro o ho
    unfold statusFound
    cases filled : orElse o none with
    | none => exact .done _
    | some id =>
      refine hf id (orElse_filled filled) fun chosen hchosen => ?_
      rw [ho chosen hchosen, orElse_some (orElse_filled hchosen)] at filled
      exact Option.some.inj filled
  cases configured : orElse c.statusId none with
  | some id =>
    rw [newStatus_configured configured]
    exact found _ fun chosen hchosen => configured.symm.trans hchosen
  | none =>
    rw [newStatus_default configured]
    refine .look rfl fun w _ => ?_
    cases (s.answer (.defaultStatus (.ofText? project.workflowId)) w).1 with
    | error e => exact .done (.error e)
    | ok o =>
      refine found o fun chosen hchosen => ?_
      rw [configured] at hchosen
      cases hchosen

/-- Claiming a number, and anything after it. -/
theorem claimNumber_changes {P : Request → Prop} {draft : Int → Task.Draft}
    {assigneeIds : List String}
    (holds : ∀ number, P (.createTask (draft number) (textsJson assigneeIds))) (project : Project)
    (attempts remaining : Nat) (f : TaskView → Script α) :
    Changes s db P (claimNumber draft assigneeIds project attempts remaining >>= f) := by
  induction remaining with
  | zero =>
    refine .look rfl fun w _ => ?_
    cases (s.answer (.nextNumber (.str project.id)) w).1 with
    | error e => exact .done (.error e)
    | ok number => exact .change rfl (fun e => .done (.error e)) (holds number)
  | succ remaining ih =>
    refine .look rfl fun w _ => ?_
    cases (s.answer (.nextNumber (.str project.id)) w).1 with
    | error e => exact .done (.error e)
    | ok number =>
      refine .change rfl (fun e => ?_) (holds number)
      dsimp only
      by_cases taken : isTaken e = true
      · rw [if_pos taken]
        refine .look rfl fun w _ => ?_
        cases (s.answer (.log (takenNote number project (attempts - (remaining + 1)) attempts)) w).1
          with
        | error e => exact .done (.error e)
        | ok u => exact ih
      · rw [if_neg taken]
        exact .done (.error e)

/-- A new task for a project that is there, under a status that is not empty. -/
theorem newTask_founded {c : CreateTask} {project : Project}
    (there : db.project? c.projectId = some project) {statusId : String} (filled : statusId ≠ "")
    (configured : ∀ chosen, orElse c.statusId none = some chosen → chosen = statusId)
    (title : String) (number : Int) :
    Founded s db payload (.createTask c)
      (.createTask (newTask c title statusId context project number)
        (textsJson c.assigneeIds)) := by
  rintro w w' view rfl answered
  have stored := ok_of_createTask answered
  obtain ⟨wanted, _, _, hcheck, -⟩ := Store.createTask_ok stored
  obtain ⟨status, -, users⟩ := Database.checkDraft_found hcheck
  have projectThere := Option.isSome_of_eq_some there
  have same := Database.project?_id there
  refine ⟨⟨projectThere, ?_, users _ rfl⟩, fun strangers _ => ?_⟩
  · intro chosen hchosen
    rw [configured chosen hchosen]
    exact status statusId rfl filled
  · exact Store.createTask_relinks stored rfl (same ▸ projectThere) rfl filled strangers

theorem createTask_changes (maxAttempts : Json) (c : CreateTask) :
    Changes s db (Founded s db payload (.createTask c))
      (createTask maxAttempts c payload context) := by
  refine .look rfl fun w hw => ?_
  rcases hq : s.answer (.findProject (.str c.projectId)) w with ⟨r, w₁⟩
  cases r with
  | error e => exact .done (.error e)
  | ok found =>
    obtain ⟨looked, -⟩ := Store.ok_of_query (ok_of_onStore hq)
    obtain ⟨key, hkey, looked⟩ := ok_of_bind looked
    obtain ⟨-, rfl⟩ := Store.key?_ok hkey
    rw [Option.bind_some, hw] at looked
    cases found with
    | none => exact .done _
    | some project =>
      have there := Except.ok.inj looked
      refine newStatus_changes fun statusId filled configured => .after (.done _) fun attempts => ?_
      have founded : ∀ number, Founded s db payload (.createTask c) (.createTask
          (newTask c (newTitle c payload) statusId context project number)
          (textsJson c.assigneeIds)) := newTask_founded there filled configured _
      exact claimNumber_changes founded project attempts (attempts - 1) _

/-- The change that every action asks for is founded. -/
theorem perform_changes (maxAttempts : Json) (c : Config) (hc : c.Usable) (p : Payload) :
    Changes s db (Founded s db p.named c) (perform maxAttempts c p context) := by
  cases c with
  | assignTask c =>
    refine onTask_changes none rfl (fun task there => ?_) _
    obtain ⟨id, found⟩ := there
    exact ⟨task, found.users _ rfl⟩
  | changeStatus c =>
    refine onTask_changes (some c.statusId) rfl (fun task there => ?_) _
    obtain ⟨id, found⟩ := there
    exact ⟨task, found.status _ rfl⟩
  | addLabel c =>
    refine onTask_changes none rfl (fun task there => ?_) _
    obtain ⟨id, found⟩ := there
    exact ⟨task, found.labels [c.labelId] rfl _ (List.mem_singleton_self _)⟩
  | sendNotification c => exact notify_changes c hc p
  | addComment c => exact comment_changes c
  | changePriority c =>
    refine onTask_changes none rfl ?_ _
    exact fun task _ => task
  | setDueDate c =>
    refine onTask_changes none ?_ ?_ _
    · cases c.dueDate <;> rfl
    · exact fun task _ => task
  | createTask c => exact createTask_changes maxAttempts c

/-! ## Dispatch -/

/-- A change is founded on the configuration and the payload of a dispatch. -/
def FoundedOn (s : Setup) (db : Database) (kind config : Json) (payload : Except Fault Payload)
    (q : Request) : Prop :=
  ∃ c p, Reads kind config c ∧ payload = .ok p ∧ Founded s db p.named c q

/-- The change that a dispatch asks for is founded on the configuration that it reads. -/
theorem dispatch_changes (maxAttempts kind config : Json) (payload : Except Fault Payload)
    (context : Context) :
    Changes s db (FoundedOn s db kind config payload)
      ((Registry.standard maxAttempts).dispatch kind config payload context) := by
  refine dispatch_cases maxAttempts kind config payload context ?_ (fun _ => .done _)
    (fun _ => .done _) ?_
  · intro r text
    exact .after (.request (.log r) rfl) fun _ => .done _
  · intro c p reads hp
    refine .settle (.map ?_ some) _
    have performed : Changes s db (Founded s db p.named c) (perform maxAttempts c p context) :=
      perform_changes maxAttempts c reads.usable p
    exact performed.imp fun q founded => ⟨c, p, reads, hp, founded⟩

end TaskRules.Action

namespace TaskRules.Engine
open TaskRules.Action

/-! ## One dispatch -/

theorem run_extends (answer : (q : Request) → Run σ q.Answer) (x : Script α) (st : σ)
    (l : List Exchange) : ∃ made, (x.run (noted answer) (st, l)).2.2 = l ++ made := by
  induction x generalizing st l with
  | done r => exact ⟨[], (List.append_nil l).symm⟩
  | ask q next ih =>
    obtain ⟨made, hmade⟩ := ih (answer q st).1 (answer q st).2 (l ++ [⟨q, (answer q st).1⟩])
    exact ⟨⟨q, (answer q st).1⟩ :: made, hmade.trans (List.append_cons ..).symm⟩

/-- The first change of a run, if there is one, holds. -/
def FirstChange (P : Request → Prop) (made : List Exchange) : Prop :=
  ∀ before x after, made = before ++ x :: after → (∀ y ∈ before, y.Quiet) → x.Commits → P x.request

theorem FirstChange.cons {P : Request → Prop} {x : Exchange} {made : List Exchange}
    (quiet : x.Quiet) (h : FirstChange P made) : FirstChange P (x :: made) := by
  intro before y after split hbefore commits
  cases before with
  | nil =>
    obtain ⟨rfl, -⟩ := List.cons.inj split
    exact absurd commits quiet.1
  | cons z before =>
    exact h before y after (List.cons.inj split).2 (List.forall_mem_cons.mp hbefore).2 commits

/-- A run on the database that a script looks into starts with a change that holds, if it makes
any. -/
theorem trace_changes {s : Setup} {db : Database} {P : Request → Prop} {x : Script α}
    (h : Changes s db P x) {w : World} (hw : w.store.db = db) (l : List Exchange) :
    ∃ made, (x.run (noted s.answer) (w, l)).2.2 = l ++ made ∧ FirstChange P made := by
  induction h generalizing w l with
  | done r =>
    refine ⟨[], (List.append_nil l).symm, fun before x after split => ?_⟩
    cases before <;> cases split
  | @look q next looks rest ih =>
    have undone := look_undone s looks w
    obtain ⟨made, hmade, first⟩ := ih w hw (undone.db.trans hw) (l ++ [⟨q, (s.answer q w).1⟩])
    refine ⟨_, ?_, first.cons (Exchange.quiet_of_looks looks (s.answer q w).1)⟩
    exact hmade.trans (List.append_cons ..).symm
  | @change q next changes lost holds ih =>
    rcases hq : s.answer q w with ⟨r, w₁⟩
    rw [run_noted_ask hq]
    cases r with
    | error e =>
      have undone : Undone w w₁ := by
        have := change_undone s changes (w := w) (e := e) (by rw [hq])
        rwa [hq] at this
      obtain ⟨made, hmade, first⟩ := ih e (undone.db.trans hw) (l ++ [⟨q, .error e⟩])
      refine ⟨_, ?_, first.cons (Exchange.quiet_of_lost changes e)⟩
      exact hmade.trans (List.append_cons ..).symm
    | ok a =>
      obtain ⟨made, hmade⟩ := run_extends s.answer (next (.ok a)) w₁ (l ++ [⟨q, .ok a⟩])
      refine ⟨⟨q, .ok a⟩ :: made, hmade.trans (List.append_cons ..).symm, ?_⟩
      intro before x after split quiet commits
      cases before with
      | nil =>
        obtain ⟨rfl, -⟩ := List.cons.inj split
        exact holds
      | cons z before =>
        -- what comes before would be the change itself
        obtain ⟨rfl, -⟩ := List.cons.inj split
        exact absurd ⟨changes, a, rfl⟩ (quiet _ (List.mem_cons_self ..)).1

/-- A dispatch to the handlers of all kinds. -/
structure Dispatch where
  setup : Setup
  maxAttempts : Json
  kind : Json
  config : Json
  payload : Json
  context : Context

namespace Dispatch

/-- The setup, with the handlers of all kinds. -/
def engine (d : Dispatch) : Setup := { d.setup with registry := Registry.standard d.maxAttempts }

def run (d : Dispatch) : Run World (Option Result) :=
  d.engine.dispatch d.kind d.config d.payload d.context

/-- A dispatch that ends and reports success. -/
def Succeeds (d : Dispatch) (w : World) : Prop :=
  ∃ ending, (d.run w).1 = .ok ending ∧ ReportsSuccess ending

theorem succeeds_iff {d : Dispatch} {w : World} : d.Succeeds w ↔
    (match (d.run w).1 with
      | .ok (some r) => r.success.truthy
      | _ => false) = true := by
  constructor
  · rintro ⟨ending, hending, r, rfl, succeeded⟩
    rw [hending]
    exact succeeded
  · intro h
    split at h
    · rename_i r hr
      exact ⟨some r, hr, r, rfl, h⟩
    · cases h

instance (d : Dispatch) (w : World) : Decidable (d.Succeeds w) := decidable_of_iff' _ succeeds_iff

/-- The users that a dispatch notifies. -/
def invited (d : Dispatch) : List String :=
  match Registry.kind? d.kind, d.config with
  | some k, .obj fields =>
    match readFields k fields with
    | .ok c => c.recipients
    | .error _ => []
  | _, _ => []

theorem invited_of_reads {d : Dispatch} {c : Config} (h : Reads d.kind d.config c) :
    d.invited = c.recipients := by
  obtain ⟨k, fields, hkind, hconfig, hread⟩ := h
  rw [invited, hkind, hconfig]
  simp only [hread]

/-- What a dispatch leaves when it has found what its action names. -/
def Settled (d : Dispatch) (w : World) : Prop :=
  ∃ c p, Reads d.kind d.config c ∧ Payload.read d.payload = .ok p ∧
    c.Grounded w.store.db p.named ∧ ∀ strangers, (∀ id ∈ d.invited, id ∈ strangers) →
      w.store.db.Relinks strangers (d.run w).2.store.db

/-- The change of a dispatch is its first one, and founded. -/
theorem settled_of_done {d : Dispatch} {w : World} {made : List Exchange}
    (done : DoneOnce d.engine w (d.run w).2 made)
    (first : FirstChange (FoundedOn d.engine w.store.db d.kind d.config (Payload.read d.payload))
      made) : d.Settled w := by
  rcases done with @⟨before, after, x, w₁, w₂, undone, quiet, commits, answered, -, db⟩
  obtain ⟨c, p, reads, hp, founded⟩ := first before x after rfl quiet commits
  obtain ⟨-, a, ha⟩ := commits
  rw [ha] at answered
  obtain ⟨grounded, relinks⟩ := founded w₁ w₂ a undone.db answered
  refine ⟨c, p, reads, hp, grounded, fun strangers among => ?_⟩
  rw [db]
  rw [invited_of_reads reads] at among
  exact relinks strangers among

/-- A dispatch has done nothing, without success, or has found what its action names and kept the
references. -/
theorem undone_or_settled (d : Dispatch) (w : World) :
    (¬ d.Succeeds w ∧ Undone w (d.run w).2) ∨ d.Settled w := by
  obtain ⟨r, w', made, hnoted, hatomic⟩ := run_atomic d.engine
    (dispatch_oneChange d.maxAttempts d.kind d.config (Payload.read d.payload) d.context) w []
  have hrun : d.run w = (r, w') := run_of_noted hnoted
  obtain ⟨made', hmade, first⟩ := trace_changes (w := w)
    (dispatch_changes d.maxAttempts d.kind d.config (Payload.read d.payload) d.context) rfl []
  rw [hnoted] at hmade
  obtain rfl : made = made' := hmade
  rcases hatomic with ⟨undone, -, hidle⟩ | ⟨done, -⟩
  · left
    rw [Succeeds, hrun]
    refine ⟨?_, undone⟩
    rintro ⟨ending, rfl, result, rfl, succeeded⟩
    obtain ⟨_, same, failed⟩ := hidle _ rfl
    cases same
    exact failed succeeded
  · right
    refine settled_of_done ?_ first
    rw [hrun]
    exact done

end Dispatch

/-! ## Dispatches in succession -/

/-- Dispatches one after the other; in between anything may happen that leaves the database. -/
inductive Succession : World → List Dispatch → World → Prop
  | finished {w w' : World} (still : w'.store.db = w.store.db) : Succession w [] w'
  | step {w w₁ w' : World} {d : Dispatch} {rest : List Dispatch}
      (still : w₁.store.db = w.store.db) (later : Succession (d.run w₁).2 rest w') :
      Succession w (d :: rest) w'

/-- The dispatches one right after the other. -/
theorem Succession.atOnce : ∀ (w : World) (ds : List Dispatch),
    Succession w ds (ds.foldl (fun w d => (d.run w).2) w)
  | _, [] => .finished rfl
  | w, d :: rest => .step (Eq.refl w.store.db) (atOnce (d.run w).2 rest)

/-- The users that some dispatches notify and that are not there. -/
def strangers (db : Database) (ds : List Dispatch) : List String :=
  (ds.flatMap Dispatch.invited).filter fun id => (db.user? id).isNone

/-- A succession keeps the references, up to those of the users that it notifies. -/
theorem Succession.relinks {w w' : World} {ds : List Dispatch} (h : Succession w ds w')
    {people : List String} (among : ∀ d ∈ ds, ∀ id ∈ d.invited, id ∈ people) :
    w.store.db.Relinks people w'.store.db := by
  induction h with
  | finished still =>
    rw [still]
    exact .refl _ _
  | @step w w₁ w' d rest still later ih =>
    obtain ⟨first, others⟩ := List.forall_mem_cons.mp among
    have moved : w₁.store.db.Relinks people (d.run w₁).2.store.db := by
      rcases d.undone_or_settled w₁ with ⟨-, undone⟩ | ⟨c, p, -, -, -, relinks⟩
      · rw [undone.db]
        exact .refl _ _
      · exact relinks people first
    rw [← still]
    exact moved.trans (ih others)

/-- However many actions of any kinds are dispatched, the references of a sound database stay sound,
except those of notifications to users that were not there; with no such user all of them do. An
action that names a task, a status, a label, a project or an assignee that is not there does not
succeed, and leaves the database as it was. -/
theorem only_recipients_dangle {w w' : World} {ds : List Dispatch} (linked : w.store.db.Linked [])
    (all : Succession w ds w') :
    w'.store.db.Linked (strangers w.store.db ds) ∧
      ∀ (d : Dispatch) (v : World) c p, Reads d.kind d.config c → Payload.read d.payload = .ok p →
        ¬ c.Grounded v.store.db p.named →
          ¬ d.Succeeds v ∧ (d.run v).2.store.db = v.store.db := by
  constructor
  · have among : ∀ d ∈ ds, ∀ id ∈ d.invited, id ∈ ds.flatMap Dispatch.invited :=
      fun d hd id hid => List.mem_flatMap.mpr ⟨d, hd, hid⟩
    have relinks := all.relinks among
    have before : w.store.db.Linked (ds.flatMap Dispatch.invited) :=
      linked.mono fun n _ nobody => nomatch nobody
    refine (relinks.linked before).mono fun n _ invited => ?_
    have same : w'.store.db.user? n.userId = w.store.db.user? n.userId := by
      rw [Database.user?, relinks.users]
      rfl
    rw [same]
    by_cases there : (w.store.db.user? n.userId).isSome = true
    · exact .inl there
    · right
      exact List.mem_filter.mpr ⟨invited, by simpa using there⟩
  · intro d v c p reads hp missing
    rcases d.undone_or_settled v with ⟨failed, undone⟩ | ⟨c', p', reads', hp', grounded, -⟩
    · exact ⟨failed, undone.db⟩
    · obtain rfl := reads.unique reads'
      rw [hp] at hp'
      cases hp'
      exact absurd grounded missing

/-! ## The sample database -/

def openingDay : Moment := ⟨⟨2026, 1, 1⟩, 0, 0, 0, 0⟩

/-- A world with the sample database. -/
def office : World where
  store := (Store.insertSample (Store.empty openingDay)).2

/-- The dispatch of an action under a configuration, on an empty payload. -/
def ordered (kind : String) (config : Json.Fields) : Dispatch where
  setup := {}
  maxAttempts := .int 3
  kind := .str kind
  config := .obj config
  payload := .obj []
  context := { ruleId := .str "r-1" }

def greet (user : String) : Dispatch :=
  ordered "SEND_NOTIFICATION" [("userIds", .arr [.str user]), ("message", .str "hi")]

def move (status : String) : Dispatch :=
  ordered "CHANGE_STATUS" [("taskId", .str "t-1"), ("statusId", .str status)]

/-- The world after a user was notified and the task was moved. -/
def busy : World := ((move "s-doing").run ((greet "u-bob").run office).2).2

theorem an_office_stays_sound :
    busy.store.db.Linked [] ∧ ¬ (move "s-ghost").Succeeds busy ∧
      ((move "s-ghost").run busy).2.store.db = busy.store.db := by
  have sound : office.store.db.Linked [] := by decide +kernel
  have all : Succession office [greet "u-bob", move "s-doing"] busy := .atOnce office _
  obtain ⟨linked, ungrounded⟩ := only_recipients_dangle sound all
  have known : strangers office.store.db [greet "u-bob", move "s-doing"] = [] := by decide +kernel
  rw [known] at linked
  have missing : ¬ (busy.store.db.status? "s-ghost").isSome = true := by decide +kernel
  refine ⟨linked, ungrounded (move "s-ghost") busy (.changeStatus ⟨some "t-1", "s-ghost"⟩) {}
    ⟨.changeStatus, _, rfl, rfl, rfl⟩ rfl ?_⟩
  intro grounded
  exact missing grounded.2

/-- A notification for a user that is not there is added, and reported as a success. -/
theorem a_stranger_is_notified :
    office.store.db.Linked [] ∧ (office.store.db.user? "u-ghost").isNone = true ∧
      (greet "u-ghost").Succeeds office ∧
      ¬ ((greet "u-ghost").run office).2.store.db.Linked [] := by
  decide +kernel

end TaskRules.Engine
