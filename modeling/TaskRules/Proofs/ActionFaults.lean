import TaskRules.Proofs.ConfigurationErrors
import TaskRules.Proofs.StoreFaults

/-!
How an action fails. It passes on the errors of its requests and raises some of its own; its
dispatch turns those about the configuration into a result. What is left comes from the store, or
tells that the number or slug of a new task is taken, which only the kind that adds tasks can meet.

Proved:
- `Raises.bind`, `Raises.settle`, `run_fails`: why a script fails.
- `perform_raises`: why an action fails.
- `dispatch_raises`: why its dispatch does.
-/

namespace TaskRules.Action

/-! ## Scripts -/

/-- A script that fails only for some reasons, given the reasons for which its requests fail. -/
inductive Raises (asked : Request → Fault → Prop) (reason : Fault → Prop) : Script α → Prop
  | done {r : Except Fault α} (h : FailsFor reason r) : Raises asked reason (.done r)
  | ask {q : Request} {next : Except Fault q.Answer → Script α}
      (rest : ∀ r, FailsFor (asked q) r → Raises asked reason (next r)) :
      Raises asked reason (.ask q next)

namespace Raises
variable {asked : Request → Fault → Prop} {reason reason' : Fault → Prop}

theorem ofPure (a : α) : Raises asked reason (pure a : Script α) := .done (.ofOk a)

theorem raise {e : Fault} (h : reason e) : Raises asked reason (Script.raise e : Script α) :=
  .done (.ofError h)

theorem request {q : Request} (h : ∀ e, asked q e → reason e) :
    Raises asked reason (Script.request q) := .ask fun _ hr => .done (hr.imp h)

theorem bind {x : Script α} (hx : Raises asked reason x) {f : α → Script β}
    (hf : ∀ a, Raises asked reason (f a)) : Raises asked reason (x >>= f) := by
  induction hx with
  | @done r h =>
    cases r with
    | ok a => exact hf a
    | error e => exact .done (.ofError (h e rfl))
  | ask rest ih => exact .ask ih

theorem each {f : α → Script Unit} (hf : ∀ a, Raises asked reason (f a)) :
    ∀ l : List α, Raises asked reason (Action.each f l)
  | [] => .ofPure ()
  | a :: rest => (hf a).bind fun _ => each hf rest

theorem settle {f : Except Fault α → Except Fault β}
    (hf : ∀ r, FailsFor reason r → FailsFor reason' (f r)) {x : Script α}
    (hx : Raises asked reason x) : Raises asked reason' (x.settle f) := by
  induction hx with
  | done h => exact .done (hf _ h)
  | ask rest ih => exact .ask ih

end Raises

/-- A run of a script fails for the script's reasons when its requests fail for theirs. -/
theorem run_fails {asked : Request → Fault → Prop} {reason : Fault → Prop} {I : σ → Prop}
    {answer : (q : Request) → Run σ q.Answer} (answers : ∀ q, Run.FailsFor I (asked q) (answer q))
    {x : Script α} (h : Raises asked reason x) : Run.FailsFor I reason (x.run answer) := by
  refine ⟨Engine.run_keeps (fun q => (answers q).keeps) x, ?_⟩
  induction h with
  | done h => exact fun _ _ => h
  | @ask q next rest ih =>
    intro s hs
    exact ih _ ((answers q).fails s hs) _ ((answers q).keeps.state s hs)

/-! ## Actions -/

/-- The errors that a request of an action is answered with. -/
def Request.Fails (q : Request) (e : Fault) : Prop :=
  e.OfStore ∨ isTaken e = true ∧ ∃ d ids, q = .createTask d ids

/-- The errors that an action under a configuration fails with. -/
def Config.Fails (c : Config) (e : Fault) : Prop :=
  e.OfStore ∨ e.isConfig = true ∨ isTaken e = true ∧ ∃ d, c = .createTask d

theorem Request.Fails.store {q : Request} {e : Fault} (h : q.Fails e)
    (other : ∀ d ids, q ≠ .createTask d ids) (c : Config) : c.Fails e := by
  rcases h with h | ⟨-, d, ids, rfl⟩
  · exact .inl h
  · exact absurd rfl (other d ids)

theorem taskIdOf_fails (configured : Option String) (payload : Json.Fields) (c : Config) :
    FailsFor c.Fails (taskIdOf configured payload) := by
  unfold taskIdOf
  repeat' first
    | exact .ofOk _
    | exact .ofError (.inl (.outside rfl))
    | exact .ofError (.inr (.inl rfl))
    | split

section Actions
variable {c : Config}

theorem asks {q : Request} (other : ∀ d ids, q ≠ .createTask d ids) :
    Raises Request.Fails c.Fails (Script.request q) :=
  .request fun _ h => h.store other c

theorem tell_raises (kind : String) (data : Json.Fields) :
    Raises Request.Fails c.Fails (tell kind data) := asks (by rintro _ _ ⟨⟩)

theorem change_raises (configured : Option String) (payload : Json.Fields) (changes : TaskChanges) :
    Raises Request.Fails c.Fails (change configured payload changes) :=
  .bind (.done (taskIdOf_fails configured payload c)) fun _ => asks (by rintro _ _ ⟨⟩)

/-- An action that changes a task and then tells of it. -/
theorem told_raises (configured : Option String) (payload : Json.Fields) (changes : TaskChanges)
    {f : TaskView → Script Unit} (hf : ∀ task, Raises Request.Fails c.Fails (f task))
    (report : TaskView → Result) : Raises Request.Fails c.Fails (do
      let task ← change configured payload changes
      f task
      return report task) :=
  (change_raises configured payload changes).bind fun task => (hf task).bind fun _ => .ofPure _

theorem claimNumber_raises {create : CreateTask} (draft : Int → Task.Draft) (ids : List String)
    (project : Project) (attempts remaining : Nat) :
    Raises Request.Fails (Config.createTask create).Fails
      (claimNumber draft ids project attempts remaining) := by
  have passed (q : Request) (e : Fault) (h : q.Fails e) : (Config.createTask create).Fails e :=
    h.imp_right fun h => .inr ⟨h.1, create, rfl⟩
  induction remaining with
  | zero => exact .bind (.request (passed _)) fun _ => .request (passed _)
  | succ remaining ih =>
    refine .bind (.request (passed _)) fun number => .ask fun r hr => ?_
    cases r with
    | ok task => exact .ofPure task
    | error e =>
      dsimp only
      split
      · exact .bind (.request (passed _)) fun _ => ih
      · exact .raise (passed _ e (hr e rfl))

theorem createTask_raises (maxAttempts : Json) (create : CreateTask) (payload : Json.Fields)
    (context : Context) : Raises Request.Fails (Config.createTask create).Fails
      (createTask maxAttempts create payload context) := by
  have attempts : FailsFor (Config.createTask create).Fails (attemptsOf maxAttempts) := by
    unfold attemptsOf
    split
    · exact .ofOk _
    · split
      · exact .ofError (.inl (.outside rfl))
      · exact .ofOk 1
    · exact .ofError (.inl (.outside rfl))
  have status (project : Project) : Raises Request.Fails (Config.createTask create).Fails
      (newStatus create project) := by
    unfold newStatus
    dsimp only
    split
    all_goals
      refine .bind (by first | exact .ofPure _ | exact asks (by rintro _ _ ⟨⟩)) fun found => ?_
      split
      · exact .ofPure _
      · exact .raise (.inl (.missing ..))
  refine .bind (asks (by rintro _ _ ⟨⟩)) fun found => ?_
  cases found with
  | none => exact .raise (.inl (.missing ..))
  | some project =>
    exact .bind (status project) fun _ => .bind (.done attempts) fun _ =>
      .bind (claimNumber_raises ..) fun _ => .bind (tell_raises ..) fun _ => .ofPure _

/-- An action fails for its requests, for its configuration, or for a number that is taken. -/
theorem perform_raises (maxAttempts : Json) (c : Config) (payload : Payload) (context : Context) :
    Raises Request.Fails c.Fails (perform maxAttempts c payload context) := by
  cases c with
  | assignTask c => exact told_raises _ _ _ (fun _ => .each (fun _ => tell_raises ..) _) _
  | changeStatus c => exact told_raises _ _ _ (fun _ => tell_raises ..) _
  | addLabel c => exact told_raises _ _ _ (fun _ => tell_raises ..) _
  | sendNotification c =>
    exact .bind (asks (by rintro _ _ ⟨⟩)) fun _ =>
      .bind (.each (fun _ => asks (by rintro _ _ ⟨⟩)) _) fun _ => .ofPure _
  | addComment c =>
    exact .bind (.done (taskIdOf_fails _ _ _)) fun _ => .bind (asks (by rintro _ _ ⟨⟩)) fun _ =>
      .bind (tell_raises ..) fun _ => .ofPure _
  | changePriority c => exact told_raises _ _ _ (fun _ => tell_raises ..) _
  | setDueDate c => exact told_raises _ _ _ (fun _ => tell_raises ..) _
  | createTask c => exact createTask_raises ..

end Actions

/-- The errors that the dispatch of a kind fails with: those of the store, and that a number is
taken. -/
def KindFails (kind : Json) (e : Fault) : Prop :=
  e.OfStore ∨ isTaken e = true ∧ kind = .str "CREATE_TASK"

theorem kind_of_createTask {kind : Json} {k : ActionKind} {fields : Json.Fields} {c : CreateTask}
    (known : Registry.kind? kind = some k) (read : readFields k fields = .ok (.createTask c)) :
    kind = .str "CREATE_TASK" := by
  have created : k = .createTask := by
    cases k with
    | createTask => rfl
    | _ =>
      obtain ⟨d, -, other⟩ := Schema.map_ok read
      cases other
  subst created
  cases kind with
  | str s =>
    have named := List.find?_some (show ActionKind.all.find? (·.name == s) = _ from known)
    rw [← eq_of_beq named]
    rfl
  | _ => cases known

/-- Errors of the configuration become results. -/
theorem configFailure_fails {kind : Json} {k : ActionKind} {fields : Json.Fields} {c : Config}
    (known : Registry.kind? kind = some k) (read : readFields k fields = .ok c)
    (r : Except Fault (Option Result)) (h : FailsFor c.Fails r) :
    FailsFor (KindFails kind) (Registry.configFailure r) := by
  cases r with
  | ok a => exact .ofOk a
  | error e =>
    rw [Registry.configFailure]
    split
    · exact .ofOk _
    · rename_i other
      rcases h e rfl with store | config | ⟨taken, d, rfl⟩
      · exact .ofError (.inl store)
      · exact absurd config other
      · exact .ofError (.inr ⟨taken, kind_of_createTask known read⟩)

/-- A dispatch does not fail for its configuration. -/
theorem dispatch_raises (maxAttempts kind config : Json) (payload : Payload) (context : Context) :
    Raises Request.Fails (KindFails kind)
      ((Registry.standard maxAttempts).dispatch kind config (.ok payload) context) := by
  cases known : Registry.kind? kind with
  | none =>
    rw [Registry.dispatch, Registry.handlerFor, known]
    refine .bind (.request fun e h => ?_) fun _ => .ofPure _
    rcases h with store | ⟨-, d, ids, other⟩
    · exact .inl store
    · cases other
  | some k =>
    rw [dispatch_known payload maxAttempts context known]
    split
    · exact .ofPure _
    · split
      · rename_i fields _
        cases read : readFields k fields with
        | error problems =>
          rw [handle_refused payload maxAttempts context read]
          exact .ofPure _
        | ok c =>
          rw [handle_accepted payload maxAttempts context read]
          exact .settle (configFailure_fails known read)
            ((perform_raises maxAttempts c payload context).bind fun _ => .ofPure _)
      · exact .ofPure _

end TaskRules.Action
