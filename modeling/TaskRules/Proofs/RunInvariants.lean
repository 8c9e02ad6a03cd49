import TaskRules.Proofs.ActionAtomicity
import TaskRules.Proofs.RunAccount

/-!
What a run of a rule leaves as it was. A run touches its state only through its collaborators, so a
property that every call keeps holds after the run. Actions reach tasks, comments and
notifications, but neither the rules nor the records of runs, whatever a handler requests and
however it ends.

Proved:
- `execute_keeps`: what every call keeps, a run keeps.
- `answer_keeps`, `dispatchWithin_keeps`: no request of an action, and no dispatch of one, touches
  the rules, the records or the clock.
- `collaborators_steady`, `standard_dependable`: a run can rely on an engine while the clock tells
  times, and with the handlers of all kinds also on what its actions report.
-/

namespace TaskRules.Engine

/-! ## Runs -/

/-- Collaborators whose every call keeps a property of the state. -/
structure Collaborators.Keep (c : Collaborators σ) (I : σ → Prop) : Prop where
  findRule : ∀ id, Run.Keeps I (c.findRule id)
  dispatch : ∀ limit rule payload context, Run.Keeps I (c.dispatch limit rule payload context)
  create : ∀ draft, Run.Keeps I (c.create draft)
  clock : Run.Keeps I c.clock
  log : ∀ r, Run.Keeps I (c.log r)

section Runs
variable {c : Collaborators σ} {I : σ → Prop} (hc : c.Keep I) (p : Policy) (h : Header)
include hc

theorem record_keeps (success : Bool) (outcome : String) (result : Json) (error : Option String) :
    Run.Keeps I (record c h success outcome result error) := by
  refine .bind (.bind hc.clock fun _ => .ofResult _) fun elapsed => ?_
  unfold write
  refine .bind (.attempt (hc.create _)) fun r => ?_
  cases r with
  | ok saved => exact .ofPure saved
  | error e => exact .bind (hc.log _) fun _ => .ofRaise _

theorem skipUnavailable_keeps : Run.Keeps I (skipUnavailable c p h) := by
  refine .bind (hc.log _) fun _ => .bind (.bind hc.clock fun _ => .ofResult _) fun _ => ?_
  split
  · exact .bind (record_keeps hc h ..) fun _ => .ofPure _
  · exact .ofPure _

theorem skipUnmet_keeps : Run.Keeps I (skipUnmet c h) :=
  .bind (hc.log _) fun _ => .bind (hc.log _) fun _ =>
    .bind (record_keeps hc h ..) fun _ => .ofPure _

/-- A failure is recorded and then raised. -/
theorem failure_keeps (r : Log.Record) (text : String) (e : Fault) :
    Run.Keeps I (c.log r >>= fun _ =>
      record c h false failureOutcome .null (some text) >>= fun _ => .raise e : Run σ Outcome) :=
  .bind (hc.log _) fun _ => .bind (record_keeps hc h ..) fun _ => .ofRaise _

theorem failRaised_keeps (e : Fault) : Run.Keeps I (failRaised c h e) := by
  unfold failRaised
  split
  · exact failure_keeps hc h ..
  · exact failure_keeps hc h ..

theorem act_keeps (rule : Rule) (payload : Payload) : Run.Keeps I (act c p h rule payload) := by
  refine .bind (hc.log _) fun _ => .bind (.attempt ?_) fun r => ?_
  · exact .bind (.ofResult _) fun _ => hc.dispatch ..
  · rcases r with e | (result | started)
    · exact failRaised_keeps hc h e
    · dsimp only
      split
      · exact .bind (record_keeps hc h ..) fun _ => .bind (hc.log _) fun _ => .ofPure _
      · exact failure_keeps hc h ..
    · exact failure_keeps hc h ..

theorem runActive_keeps (rule : Rule) (payload : Payload) :
    Run.Keeps I (runActive c p h rule payload) := by
  unfold runActive
  rcases Condition.isMet rule (.obj payload.named) with ⟨met, notes⟩
  refine .bind (hc.log _) fun _ => .bind (.forM hc.log _) fun _ => .bind (hc.log _) fun _ => ?_
  cases met with
  | true => exact act_keeps hc p h rule payload
  | false => exact skipUnmet_keeps hc h

/-- What every call of its collaborators keeps, a run keeps. -/
theorem execute_keeps (t : Trigger) : Run.Keeps I (execute c p t) := by
  refine .bind (.ofResult _) fun payload => .bind (hc.log _) fun _ => ?_
  refine .bind (hc.findRule _) fun r => .bind hc.clock fun started => ?_
  cases r with
  | none => exact skipUnavailable_keeps hc p _
  | some rule =>
    dsimp only
    split
    · exact runActive_keeps hc p ..
    · exact skipUnavailable_keeps hc p _

end Runs
end TaskRules.Engine

namespace TaskRules

/-! ## The store -/

/-- Two databases with the same rules and the same records of runs. -/
structure Database.SameBooks (db db' : Database) : Prop where
  rules : db'.rules = db.rules
  executions : db'.executions = db.executions

/-- A change of a database, if it succeeds, that leaves rules and records. -/
structure Database.Spares (db : Database) (r : Except Fault (α × Database)) : Prop where
  books : ∀ a db', r = .ok (a, db') → db.SameBooks db'

namespace Database
variable {db : Database}

theorem Spares.ofOk {a : α} {db' : Database} (h : db.SameBooks db') : db.Spares (.ok (a, db')) := by
  constructor
  rintro b db'' ⟨⟩
  exact h

theorem Spares.ofError (e : Fault) : db.Spares (.error e : Except Fault (α × Database)) := by
  constructor
  intro a db' h
  cases h

theorem Spares.bind {x : Except Fault β} {f : β → Except Fault (α × Database)}
    (hf : ∀ b, db.Spares (f b)) : db.Spares (x >>= f) := by
  cases x with
  | ok b => exact hf b
  | error e => exact .ofError e

theorem updateTask_spares (now : Moment) (id : Json) (c : TaskChanges) :
    db.Spares (db.updateTask now id c) := by
  unfold updateTask
  refine .bind fun key => ?_
  split
  · dsimp only
    repeat' first
      | exact .ofOk ⟨rfl, rfl⟩
      | exact .ofError _
      | refine .bind fun _ => ?_
      | split
  · exact .ofError _

theorem insertTask_spares (now : Moment) (id : String) (d : Task.Draft)
    (assigneeIds : List String) : db.Spares (db.insertTask now id d assigneeIds) := by
  unfold insertTask
  refine .bind fun kept => ?_
  split
  · dsimp only
    split
    · exact .ofError _
    · exact .ofOk ⟨rfl, rfl⟩
  · split
    · exact .ofError _
    · exact .ofError _

theorem insertComment_spares (now : Moment) (id : String) (task : Task)
    (taskId content authorId : Json) :
    db.Spares (Store.insertComment db now id task taskId content authorId) :=
  .bind fun _ => .bind fun _ => .bind fun _ => .ofOk ⟨rfl, rfl⟩

end Database

namespace Store

/-- A store left with its rules and records, and as ready to answer. -/
structure Untouched (s s' : Store) : Prop where
  books : s.db.SameBooks s'.db
  outage : s'.outage = s.outage
  hasTables : s'.hasTables = s.hasTables

theorem Untouched.refl (s : Store) : s.Untouched s := ⟨⟨rfl, rfl⟩, rfl, rfl⟩

theorem Untouched.put {s₀ s s' : Store} (h : s₀.Untouched s) (books : s.db.SameBooks s'.db)
    (outage : s'.outage = s.outage) (hasTables : s'.hasTables = s.hasTables) : s₀.Untouched s' :=
  ⟨⟨books.rules.trans h.books.rules, books.executions.trans h.books.executions⟩,
    outage.trans h.outage, hasTables.trans h.hasTables⟩

section Calls
variable {s₀ : Store}

theorem query_keeps (f : Database → Except Fault α) : Run.Keeps s₀.Untouched (query f) := by
  constructor
  intro s h
  rw [query_apply]
  exact h

theorem mutate_keeps {f : Database → Moment → Except Fault (α × Database)}
    (hf : ∀ (db : Database) now, db.Spares (f db now)) : Run.Keeps s₀.Untouched (mutate f) := by
  constructor
  intro s h
  unfold mutate
  split
  · exact h
  · split
    · rename_i hr
      exact h.put ((hf _ _).books _ _ hr) rfl rfl
    · exact h

theorem insert_keeps (kind : IdKind) (takesId : Bool)
    {f : Database → Moment → String → Except Fault (α × Database)}
    (hf : ∀ (db : Database) now id, db.Spares (f db now id)) :
    Run.Keeps s₀.Untouched (insert kind takesId f) := by
  constructor
  intro s h
  have used : s₀.Untouched (if takesId = true then s.useIds kind 1 else s) := by
    cases takesId
    · exact h
    · exact h.put ⟨rfl, rfl⟩ rfl rfl
  unfold insert
  split
  · exact h
  · dsimp only
    split
    · exact used
    · rename_i hr
      have books := (hf _ _ _).books _ _ hr
      cases takesId
      · exact used.put books rfl rfl
      · exact used.put books rfl rfl
    · exact used

theorem createTask_keeps (d : Task.Draft) (assigneeIds : Json) :
    Run.Keeps s₀.Untouched (createTask d assigneeIds) :=
  .bind (query_keeps _) fun _ => insert_keeps _ _ fun _ _ _ => Database.insertTask_spares ..

theorem comment_keeps (taskId content authorId : Json) :
    Run.Keeps s₀.Untouched (comment taskId content authorId) :=
  .bind (query_keeps _) fun _ => insert_keeps _ _ fun _ _ _ => Database.insertComment_spares ..

theorem notify_keeps (drafts : List Notification.Draft) :
    Run.Keeps s₀.Untouched (notify drafts) := by
  constructor
  intro s h
  unfold notify
  split
  · exact h
  · split
    · exact h
    · dsimp only
      split
      · exact h.put ⟨rfl, rfl⟩ rfl rfl
      · exact h.put ⟨rfl, rfl⟩ rfl rfl

end Calls
end Store

namespace Engine

/-! ## Actions -/

/-- A world left with its rules, its records and its clock, and with a store as ready to answer. -/
structure Untouched (w w' : World) : Prop where
  store : w.store.Untouched w'.store
  readings : w'.readings = w.readings

theorem Untouched.refl (w : World) : Untouched w w := ⟨.refl w.store, rfl⟩

theorem Untouched.trans {w₁ w₂ w₃ : World} (h : Untouched w₁ w₂) (h' : Untouched w₂ w₃) :
    Untouched w₁ w₃ :=
  ⟨h.store.put h'.store.books h'.store.outage h'.store.hasTables, h'.readings.trans h.readings⟩

section Requests
variable {w₀ : World} (s : Setup)

theorem onStore_keeps {x : Run Store α} (hx : Run.Keeps w₀.store.Untouched x) :
    Run.Keeps (Untouched w₀) (World.onStore x) :=
  ⟨fun w h => ⟨hx.state w.store h.store, h.readings⟩⟩

/-- A part of the world that actions may change. -/
theorem change_keeps {f : World → World} (hf : ∀ w, Untouched w (f w)) :
    Run.Keeps (Untouched w₀) (Run.change f) :=
  ⟨fun w h => h.trans (hf w)⟩

theorem note_keeps (r : Log.Record) : Run.Keeps (Untouched w₀) (World.note r) :=
  change_keeps fun w => ⟨.refl w.store, rfl⟩

theorem read_keeps : Run.Keeps (Untouched w₀) Run.read := ⟨fun _ h => h⟩

theorem receive_keeps (e : Event) : Run.Keeps (Untouched w₀)
    (Run.change fun w => { w with received := w.received ++ [e] }) :=
  change_keeps fun w => ⟨.refl w.store, rfl⟩

theorem call_keeps (refused : List String) (client : Broker.Client) (c : Broker.Call) :
    Run.Keeps (Untouched w₀) (World.call refused client c) := by
  constructor
  intro w h
  unfold World.call
  split
  · exact h
  · exact ⟨h.store, h.readings⟩

theorem deliver_leaves (e : Event) : Run.Keeps (Untouched w₀) (s.deliver e) := by
  unfold Setup.deliver
  rcases s.notifier with _ | _ | _ | (_ | refusal) | refusal
  · exact .ofPure ()
  · exact .bind (.ofResult _) fun r => note_keeps r
  · dsimp only
    unfold Setup.publishEvent
    split
    · exact note_keeps _
    · exact .bind read_keeps fun w => call_keeps ..
  · exact receive_keeps e
  · exact .ofRaise refusal
  · refine .bind read_keeps fun w => ?_
    cases refusal w e with
    | some fault => exact .ofRaise fault
    | none => exact receive_keeps e

theorem emit_leaves (e : Event) : Run.Keeps (Untouched w₀) (s.emit e) := by
  refine .bind (.attempt (deliver_leaves s e)) fun r => ?_
  cases r with
  | ok u => exact .ofPure _
  | error fault => exact note_keeps _

theorem createTask_leaves (d : Task.Draft) (assigneeIds : Json) :
    Run.Keeps (Untouched w₀) (Setup.createTask d assigneeIds) := by
  refine .bind (.attempt (onStore_keeps (Store.createTask_keeps d assigneeIds))) fun r => ?_
  cases r with
  | ok task => exact .ofPure task
  | error e =>
    dsimp only
    split
    · exact .bind (note_keeps _) fun _ => .ofRaise e
    · exact .ofRaise e

/-- No request of an action touches the rules, the records or the clock. -/
theorem answer_keeps (q : Action.Request) : Run.Keeps (Untouched w₀) (s.answer q) := by
  cases q with
  | updateTask id changes =>
    exact onStore_keeps (Store.mutate_keeps fun _ _ => Database.updateTask_spares ..)
  | findProject id => exact onStore_keeps (Store.query_keeps _)
  | defaultStatus workflow =>
    refine onStore_keeps ?_
    unfold Store.defaultStatus
    split
    · exact .ofPure none
    · exact Store.query_keeps _
  | nextNumber project =>
    constructor
    intro w h
    show Untouched w₀ (Setup.nextNumber project w).2
    unfold Setup.nextNumber
    split
    · exact ⟨h.store, h.readings⟩
    · exact (onStore_keeps (Store.query_keeps _)).state w h
  | createTask d assigneeIds => exact createTask_leaves d assigneeIds
  | notify drafts => exact onStore_keeps (Store.notify_keeps drafts)
  | comment taskId content author => exact onStore_keeps (Store.comment_keeps ..)
  | emit e => exact emit_leaves s e
  | log r => exact note_keeps r

/-- What every answer keeps, a run of a script keeps. -/
theorem run_keeps {answer : (q : Action.Request) → Run σ q.Answer} {I : σ → Prop}
    (h : ∀ q, Run.Keeps I (answer q)) (x : Action.Script α) : Run.Keeps I (x.run answer) := by
  induction x with
  | done r => exact .ofResult r
  | ask q next ih => exact ⟨fun s hs => (ih _).state _ ((h q).state s hs)⟩

/-- No dispatch of an action touches the rules, the records or the clock, whatever handles it and
whether or not it ends in time. -/
theorem dispatchWithin_keeps (limit : Option Json) (rule : Rule) (payload : Payload)
    (context : Action.Context) :
    Run.Keeps (Untouched w₀) (s.dispatchWithin limit rule payload context) := by
  have plain : Run.Keeps (Untouched w₀)
      (s.dispatchRead (.str rule.actionType) rule.actionConfig payload context) :=
    run_keeps (answer_keeps s) _
  cases limit with
  | none => exact .bind plain fun _ => .ofPure _
  | some limit =>
    constructor
    intro w h
    show Untouched w₀ (s.dispatchPooled rule payload context w).2
    unfold Setup.dispatchPooled
    rcases w.pool.submit with ⟨ticket, pool⟩
    dsimp only
    split
    · have started := plain.state { w with pool := pool.takeAll s.workers } ⟨h.store, h.readings⟩
      split
      · rename_i hr
        rw [hr] at started
        exact ⟨started.store, started.readings⟩
      · rename_i hr
        rw [hr] at started
        exact started
      · rename_i hr
        rw [hr] at started
        exact ⟨started.store, started.readings⟩
    · exact ⟨h.store, h.readings⟩

end Requests

/-! ## What runs rely on -/

/-- Collaborators that follow steady ones are steady. -/
theorem Steady.follow {c' : Collaborators (σ × τ)} {c : Collaborators σ} (h : c'.Follow c)
    {sound : σ → Prop} (hc : Steady c sound) : Steady c' fun s => sound s.1 where
  log r s hs := by
    obtain ⟨s', hlog, hs'⟩ := hc.log r s.1 hs
    have answer := (h.log r).answer s.1 s.2
    have state := (h.log r).state s.1 s.2
    rw [hlog] at answer state
    exact ⟨(c'.log r s).2, Prod.ext answer rfl, by rw [state]; exact hs'⟩
  clock s hs := by
    obtain ⟨now, s', hclock, hs'⟩ := hc.clock s.1 hs
    have answer := h.clock.answer s.1 s.2
    have state := h.clock.state s.1 s.2
    rw [hclock] at answer state
    exact ⟨now, (c'.clock s).2, Prod.ext answer rfl, by rw [state]; exact hs'⟩
  spans := by
    have tells : ∀ now, Tells c' (fun s => sound s.1) now → Tells c sound now := by
      rintro now ⟨s, s', hs, hclock⟩
      have answer := h.clock.answer s.1 s.2
      rw [hclock] at answer
      exact ⟨s.1, (c.clock s.1).2, hs, Prod.ext answer.symm rfl⟩
    exact fun a b ha hb => hc.spans a b (tells a ha) (tells b hb)
  findRule id s hs := by
    rw [(h.findRule id).state s.1 s.2]
    exact hc.findRule id s.1 hs
  dispatch limit rule payload context s hs := by
    rw [(h.dispatch limit rule payload context).state s.1 s.2]
    exact hc.dispatch limit rule payload context s.1 hs
  create draft s hs := by
    rw [(h.create draft).state s.1 s.2]
    exact hc.create draft s.1 hs

/-- The milliseconds between any two readings that the clock has to come can be told. -/
def Timely (w : World) : Prop :=
  ∀ a ∈ Json.Numeric.int 0 :: w.readings, ∀ b ∈ Json.Numeric.int 0 :: w.readings,
    ∃ n, Reading.elapsedMs a b = .ok n

/-- A clock that always tells the same time is timely. -/
theorem timely_of_still {w : World} (h : w.readings = []) : Timely w := by
  rw [Timely, h]
  simp only [List.mem_singleton]
  rintro a rfl b rfl
  exact ⟨0, rfl⟩

theorem clock_tells {w : World} : ∃ now w', World.clock w = (.ok now, w') ∧
    now ∈ Json.Numeric.int 0 :: w.readings ∧ w'.readings ⊆ w.readings := by
  unfold World.clock
  cases hr : w.readings with
  | nil => exact ⟨_, w, rfl, List.mem_cons_self .., by rw [hr]; exact List.Subset.refl _⟩
  | cons r rest =>
    have told : r ∈ Json.Numeric.int 0 :: r :: rest := by simp
    cases rest with
    | nil => exact ⟨r, w, rfl, told, by rw [hr]; exact List.Subset.refl _⟩
    | cons r' rest => exact ⟨r, _, rfl, told, List.subset_cons_self ..⟩

/-- A run can rely on the world as long as the clock tells times. -/
theorem collaborators_steady (s : Setup) {w₀ : World} (timely : Timely w₀) :
    Steady s.collaborators fun w => w.readings ⊆ w₀.readings where
  log r w hw := ⟨_, rfl, hw⟩
  clock w hw := by
    obtain ⟨now, w', hclock, -, hw'⟩ := clock_tells (w := w)
    exact ⟨now, w', hclock, List.Subset.trans hw' hw⟩
  spans := by
    have tells : ∀ now, Tells s.collaborators (fun w => w.readings ⊆ w₀.readings) now →
        now ∈ Json.Numeric.int 0 :: w₀.readings := by
      rintro now ⟨w, w', hw, hclock⟩
      obtain ⟨now', w'', hclock', hmem, -⟩ := clock_tells (w := w)
      obtain ⟨rfl⟩ : now' = now := by
        have := hclock'.symm.trans hclock
        simpa using congrArg Prod.fst this
      exact List.cons_subset_cons _ hw hmem
    exact fun a b ha hb => timely a (tells a ha) b (tells b hb)
  findRule id w hw := hw
  dispatch limit rule payload context w hw := by
    have untouched := (dispatchWithin_keeps s limit rule payload context).state w (.refl w)
    show (s.dispatchWithin limit rule payload context w).2.readings ⊆ _
    rw [untouched.readings]
    exact hw
  create draft w hw := by
    show (s.createRecord draft w).2.readings ⊆ _
    unfold Setup.createRecord
    cases s.auditFault with
    | some fault => exact hw
    | none => exact hw

theorem dispatchRead_reports {s : Setup} {maxAttempts : Json}
    (hs : s.registry = .standard maxAttempts) (kind config : Json) (payload : Payload)
    (context : Action.Context) (w : World) {result : Action.Result}
    (h : (s.dispatchRead kind config payload context w).1 = .ok (some result))
    (success : result.success.truthy = true) : ∃ fields, result.data = .obj fields := by
  have one := Action.dispatch_reports maxAttempts kind config (.ok payload) context
  obtain ⟨r, w', made, hnoted, hatomic⟩ := run_atomic s one w []
  rw [Setup.dispatchRead, hs, Action.run_of_noted hnoted] at h
  obtain rfl : r = .ok (some result) := h
  rcases hatomic with ⟨-, -, idle⟩ | ⟨-, ending, hending, hgood⟩
  · obtain ⟨r, hr, failed⟩ := idle _ rfl
    cases hr
    exact absurd success failed
  · cases hending
    obtain ⟨r, hr, -, data⟩ := hgood
    cases hr
    exact data

theorem standard_reports {s : Setup} {maxAttempts : Json}
    (hs : s.registry = .standard maxAttempts) (sound : World → Prop) :
    Reporting s.collaborators sound fun data => ∃ fields, data = .obj fields := by
  intro limit rule payload context w result _ h success
  replace h : (s.dispatchWithin limit rule payload context w).1 = .ok (.ended result) := h
  cases limit with
  | none =>
    rcases hr : s.dispatchRead (.str rule.actionType) rule.actionConfig payload context w with
      ⟨r, w'⟩
    have hread :
        (s.dispatchRead (.str rule.actionType) rule.actionConfig payload context w).1 = r := by
      rw [hr]
    unfold Setup.dispatchWithin at h
    dsimp only at h
    cases r with
    | error e =>
      rw [Run.bind_of_error hr] at h
      cases h
    | ok ending =>
      rw [Run.bind_of_ok hr] at h
      cases ending with
      | none => cases h
      | some r =>
        cases h
        exact dispatchRead_reports hs _ _ _ _ w hread success
  | some limit =>
    unfold Setup.dispatchWithin Setup.dispatchPooled at h
    dsimp only at h
    split at h
    · split at h
      · rename_i hr
        cases h
        exact dispatchRead_reports hs _ _ _ _ _ (congrArg Prod.fst hr) success
      · cases h
      · cases h
    · cases h

/-- A run can rely on an engine with the handlers of all kinds as long as the clock tells times. -/
theorem standard_dependable {s : Setup} {maxAttempts : Json}
    (hs : s.registry = .standard maxAttempts) {w₀ : World} (timely : Timely w₀) :
    Dependable s.collaborators fun w => w.readings ⊆ w₀.readings :=
  let steady := collaborators_steady s timely
  { log := steady.log
    clock := steady.clock
    spans := steady.spans
    findRule := steady.findRule
    dispatch := steady.dispatch
    reports := standard_reports hs _
    create := steady.create }

end Engine
end TaskRules
