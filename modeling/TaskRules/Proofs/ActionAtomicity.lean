import TaskRules.Engine.World
import TaskRules.Proofs.CheckedForms
import TaskRules.Proofs.Scripts
import TaskRules.Proofs.Transactions

/-!
An action is done as a whole or not at all. Each of the eight handlers looks things up, makes one
change in the store and only then tells clients; nothing that can fail comes after the change. A
failed change leaves no rows, so neither does an action that fails, however often it tried to claim
a task number.

Proved:
- `perform_oneChange`, `dispatch_oneChange`: an action, and its dispatch under any configuration, is
  a script with one change that succeeds exactly when it makes it.
- `dispatch_cases`: what a dispatch can be, as a script.
- `dispatch_reports`: a dispatch that succeeds reports an object.
- `look_undone`, `change_undone`, `emit_keeps`: what one request leaves of the database and of the
  events that were delivered.
- `run_atomic`: a run of a script with one change has done nothing, or has made one change
  and told clients afterwards.
- `dispatch_atomic`: so has every dispatch of an action, and its result tells which.
-/

namespace TaskRules.Action

/-! ## Handlers -/

/-- A result that reports success. -/
def Result.Succeeded (r : Result) : Prop := r.success.truthy = true

/-- A result that reports success, with an object. -/
def Result.Reports (r : Result) : Prop := r.Succeeded ∧ ∃ fields, r.data = .obj fields

theorem tell_closing (kind : String) (data : Json.Fields) :
    Closing (fun _ => True) (tell kind data) :=
  .tell (.done trivial)

theorem each_closing {f : α → Script Unit} (hf : ∀ a, Closing (fun _ => True) (f a)) :
    ∀ l : List α, Closing (fun _ => True) (each f l)
  | [] => .done trivial
  | a :: rest => (hf a).bind fun _ _ => each_closing hf rest

theorem change_oneChange (configured : Option String) (payload : Json.Fields)
    (changes : TaskChanges) :
    OneChange (fun _ => False) (fun _ => True) (change configured payload changes) :=
  .after (.done _) fun _ => .request (.updateTask ..) rfl

/-- Claiming a number creates one task, after attempts that created none. -/
theorem claimNumber_oneChange (draft : Int → Task.Draft) (assigneeIds : List String)
    (project : Project) (attempts remaining : Nat) :
    OneChange (fun _ => False) (fun _ => True)
      (claimNumber draft assigneeIds project attempts remaining) := by
  induction remaining with
  | zero => exact .after (.request (.nextNumber _) rfl) fun _ => .request (.createTask ..) rfl
  | succ remaining ih =>
    refine .after (.request (.nextNumber _) rfl) fun number =>
      .change rfl ?_ fun task => .done trivial
    intro e
    dsimp only
    split
    · exact .after (.request (.log _) rfl) fun _ => ih
    · exact .failed e

/-- The status of a new task, which has to be there. -/
def statusFound (project : Project) (found : Option String) : Script String :=
  match orElse found none with
  | some id => pure id
  | none => .raise (.notFound "Default status for workflow" (.ofText? project.workflowId))

theorem newStatus_configured {c : CreateTask} {id : String} (h : orElse c.statusId none = some id)
    (project : Project) : newStatus c project = statusFound project (some id) := by
  rw [newStatus, h]
  rfl

theorem newStatus_default {c : CreateTask} (h : orElse c.statusId none = none)
    (project : Project) :
    newStatus c project =
      Script.request (.defaultStatus (.ofText? project.workflowId)) >>= statusFound project := by
  rw [newStatus, h]
  rfl

theorem statusFound_looks (project : Project) (found : Option String) :
    Looks (statusFound project found) := by
  unfold statusFound
  cases orElse found none with
  | some id => exact .done _
  | none => exact .done _

theorem newStatus_looks (c : CreateTask) (project : Project) : Looks (newStatus c project) := by
  cases h : orElse c.statusId none with
  | some id =>
    rw [newStatus_configured h]
    exact statusFound_looks project _
  | none =>
    rw [newStatus_default h]
    exact .bind (.request (.defaultStatus _) rfl) (statusFound_looks project)

theorem createTask_oneChange (maxAttempts : Json) (c : CreateTask) (payload : Json.Fields)
    (context : Context) :
    OneChange (fun _ => False) Result.Reports (createTask maxAttempts c payload context) := by
  refine .after (.request (.findProject _) rfl) fun found => ?_
  cases found with
  | none => exact .failed _
  | some project =>
    refine .after (newStatus_looks c project) fun statusId => .after (.done _) fun attempts => ?_
    exact .before (claimNumber_oneChange ..) fun task _ =>
      (tell_closing ..).bind fun _ _ => .done ⟨rfl, _, rfl⟩

/-- What a configuration promises a handler: a notification has somebody to go to. -/
def Config.Usable : Config → Prop
  | .sendNotification c => c.recipients ≠ []
  | _ => True

theorem notify_oneChange (c : SendNotification) (payload : Payload) (context : Context)
    (hc : c.recipients ≠ []) :
    OneChange (fun _ => False) Result.Reports (notify c payload context) := by
  have changes : (Request.notify (c.recipients.map (noticeFor c context))).changes = true := by
    simp [Request.changes, hc]
  refine .before (.request _ changes) fun ids _ => ?_
  exact (each_closing (fun _ => .tell (.done trivial)) _).bind fun _ _ => .done ⟨rfl, _, rfl⟩

/-- Every action makes one change, and succeeds with it. -/
theorem perform_oneChange (maxAttempts : Json) (config : Config) (hc : config.Usable)
    (payload : Payload) (context : Context) :
    OneChange (fun _ => False) Result.Reports (perform maxAttempts config payload context) := by
  cases config with
  | assignTask c =>
    exact .before (change_oneChange ..) fun task _ =>
      (each_closing (fun _ => tell_closing ..) _).bind fun _ _ => .done ⟨rfl, _, rfl⟩
  | changeStatus c =>
    exact .before (change_oneChange ..) fun task _ =>
      (tell_closing ..).bind fun _ _ => .done ⟨rfl, _, rfl⟩
  | addLabel c =>
    exact .before (change_oneChange ..) fun task _ =>
      (tell_closing ..).bind fun _ _ => .done ⟨rfl, _, rfl⟩
  | sendNotification c => exact notify_oneChange c payload context hc
  | addComment c =>
    refine .after (.done _) fun id => .before (.request (.comment ..) rfl) fun added _ => ?_
    exact (tell_closing ..).bind fun _ _ => .done ⟨rfl, _, rfl⟩
  | changePriority c =>
    exact .before (change_oneChange ..) fun task _ =>
      (tell_closing ..).bind fun _ _ => .done ⟨rfl, _, rfl⟩
  | setDueDate c =>
    exact .before (change_oneChange ..) fun task _ =>
      (tell_closing ..).bind fun _ _ => .done ⟨rfl, _, rfl⟩
  | createTask c => exact createTask_oneChange ..

/-! ## Dispatch -/

theorem readSendNotification_recipients {fields : Json.Fields} {c : SendNotification}
    (h : readSendNotification fields = .ok c) : c.recipients ≠ [] := by
  unfold readSendNotification Schema.Checked.also at h
  split at h
  · rename_i read _
    cases hr : read.recipients with
    | nil => simp [hr, Schema.Checked.fail] at h
    | cons id rest =>
      simp only [hr, List.isEmpty_cons, Bool.false_eq_true, if_false, Except.ok.injEq] at h
      rw [← h, hr]
      exact List.cons_ne_nil id rest
  · cases h

theorem readFields_usable {kind : ActionKind} {fields : Json.Fields} {config : Config}
    (h : readFields kind fields = .ok config) : config.Usable := by
  cases kind with
  | sendNotification =>
    obtain ⟨c, hc, rfl⟩ := Schema.map_ok h
    exact readSendNotification_recipients hc
  | _ =>
    obtain ⟨c, -, rfl⟩ := Schema.map_ok h
    trivial

/-- An end of an action that reports success. -/
def ReportsSuccess (ending : Option Result) : Prop := ∃ r, ending = some r ∧ r.Succeeded

/-- An end of an action that reports a failure. -/
def ReportsFailure (ending : Option Result) : Prop := ∃ r, ending = some r ∧ ¬ r.Succeeded

theorem reportsFailure_of {r : Result} (h : r.success = .bool false) : ReportsFailure (some r) := by
  refine ⟨r, rfl, ?_⟩
  rw [Result.Succeeded, h]
  exact Bool.false_ne_true

theorem find_standard (maxAttempts : Json) (kind : ActionKind) :
    (Registry.standard maxAttempts).find? kind = some (.standard maxAttempts kind) := by
  cases kind <;> rfl

/-- The configuration that a kind and its fields are read as. -/
def Reads (kind config : Json) (c : Config) : Prop :=
  ∃ k fields, Registry.kind? kind = some k ∧ config = .obj fields ∧ readFields k fields = .ok c

theorem Reads.usable {kind config : Json} {c : Config} (h : Reads kind config c) : c.Usable := by
  obtain ⟨k, fields, -, -, hread⟩ := h
  exact readFields_usable hread

theorem Reads.unique {kind config : Json} {c c' : Config} (h : Reads kind config c)
    (h' : Reads kind config c') : c = c' := by
  obtain ⟨k, fields, hkind, rfl, hread⟩ := h
  obtain ⟨k', fields', hkind', same, hread'⟩ := h'
  cases same
  obtain rfl : k = k' := Option.some.inj (hkind.symm.trans hkind')
  exact Except.ok.inj (hread.symm.trans hread')

theorem handlerFor_ok {maxAttempts kind : Json} {handler : Handler}
    (h : (Registry.standard maxAttempts).handlerFor kind = .ok handler) :
    ∃ k, Registry.kind? kind = some k ∧ handler = .standard maxAttempts k := by
  unfold Registry.handlerFor at h
  split at h
  · cases h
  · rename_i k hk
    rw [find_standard] at h
    exact ⟨k, hk, (Except.ok.inj h).symm⟩

/-- A dispatch declines, with or without a note, passes on that the payload could not be read, or
performs the action that the configuration asks for. -/
theorem dispatch_cases (maxAttempts kind config : Json) (payload : Except Fault Payload)
    (context : Context) {M : Script (Option Result) → Prop}
    (noted : ∀ r text, M (Script.request (.log r) >>= fun _ => pure (some (.failure text))))
    (declined : ∀ text, M (pure (some (.failure text)))) (unread : ∀ e, M (.raise e))
    (performed : ∀ c p, Reads kind config c → payload = .ok p →
      M ((perform maxAttempts c p context >>= fun r => pure (some r)).settle
        Registry.configFailure)) :
    M ((Registry.standard maxAttempts).dispatch kind config payload context) := by
  unfold Registry.dispatch
  cases hf : (Registry.standard maxAttempts).handlerFor kind with
  | error e => exact noted _ _
  | ok handler =>
    obtain ⟨k, hkind, rfl⟩ := handlerFor_ok hf
    dsimp only
    split
    · exact declined _
    · split
      · rename_i fields _
        unfold Registry.handle
        split
        · exact declined _
        · rename_i work hwork
          obtain ⟨c, hread, rfl⟩ := Schema.map_ok hwork
          split
          · exact unread _
          · exact performed c _ ⟨k, fields, hkind, rfl, hread⟩ rfl
      · exact declined _

theorem configFailure_error (e : Fault) :
    (∃ e', Registry.configFailure (.error e) = .error e') ∨
      ∃ ending, Registry.configFailure (.error e) = .ok ending ∧ ReportsFailure ending := by
  rw [Registry.configFailure]
  split
  · exact .inr ⟨_, rfl, reportsFailure_of rfl⟩
  · exact .inl ⟨e, rfl⟩

/-- An end of an action that reports success, with an object. -/
def ReportsObject (ending : Option Result) : Prop := ∃ r, ending = some r ∧ r.Reports

/-- The dispatch of an action makes one change, and reports an object after it; without it, it fails
or reports a failure. -/
theorem dispatch_reports (maxAttempts kind config : Json) (payload : Except Fault Payload)
    (context : Context) :
    OneChange ReportsFailure ReportsObject
      ((Registry.standard maxAttempts).dispatch kind config payload context) := by
  refine dispatch_cases maxAttempts kind config payload context ?_ ?_ .failed ?_
  · intro r text
    exact .after (.request (.log r) rfl) fun _ => .idled (reportsFailure_of rfl)
  · intro text
    exact .idled (reportsFailure_of rfl)
  · intro c p reads _
    refine .settle (fun a => rfl) configFailure_error ?_
    have performed := perform_oneChange maxAttempts c reads.usable p context
    exact .before performed fun r hr => .done ⟨r, rfl, hr⟩

/-- The dispatch of an action makes one change, and succeeds with it; without it, it fails or
reports a failure. -/
theorem dispatch_oneChange (maxAttempts kind config : Json) (payload : Except Fault Payload)
    (context : Context) :
    OneChange ReportsFailure ReportsSuccess
      ((Registry.standard maxAttempts).dispatch kind config payload context) :=
  (dispatch_reports maxAttempts kind config payload context).imp fun _ ⟨r, hr, h⟩ => ⟨r, hr, h.1⟩

end TaskRules.Action

namespace TaskRules.Engine
open TaskRules.Action

/-! ## One request -/

/-- Nothing was stored or delivered in between. -/
structure Undone (w w' : World) : Prop where
  db : w'.store.db = w.store.db
  received : w'.received = w.received
  calls : w'.calls = w.calls

theorem Undone.refl (w : World) : Undone w w := ⟨rfl, rfl, rfl⟩

theorem Undone.trans {w₁ w₂ w₃ : World} (h : Undone w₁ w₂) (h' : Undone w₂ w₃) : Undone w₁ w₃ :=
  ⟨h'.db.trans h.db, h'.received.trans h.received, h'.calls.trans h.calls⟩

theorem onStore_apply {x : Run Store α} {w : World} {r : Except Fault α} {store : Store}
    (h : x w.store = (r, store)) : World.onStore x w = (r, { w with store := store }) := by
  show ((x w.store).1, { w with store := (x w.store).2 }) = _
  rw [h]

theorem onStore_undone {x : Run Store α} {w : World} (h : (x w.store).2.db = w.store.db) :
    Undone w (World.onStore x w).2 :=
  ⟨h, rfl, rfl⟩

variable (s : Setup)

/-- Looking something up or writing to the log does nothing. -/
theorem look_undone {q : Request} (h : q.looks = true) (w : World) : Undone w (s.answer q w).2 := by
  cases q with
  | findProject id => exact onStore_undone (Store.query_reads _ _)
  | defaultStatus workflow =>
    refine onStore_undone ?_
    unfold Store.defaultStatus
    split
    · rfl
    · exact Store.query_reads _ _
  | nextNumber project =>
    show Undone w (Setup.nextNumber project w).2
    unfold Setup.nextNumber
    split
    · exact ⟨rfl, rfl, rfl⟩
    · exact onStore_undone (Store.query_reads _ _)
  | log r => exact ⟨rfl, rfl, rfl⟩
  | _ => cases h

theorem createTask_undone {d : Task.Draft} {assigneeIds : Json} {w : World} {e : Fault}
    (h : (Setup.createTask d assigneeIds w).1 = .error e) :
    Undone w (Setup.createTask d assigneeIds w).2 := by
  have hattempt := Run.attempt_apply (World.onStore (Store.createTask d assigneeIds)) w
  rw [Setup.createTask, Run.bind_of_ok hattempt] at h ⊢
  cases hr : (World.onStore (Store.createTask d assigneeIds) w).1 with
  | ok task =>
    rw [hr] at h
    cases h
  | error e' =>
    have undone := onStore_undone (Store.createTask_reverts d assigneeIds _ _ hr)
    dsimp only
    split
    · exact undone.trans ⟨rfl, rfl, rfl⟩
    · exact undone

/-- A change that fails does nothing. -/
theorem change_undone {q : Request} (h : q.changes = true) {w : World} {e : Fault}
    (he : (s.answer q w).1 = .error e) : Undone w (s.answer q w).2 := by
  cases q with
  | updateTask id changes => exact onStore_undone (Store.mutate_reverts _ _ _ he)
  | createTask d assigneeIds => exact createTask_undone he
  | notify drafts => exact onStore_undone (Store.notify_reverts drafts _ _ he)
  | comment taskId content author => exact onStore_undone (Store.comment_reverts _ _ _ _ _ he)
  | _ => cases h

theorem deliver_keeps (e : Event) (w : World) :
    (s.deliver e w).2.store = w.store ∧ (s.deliver e w).2.overtaken = w.overtaken := by
  unfold Setup.deliver
  rcases s.notifier with _ | _ | _ | (_ | refusal) | refusal
  · exact ⟨rfl, rfl⟩
  · dsimp only
    cases hd : e.described with
    | ok r => exact ⟨rfl, rfl⟩
    | error fault => exact ⟨rfl, rfl⟩
  · dsimp only
    unfold Setup.publishEvent
    cases e.topic? s.settings.topicStem.display with
    | none => exact ⟨rfl, rfl⟩
    | some topic =>
      show (World.call _ _ _ w).2.store = _ ∧ (World.call _ _ _ w).2.overtaken = _
      unfold World.call
      split <;> exact ⟨rfl, rfl⟩
  · exact ⟨rfl, rfl⟩
  · exact ⟨rfl, rfl⟩
  · have hread : (Run.read : Run World World) w = (.ok w, w) := rfl
    dsimp only
    rw [Run.bind_of_ok hread]
    cases refusal w e with
    | some fault => exact ⟨rfl, rfl⟩
    | none => exact ⟨rfl, rfl⟩

/-- Telling clients always succeeds and stores nothing. -/
theorem emit_keeps (e : Event) (w : World) :
    (s.emit e w).1 = .ok () ∧ (s.emit e w).2.store = w.store ∧
      (s.emit e w).2.overtaken = w.overtaken := by
  have hattempt := Run.attempt_apply (s.deliver e) w
  rw [Setup.emit, Run.bind_of_ok hattempt]
  cases (s.deliver e w).1 with
  | ok u => exact ⟨rfl, deliver_keeps s e w⟩
  | error fault => exact ⟨rfl, deliver_keeps s e w⟩

theorem emit_answer (e : Event) (w : World) :
    s.answer (.emit e) w = (.ok (), (s.emit e w).2) := Prod.ext (emit_keeps s e w).1 rfl

/-! ## Runs -/

/-- What a run did that made one change: before it nothing, after it only events, and of the
database what the change made. -/
inductive DoneOnce (w w' : World) : List Exchange → Prop
  | mk {before after : List Exchange} {x : Exchange} {w₁ w₂ : World} (undone : Undone w w₁)
      (quiet : ∀ y ∈ before, y.Quiet) (commits : x.Commits)
      (answered : s.answer x.request w₁ = (x.answer, w₂)) (told : ∀ y ∈ after, y.Emits)
      (db : w'.store.db = w₂.store.db) : DoneOnce w w' (before ++ x :: after)

theorem DoneOnce.cons {w w₁ w' : World} {x : Exchange} {made : List Exchange} (quiet : x.Quiet)
    (undone : Undone w w₁) (h : DoneOnce s w₁ w' made) : DoneOnce s w w' (x :: made) := by
  cases h with
  | @mk before after y w₂ w₃ undone' quiet' commits answered told db =>
    have hall : ∀ z ∈ x :: before, z.Quiet := by
      intro z hz
      rcases List.mem_cons.mp hz with rfl | hz
      · exact quiet
      · exact quiet' z hz
    rw [← List.cons_append]
    exact .mk (undone.trans undone') hall commits answered told db

/-- What a run may have done: nothing, ending without success, or one change, ending well. -/
def Atomic (idle good : α → Prop) (w w' : World) (made : List Exchange) (r : Except Fault α) :
    Prop :=
  (Undone w w' ∧ (∀ y ∈ made, y.Quiet) ∧ ∀ a, r = .ok a → idle a) ∨
    (DoneOnce s w w' made ∧ ∃ a, r = .ok a ∧ good a)

theorem Atomic.cons {idle good : α → Prop} {w w₁ w' : World} {x : Exchange} {made : List Exchange}
    {r : Except Fault α} (quiet : x.Quiet) (undone : Undone w w₁)
    (h : Atomic s idle good w₁ w' made r) : Atomic s idle good w w' (x :: made) r := by
  rcases h with ⟨undone', quiet', hidle⟩ | ⟨done, hgood⟩
  · exact .inl ⟨undone.trans undone', List.forall_mem_cons.mpr ⟨quiet, quiet'⟩, hidle⟩
  · exact .inr ⟨done.cons s quiet undone, hgood⟩

theorem closing_keeps {good : α → Prop} {x : Script α} (h : Closing good x) (w : World)
    (l : List Exchange) :
    ∃ a w' made, x.run (noted s.answer) (w, l) = (.ok a, (w', l ++ made)) ∧ good a ∧
      w'.store.db = w.store.db ∧ ∀ y ∈ made, y.Emits := by
  induction h generalizing w l with
  | @done a ha => exact ⟨a, w, [], by simp, ha, rfl, by simp⟩
  | @tell e next rest ih =>
    have hdb := congrArg Store.db (emit_keeps s e w).2.1
    obtain ⟨a, w', made, hrun, ha, hkeeps, htold⟩ :=
      ih (s.emit e w).2 (l ++ [⟨.emit e, .ok ()⟩])
    refine ⟨a, w', ⟨.emit e, .ok ()⟩ :: made, ?_, ha, hkeeps.trans hdb, ?_⟩
    · rw [run_noted_ask (emit_answer s e w), hrun, ← List.append_cons]
    · exact List.forall_mem_cons.mpr ⟨⟨e, rfl⟩, htold⟩

/-- A run of a script with one change has done nothing, or has made the change. -/
theorem run_atomic {idle good : α → Prop} {x : Script α} (h : OneChange idle good x)
    (w : World) (l : List Exchange) :
    ∃ r w' made, x.run (noted s.answer) (w, l) = (r, (w', l ++ made)) ∧
      Atomic s idle good w w' made r := by
  induction h generalizing w l with
  | failed e => exact ⟨.error e, w, [], by simp, .inl ⟨.refl w, by simp, by simp⟩⟩
  | @idled a ha =>
    refine ⟨.ok a, w, [], by simp, .inl ⟨.refl w, by simp, ?_⟩⟩
    rintro a' ⟨⟩
    exact ha
  | @look q next looks rest ih =>
    rcases hq : s.answer q w with ⟨r, w₁⟩
    have undone : Undone w w₁ := by
      have := look_undone s looks w
      rwa [hq] at this
    obtain ⟨r', w', made, hrun, hatomic⟩ := ih r w₁ (l ++ [⟨q, r⟩])
    refine ⟨r', w', ⟨q, r⟩ :: made, ?_, hatomic.cons s (Exchange.quiet_of_looks looks r) undone⟩
    rw [run_noted_ask hq, hrun, ← List.append_cons]
  | @change q next changes lost kept ih =>
    rcases hq : s.answer q w with ⟨r, w₁⟩
    cases r with
    | error e =>
      have undone : Undone w w₁ := by
        have := change_undone s changes (w := w) (e := e) (by rw [hq])
        rwa [hq] at this
      obtain ⟨r', w', made, hrun, hatomic⟩ := ih e w₁ (l ++ [⟨q, .error e⟩])
      refine ⟨r', w', ⟨q, .error e⟩ :: made, ?_, ?_⟩
      · rw [run_noted_ask hq, hrun, ← List.append_cons]
      · exact hatomic.cons s (Exchange.quiet_of_lost changes e) undone
    | ok a =>
      obtain ⟨b, w', told, hrun, hb, hdb, htold⟩ :=
        closing_keeps s (kept a) w₁ (l ++ [⟨q, .ok a⟩])
      refine ⟨.ok b, w', ⟨q, .ok a⟩ :: told, ?_, .inr ⟨?_, b, rfl, hb⟩⟩
      · rw [run_noted_ask hq, hrun, ← List.append_cons]
      · have quiet : ∀ y ∈ ([] : List Exchange), y.Quiet := by simp
        exact .mk (.refl w) quiet ⟨changes, a, rfl⟩ hq htold hdb

/-- What a dispatch requested, with the answers. -/
def exchanges (maxAttempts kind config payload : Json) (context : Context) (w : World) :
    List Exchange :=
  (((Registry.standard maxAttempts).dispatch kind config (Payload.read payload) context).run
    (noted s.answer) (w, [])).2.2

/-- The dispatch of an action to the handlers of all kinds is done as a whole or not at all: when it
fails or reports a failure, nothing was stored and nobody was told anything; when it reports
success, one change was made and clients were told after it. -/
theorem dispatch_atomic (maxAttempts kind config payload : Json) (context : Context) (w : World) :
    let setup := { s with registry := Registry.standard maxAttempts }
    let made := exchanges setup maxAttempts kind config payload context w
    match setup.dispatch kind config payload context w with
    | (.error _, w') => Undone w w' ∧ ∀ x ∈ made, x.Quiet
    | (.ok none, _) => False
    | (.ok (some r), w') =>
      if r.success.truthy then DoneOnce setup w w' made else Undone w w' ∧ ∀ x ∈ made, x.Quiet := by
  intro setup made
  have one := dispatch_oneChange maxAttempts kind config (Payload.read payload) context
  obtain ⟨r, w', made', hrun, hatomic⟩ := run_atomic setup one w []
  have hmade : made = made' := congrArg (fun p => p.2.2) hrun
  have follows := run_noted setup.answer
    ((Registry.standard maxAttempts).dispatch kind config (Payload.read payload) context)
  have hr := follows.answer w []
  have hw := follows.state w []
  rw [hrun] at hr hw
  have hdispatch : setup.dispatch kind config payload context w = (r, w') :=
    Prod.ext hr.symm hw.symm
  rw [hdispatch, hmade]
  rcases hatomic with ⟨undone, quiet, hidle⟩ | ⟨done, a, ha, r', rfl, hgood⟩
  · cases r with
    | error e => exact ⟨undone, quiet⟩
    | ok a =>
      obtain ⟨r', rfl, hfailed⟩ := hidle a rfl
      have hfalse : ¬ r'.success.truthy = true := hfailed
      dsimp only
      rw [if_neg hfalse]
      exact ⟨undone, quiet⟩
  · subst ha
    have htrue : r'.success.truthy = true := hgood
    dsimp only
    rw [if_pos htrue]
    exact done

end TaskRules.Engine
