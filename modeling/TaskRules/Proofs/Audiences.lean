import TaskRules.Proofs.EventIndependence
import TaskRules.Proofs.Notifications

/-!
Who hears of an action when events are published on the broker. A topic is a stem, the kind of
audience and an id, put together without any escape; still no two audiences share one, since the
text between stem and id tells projects from users and is the same for all of one kind. The id comes
from the event, which each action fills from the row that it changed or added.

Proved:
- `topic_injective`: two audiences with one topic are the same, whatever the stem and the ids hold.
- `isFor_of_announced`: every event that announces an action is for an audience and carries its id;
  `published_of_routed`: so its message goes to the topic of that audience.
- `emit_calls`, `telling_calls`: telling an event publishes it and stores nothing.
- `Publishes.announcing`: by induction on the script, a dispatch publishes the events that it tells,
  in order, and nothing else.
- `messages_reach_their_audience`: what a dispatch that succeeds publishes, and to whom.
-/

namespace TaskRules

/-- Those who are told of something: the members of a project, or one user. -/
inductive Audience where
  | project (id : String)
  | user (id : String)

namespace Audience

def id : Audience → String
  | .project id => id
  | .user id => id

/-- The topic that an audience listens to. -/
def topic (stem : String) : Audience → String
  | .project id => stem ++ "/projects/" ++ id ++ "/events"
  | .user id => stem ++ "/users/" ++ id ++ "/notifications"

theorem between_injective {stem before after : String} {id id' : String}
    (h : stem ++ before ++ id ++ after = stem ++ before ++ id' ++ after) : id = id' := by
  rw [String.append_left_inj, String.append_right_inj] at h
  exact h

/-- The topics of projects and users part right after the stem. -/
theorem project_ne_user (stem id id' : String) :
    topic stem (.project id) ≠ topic stem (.user id') := by
  intro h
  have letters := congrArg String.toList h
  simp only [topic, String.toList_append, List.append_assoc, List.append_right_inj] at letters
  cases letters

theorem topic_injective (stem : String) : Function.Injective (topic stem) := by
  intro a b h
  cases a with
  | project id =>
    cases b with
    | project id' => rw [between_injective h]
    | user id' => exact absurd h (project_ne_user stem id id')
  | user id =>
    cases b with
    | project id' => exact absurd h.symm (project_ne_user stem id' id)
    | user id' => rw [between_injective h]

end Audience

/-! ## Whom an event is for -/

/-- The kinds of events about a task. -/
def Event.taskKinds : List String :=
  [Event.taskCreated, Event.taskUpdated, Event.taskStatusChanged, Event.taskAssigned]

/-- Whom an event is for, by the row it names: the project that a task or the task of a comment is
stored in, or the user that a notification is stored for. -/
inductive IsFor (db : Database) (e : Event) : Audience → Prop
  | task {kind id : String} {task : Task} (ofKind : e.kind = .str kind)
      (aboutTask : kind ∈ Event.taskKinds)
      (names : Json.Fields.get? e.data "taskId" = some (.str id))
      (stored : db.task? id = some task) : IsFor db e (.project task.projectId)
  | comment {row : Comment} {task : Task} (ofKind : e.kind = .str Event.commentAdded)
      (names : Json.Fields.get? e.data "commentId" = some (.str row.id))
      (stored : row ∈ db.comments) (of : db.task? row.taskId = some task) :
      IsFor db e (.project task.projectId)
  | notification {row : Notification} (ofKind : e.kind = .str Event.notification)
      (names : Json.Fields.get? e.data "notificationId" = some (.str row.id))
      (stored : row ∈ db.notifications) : IsFor db e (.user row.userId)

/-- An event that carries the id of an audience where topics are read from. -/
def Event.RoutedTo (e : Event) : Audience → Prop
  | .project id => e.kind.same (.str Event.notification) = false ∧
    Json.Fields.get? e.data "projectId" = some (.str id)
  | .user id => e.kind.same (.str Event.notification) = true ∧
    Json.Fields.get? e.data "userId" = some (.str id)

theorem Event.idText?_of_get? {data : Json.Fields} {name id : String}
    (h : Json.Fields.get? data name = some (.str id)) :
    Event.idText? data name = if id = "" then none else some id := by
  rw [Event.idText?, h]
  by_cases empty : id = ""
  · rw [if_pos empty, empty]
    rfl
  · rw [if_neg empty]
    exact if_pos (bne_iff_ne.mpr empty)

/-- The topic of an event is that of its audience; without an id there is none. -/
theorem Event.RoutedTo.topic? {e : Event} {a : Audience} (h : e.RoutedTo a) (stem : String) :
    e.topic? stem = if a.id = "" then none else some (a.topic stem) := by
  unfold Event.topic?
  cases a with
  | project id =>
    rw [h.1, if_neg Bool.false_ne_true, Event.idText?_of_get? h.2, apply_ite (Option.map _)]
    rfl
  | user id =>
    rw [h.1, if_pos rfl, Event.idText?_of_get? h.2, apply_ite (Option.map _)]
    rfl

end TaskRules

namespace TaskRules.Engine
open TaskRules.Action

theorem routed_of_aboutTask {db : Database} {kind id : String} {e : Event}
    (other : kind ≠ Event.notification) (h : AboutTask db kind id e) :
    ∃ task, db.task? id = some task ∧ e.RoutedTo (.project task.projectId) := by
  obtain ⟨task, stored, ofKind, -, routing⟩ := h
  refine ⟨task, stored, ?_, routing⟩
  rw [ofKind]
  exact beq_false_of_ne other

theorem isFor_of_aboutTask {db : Database} {kind id : String} {e : Event}
    (known : kind ∈ Event.taskKinds) (h : AboutTask db kind id e) :
    ∃ a, IsFor db e a ∧ e.RoutedTo a := by
  have other : kind ≠ Event.notification := by
    rintro rfl
    exact absurd known (by decide)
  obtain ⟨task, stored, routed⟩ := routed_of_aboutTask other h
  obtain ⟨-, -, ofKind, names, -⟩ := h
  exact ⟨.project task.projectId, .task ofKind known names stored, routed⟩

theorem update_known {c : Config} {configured : Option String} {kind : String}
    (update : c.update? = some (configured, kind)) : kind ∈ Event.taskKinds := by
  cases c <;> cases update <;> decide

theorem exists_left_of_forall₂ {R : α → β → Prop} {l : List α} {l' : List β}
    (h : List.Forall₂ R l l') {b : β} (mem : b ∈ l') : ∃ a, R a b := by
  induction h with
  | nil => cases mem
  | cons first _ ih =>
    rcases List.mem_cons.mp mem with rfl | later
    · exact ⟨_, first⟩
    · exact ih later

/-- Every event that announces an action is for an audience, and carries its id. -/
theorem isFor_of_announced {payload : Json.Fields} {before after : Database} {c : Config}
    {es : List Event} (h : Announced payload before after c es) :
    ∀ e ∈ es, ∃ a, IsFor after e a ∧ e.RoutedTo a := by
  intro e told
  cases h with
  | assigned about each =>
    obtain ⟨user, event, -⟩ := exists_left_of_forall₂ each told
    exact isFor_of_aboutTask (by decide) event
  | updated update about event =>
    cases List.mem_singleton.mp told
    exact isFor_of_aboutTask (update_known update) event
  | commented about stored new ofTask event names =>
    cases List.mem_singleton.mp told
    obtain ⟨task, found, routed⟩ := routed_of_aboutTask (by decide) event
    obtain ⟨-, -, ofKind, -⟩ := event
    rw [← ofTask] at found
    exact ⟨.project task.projectId, .comment ofKind names stored found, routed⟩
  | created new event =>
    cases List.mem_singleton.mp told
    exact isFor_of_aboutTask (by decide) event
  | notified each =>
    obtain ⟨user, row, stored, -, rfl, ofKind, names, routing⟩ :=
      exists_left_of_forall₂ each told
    refine ⟨.user row.userId, .notification ofKind names stored, ?_, routing⟩
    rw [ofKind]
    exact beq_self_eq_true _

/-! ## Messages -/

/-- What is published of an event: one message on its topic, unless it has none or the broker
refuses. -/
def published (s : Setup) (now : Moment) (e : Event) : List (Broker.Client × Broker.Call) :=
  match e.topic? s.settings.topicStem.display with
  | none => []
  | some topic =>
    if s.refused.contains "publish" then []
    else [(.events, .publish topic (e.envelope now).text 1)]

theorem published_of_routed {e : Event} {a : Audience} (h : e.RoutedTo a) (s : Setup)
    (now : Moment) :
    published s now e =
      if a.id = "" ∨ s.refused.contains "publish" = true then []
      else
        [(.events, .publish (a.topic s.settings.topicStem.display) (e.envelope now).text 1)] := by
  unfold published
  rw [h.topic?]
  by_cases empty : a.id = ""
  · rw [if_pos empty, if_pos (.inl empty)]
  · rw [if_neg empty]
    simp only [empty, false_or]

variable {s : Setup}

/-- Telling an event publishes it. -/
theorem emit_calls (broker : s.notifier = .broker) (e : Event) (w : World) :
    (s.emit e w).2.calls = w.calls ++ published s w.store.now e := by
  have delivered : (s.deliver e w).2.calls = w.calls ++ published s w.store.now e := by
    unfold Setup.deliver Setup.publishEvent published
    rw [broker]
    dsimp only
    cases e.topic? s.settings.topicStem.display with
    | none => exact (List.append_nil _).symm
    | some topic =>
      show (World.call s.refused .events (.publish topic _ 1) w).2.calls = _
      cases refused : s.refused.contains "publish" with
      | true => simp only [World.call, Broker.Call.name, refused, if_true, List.append_nil]
      | false => simp only [World.call, Broker.Call.name, refused, Bool.false_eq_true, if_false]
  rw [Setup.emit, Run.bind_of_ok (Run.attempt_apply _ w)]
  cases (s.deliver e w).1 with
  | ok u => exact delivered
  | error fault => exact delivered

/-- Any other request leaves the broker alone. -/
theorem answer_calls {q : Request} (silent : ∀ e, q ≠ .emit e) (w : World) :
    (s.answer q w).2.calls = w.calls := by
  cases q with
  | nextNumber project =>
    show (Setup.nextNumber project w).2.calls = w.calls
    unfold Setup.nextNumber
    split <;> rfl
  | createTask d assigneeIds =>
    show (Setup.createTask d assigneeIds w).2.calls = w.calls
    rw [Setup.createTask, Run.bind_of_ok (Run.attempt_apply _ w)]
    cases (World.onStore (Store.createTask d assigneeIds) w).1 with
    | ok task => rfl
    | error e =>
      dsimp only
      split <;> rfl
  | emit e => exact absurd rfl (silent e)
  | _ => rfl

/-- What a script that tells events does on the broker: it publishes them, in order. -/
theorem telling_calls (broker : s.notifier = .broker) {es : List Event} {x : Script α}
    (h : Telling es x) (w : World) :
    (x.run s.answer w).2.store = w.store ∧
      (x.run s.answer w).2.calls = w.calls ++ es.flatMap (published s w.store.now) := by
  induction h generalizing w with
  | done a => exact ⟨rfl, by simp [Script.run]⟩
  | @tell e es next rest ih =>
    have kept := (emit_keeps s e w).2.1
    obtain ⟨store, calls⟩ := ih (s.emit e w).2
    rw [kept, emit_calls broker, List.append_assoc] at calls
    rw [Script.run_ask, emit_answer]
    exact ⟨store.trans kept, calls⟩

/-- A script that publishes what it tells, in order and when everything is stored. -/
def Publishes (s : Setup) (x : Script α) (w : World) : Prop :=
  ∀ l, ∃ made, (x.run (noted s.answer) (w, l)).2.2 = l ++ made ∧
    (x.run s.answer w).2.calls = w.calls ++
      (toldEvents made).flatMap (published s (x.run s.answer w).2.store.now)

namespace Publishes

/-- Any request but an event may come before. -/
theorem ask {q : Request} (silent : ∀ e, q ≠ .emit e)
    {next : Except Fault q.Answer → Script α} {w : World}
    (rest : Publishes s (next (s.answer q w).1) (s.answer q w).2) :
    Publishes s (.ask q next) w := by
  intro l
  obtain ⟨made, hmade, calls⟩ := rest (l ++ [⟨q, (s.answer q w).1⟩])
  have told : toldEvents (⟨q, (s.answer q w).1⟩ :: made) = toldEvents made := by
    cases q <;> first | rfl | exact absurd rfl (silent _)
  refine ⟨⟨q, (s.answer q w).1⟩ :: made, ?_, ?_⟩
  · rw [Script.run_ask, noted_apply, hmade, ← List.append_cons]
  · rw [Script.run_ask, told, calls, answer_calls silent]

theorem telling (broker : s.notifier = .broker) {es : List Event} {x : Script α}
    (h : Telling es x) (w : World) : Publishes s x w := by
  intro l
  have hemit : ∀ e w, (s.answer (.emit e) w).1 = .ok () := fun e w => (emit_keeps s e w).1
  obtain ⟨r, w', hrun⟩ := run_telling hemit h w l
  obtain ⟨store, calls⟩ := telling_calls broker h w
  refine ⟨es.map emission, by rw [hrun], ?_⟩
  rw [toldEvents_emissions, store]
  exact calls

/-- After its change a script with an announcement tells, and nothing else. -/
theorem announcing (broker : s.notifier = .broker)
    {P : (q : Request) → q.Answer → List Event → Prop} {x : Script α} (h : Announces P x)
    (w : World) : Publishes s x w := by
  induction h generalizing w with
  | done r => exact fun l => ⟨[], (List.append_nil l).symm, (List.append_nil _).symm⟩
  | @look q next looks rest ih =>
    refine .ask ?_ (ih _ _)
    rintro e rfl
    cases looks
  | @change q next changes lost made ih =>
    refine .ask ?_ ?_
    · rintro e rfl
      cases changes
    · cases (s.answer q w).1 with
      | error e => exact ih e _
      | ok a =>
        obtain ⟨es, tells, -⟩ := made a
        exact telling broker tells _

end Publishes

/-! ## Dispatches -/

/-- What a dispatch that succeeds has requested announces its change. -/
theorem Dispatch.announced {d : Dispatch} {w w' : World} {r : Result}
    (ran : d.run w = (.ok (some r), w')) (success : r.success.truthy = true) :
    AnnouncedAfter d.kind d.config d.payload w.store.db w'.store.db
      (exchanges d.engine d.maxAttempts d.kind d.config d.payload d.context w) := by
  obtain ⟨r', w'', made, hnoted, hatomic⟩ := run_atomic d.engine
    (dispatch_oneChange d.maxAttempts d.kind d.config (Payload.read d.payload) d.context) w []
  have hmade : exchanges d.engine d.maxAttempts d.kind d.config d.payload d.context w = made :=
    congrArg (fun p => p.2.2) hnoted
  cases ran.symm.trans (run_of_noted hnoted)
  rw [hmade]
  rcases hatomic with ⟨-, -, hidle⟩ | ⟨done, -⟩
  · obtain ⟨_, same, failed⟩ := hidle _ rfl
    cases same
    exact absurd success failed
  · refine done.announced ?_
    rw [← hmade]
    exact exchanges_announced d.engine d.maxAttempts d.kind d.config d.payload d.context w

theorem Dispatch.publishes {d : Dispatch} (broker : d.setup.notifier = .broker) {w w' : World}
    {r : Except Fault (Option Result)} (ran : d.run w = (r, w')) :
    w'.calls = w.calls ++ (toldEvents (exchanges d.engine d.maxAttempts d.kind d.config d.payload
      d.context w)).flatMap (published d.setup w'.store.now) := by
  have announces : Announces (Fits d.engine d.kind d.config (Payload.read d.payload))
      ((Registry.standard d.maxAttempts).dispatch d.kind d.config (Payload.read d.payload)
        d.context) :=
    dispatch_announces d.maxAttempts d.kind d.config (Payload.read d.payload) d.context
  obtain ⟨made, hmade, calls⟩ := Publishes.announcing (s := d.engine) broker announces w []
  have same : ((Registry.standard d.maxAttempts).dispatch d.kind d.config (Payload.read d.payload)
      d.context).run d.engine.answer w = (r, w') := ran
  rw [same] at calls
  rw [exchanges, hmade, List.nil_append]
  exact calls

/-- A dispatch that succeeds with events published on the broker publishes one message for each
event that it tells and nothing else, in order. Each event is for the project that its task is
stored in, or the user that its notification is stored for, and its message goes to the topic of
that audience; and no two audiences share a topic, under any stem. -/
theorem messages_reach_their_audience {d : Dispatch} (broker : d.setup.notifier = .broker)
    {w w' : World} {r : Result} (ran : d.run w = (.ok (some r), w'))
    (success : r.success.truthy = true) :
    let told := toldEvents
      (exchanges d.engine d.maxAttempts d.kind d.config d.payload d.context w)
    w'.calls = w.calls ++ told.flatMap (published d.setup w'.store.now) ∧
      (∀ e ∈ told, ∃ a, IsFor w'.store.db e a ∧
        published d.setup w'.store.now e =
          if a.id = "" ∨ d.setup.refused.contains "publish" = true then []
          else [(.events, .publish (a.topic d.setup.settings.topicStem.display)
            (e.envelope w'.store.now).text 1)]) ∧
      ∀ stem, Function.Injective (Audience.topic stem) := by
  intro told
  obtain ⟨c, p, -, -, announced⟩ := (d.announced ran success).toldEvents
  refine ⟨d.publishes broker ran, fun e mem => ?_, Audience.topic_injective⟩
  obtain ⟨a, isFor, routed⟩ := isFor_of_announced announced e mem
  exact ⟨a, isFor, published_of_routed routed d.setup w'.store.now⟩

/-- The announcement, with events published on the broker. -/
def broadcast : Dispatch := { announcement with setup := { notifier := .broker } }

/-- The topic that a call publishes on. -/
def topicOf? : Broker.Client × Broker.Call → Option String
  | (_, .publish topic _ _) => some topic
  | _ => none

theorem an_announcement_reaches_its_recipients :
    ∃ r w', broadcast.run office = (.ok (some r), w') ∧
      w'.calls.filterMap topicOf? =
        ["linxio/users/u-bob/notifications", "linxio/users/u-alice/notifications"] ∧
      let told := toldEvents (exchanges broadcast.engine broadcast.maxAttempts broadcast.kind
        broadcast.config broadcast.payload broadcast.context office)
      w'.calls = office.calls ++ told.flatMap (published broadcast.setup w'.store.now) ∧
      (∀ e ∈ told, ∃ a, IsFor w'.store.db e a ∧
        published broadcast.setup w'.store.now e =
          if a.id = "" ∨ broadcast.setup.refused.contains "publish" = true then []
          else [(.events, .publish (a.topic broadcast.setup.settings.topicStem.display)
            (e.envelope w'.store.now).text 1)]) ∧
      ∀ stem, Function.Injective (Audience.topic stem) := by
  have succeeds : broadcast.Succeeds office := by decide +kernel
  have topics : (broadcast.run office).2.calls.filterMap topicOf? =
      ["linxio/users/u-bob/notifications", "linxio/users/u-alice/notifications"] := by
    decide +kernel
  obtain ⟨r, w', ran, success⟩ := succeeds.run
  rw [ran] at topics
  exact ⟨r, w', ran, topics, messages_reach_their_audience (d := broadcast) rfl ran success⟩

end TaskRules.Engine
