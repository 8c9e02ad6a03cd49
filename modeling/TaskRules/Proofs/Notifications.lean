import TaskRules.Proofs.ConfigurationErrors
import TaskRules.Proofs.EventIndependence
import TaskRules.Proofs.Recipients
import TaskRules.Proofs.ReferentialIntegrity

/-!
Notifications, one for each recipient. A dispatch that notifies adds the rows of all its recipients
at once and is answered with their ids; the events pair the recipients with these ids by position.
So who is told of which row depends on the rows being added in the order of the recipients.

Proved:
- `run_each_emit`, `run_notify_ok`, `run_notify_error`: what a run requests, and what it leaves.
- `Delivered`, `delivered_of_notify`: the rows, the result and the events once the store has added
  the rows.
- `one_notification_each`: which configurations are refused, when a dispatch succeeds, and that then
  every recipient has one new row and is told of that row.
-/

namespace TaskRules.Action

/-! ## The dispatch -/

/-- An accepted configuration of a notification, with its fields. -/
structure SendNotification.Accepted (config : Json) (c : SendNotification) : Prop where
  form : ∃ fields, config = .obj fields ∧ c.Formed fields
  somebody : ∃ id ∈ c.named, id ≠ ""

theorem dispatch_notify {config : Json} {c : SendNotification} (accepted : c.Accepted config)
    (maxAttempts : Json) (payload : Payload) (context : Context) :
    (Registry.standard maxAttempts).dispatch (.str "SEND_NOTIFICATION") config (.ok payload)
        context =
      (notify c payload context >>= fun r => pure (some r)).settle Registry.configFailure := by
  obtain ⟨fields, rfl, formed⟩ := accepted.form
  have given : (Json.obj fields).truthy = true := by
    cases fields with
    | nil => cases formed.message
    | cons f rest => rfl
  have read : readFields .sendNotification fields = .ok (.sendNotification c) := by
    rw [readFields, readSendNotification_iff.mpr ⟨formed, accepted.somebody⟩]
    rfl
  rw [dispatch_given payload maxAttempts context rfl given,
    handle_accepted payload maxAttempts context read]
  rfl

theorem accepted_of_reads {config : Json} {c : Config}
    (h : Reads (.str "SEND_NOTIFICATION") config c) :
    ∃ d, c = .sendNotification d ∧ d.Accepted config := by
  obtain ⟨k, fields, known, rfl, read⟩ := h
  cases known
  obtain ⟨d, hd, rfl⟩ := Schema.map_ok read
  obtain ⟨formed, somebody⟩ := readSendNotification_iff.mp hd
  exact ⟨d, rfl, ⟨fields, rfl, formed⟩, somebody⟩

end TaskRules.Action

namespace TaskRules.Engine
open TaskRules.Action

/-! ## Runs -/

section Runs
variable (s : Setup)

/-- Events that are told one after another; delivering them leaves the store alone. -/
theorem run_each_emit (event : α → Event) (l : List α) (w : World) (made : List Exchange) :
    ∃ w', (each (fun a => Script.request (.emit (event a))) l).run (noted s.answer) (w, made) =
        (.ok (), (w', made ++ (l.map event).map emission)) ∧ w'.store = w.store := by
  induction l generalizing w made with
  | nil => exact ⟨w, by rw [List.map_nil, List.map_nil, List.append_nil]; rfl, rfl⟩
  | cons a rest ih =>
    obtain ⟨w', hrun, kept⟩ := ih (s.emit (event a) w).2 (made ++ [emission (event a)])
    refine ⟨w', ?_, kept.trans (emit_keeps s (event a) w).2.1⟩
    rw [List.map_cons, List.map_cons, List.append_cons]
    refine Eq.trans ?_ hrun
    exact run_noted_ask (emit_answer s (event a) w) _ made

variable {s} {c : SendNotification} {context : Context} {w w₁ : World} (payload : Payload)

/-- When the rows are added, all the events are told. -/
theorem run_notify_ok {ids : List String}
    (h : s.answer (.notify (c.recipients.map (noticeFor c context))) w = (.ok ids, w₁)) :
    ∃ w' made, (notify c payload context).run (noted s.answer) (w, []) =
        (.ok (.ok [("userIds", textsJson c.recipients), ("notificationIds", textsJson ids),
          ("message", .str c.message)]), (w', made)) ∧ w'.store = w₁.store ∧
      toldEvents made = (c.recipients.zip ids).map fun p => noticeEvent c payload p.1 p.2 := by
  obtain ⟨w', told, kept⟩ := run_each_emit s
    (fun p : String × String => noticeEvent c payload p.1 p.2) (c.recipients.zip ids) w₁
    ([] ++ [⟨.notify (c.recipients.map (noticeFor c context)), .ok ids⟩])
  refine ⟨w', [⟨.notify (c.recipients.map (noticeFor c context)), .ok ids⟩] ++
    ((c.recipients.zip ids).map fun p => noticeEvent c payload p.1 p.2).map emission, ?_, kept,
    toldEvents_emissions _⟩
  refine (run_noted_ask h _ []).trans ?_
  exact (congrFun (Script.run_bind _ (each _ _) _) _).trans (Run.bind_of_ok told _)

theorem run_notify_error {e : Fault}
    (h : s.answer (.notify (c.recipients.map (noticeFor c context))) w = (.error e, w₁)) :
    (notify c payload context).run s.answer w = (.error e, w₁) := by
  show (Script.ask (.notify _) _).run _ _ = _
  rw [Script.run_ask, h]
  rfl

end Runs

/-! ## Delivery -/

/-- What a dispatch leaves that has notified: one new row for each recipient, with the texts of the
configuration, and one event for each row, which names the row's own user. -/
structure Delivered (c : SendNotification) (payload : Payload) (context : Context)
    (before after : Database) (r : Result) (told : List Event) (rows : List Notification) :
    Prop where
  users : FirstNamed c.named (rows.map (·.userId))
  texts : ∀ row ∈ rows, row.title = c.title ∧ row.message = c.message ∧ row.type = c.type ∧
    row.data = .obj [("ruleId", context.ruleId)]
  ids : (rows.map (·.id)).Nodup
  new : ∀ row ∈ rows, ∀ old ∈ before.notifications, old.id ≠ row.id
  db : after = { before with notifications := before.notifications ++ rows }
  result : r = .ok [("userIds", textsJson (rows.map (·.userId))),
    ("notificationIds", textsJson (rows.map (·.id))), ("message", .str c.message)]
  events : told = rows.map fun row => noticeEvent c payload row.userId row.id

theorem users_of_holds {c : SendNotification} {context : Context} {people : List String}
    {rows : List Notification}
    (h : List.Forall₂ Store.Holds (people.map (noticeFor c context)) rows) :
    rows.map (·.userId) = people ∧ ∀ row ∈ rows, row.title = c.title ∧ row.message = c.message ∧
      row.type = c.type ∧ row.data = .obj [("ruleId", context.ruleId)] := by
  induction people generalizing rows with
  | nil =>
    cases h
    exact ⟨rfl, by simp⟩
  | cons id rest ih =>
    cases h with
    | @cons _ row _ others first later =>
      obtain ⟨same, texts⟩ := ih later
      refine ⟨?_, List.forall_mem_cons.mpr ⟨?_, texts⟩⟩
      · rw [List.map_cons, same, first.user id rfl]
      · exact ⟨first.title _ rfl, first.message _ rfl, first.type _ rfl, first.data _ rfl⟩

/-- Once the store has added the rows, the dispatch succeeds and tells of them. -/
theorem delivered_of_notify {d : Dispatch} (kind : d.kind = .str "SEND_NOTIFICATION")
    {c : SendNotification} (accepted : c.Accepted d.config) {p : Payload}
    (read : Payload.read d.payload = .ok p) {w : World} {ids : List String} {store : Store}
    (added : Store.notify (c.recipients.map (noticeFor c d.context)) w.store = (.ok ids, store)) :
    ∃ r w' rows, d.run w = (.ok (some r), w') ∧ r.success.truthy = true ∧
      Delivered c p d.context w.store.db w'.store.db r (toldEvents (exchanges d.engine d.maxAttempts
        d.kind d.config d.payload d.context w)) rows := by
  obtain ⟨w', made, hrun, kept, told⟩ := run_notify_ok (s := d.engine) p (onStore_apply added)
  obtain ⟨rows, holds, rfl, distinct, new, hdb⟩ := Store.notify_ok added
  obtain ⟨users, texts⟩ := users_of_holds holds
  have whole : ((Registry.standard d.maxAttempts).dispatch d.kind d.config (Payload.read d.payload)
      d.context).run (noted d.engine.answer) (w, []) =
        (.ok (some (.ok [("userIds", textsJson c.recipients),
          ("notificationIds", textsJson (rows.map (·.id))), ("message", .str c.message)])),
          (w', made)) := by
    rw [kind, read, dispatch_notify accepted, Script.run_settle, Script.run_bind,
      Run.bind_of_ok hrun]
    rfl
  refine ⟨_, w', rows, run_of_noted whole, rfl, ?_⟩
  rw [exchanges, whole]
  refine ⟨users ▸ recipients_first c, texts, distinct, new, ?_, by rw [users], ?_⟩
  · rw [kept]
    exact hdb
  · show toldEvents made = _
    rw [told, ← users, List.zip_map', List.map_map]
    rfl

/-- When the store refuses the rows, the dispatch does not succeed. -/
theorem not_succeeds_of_refused {d : Dispatch} (kind : d.kind = .str "SEND_NOTIFICATION")
    {c : SendNotification} (accepted : c.Accepted d.config) {p : Payload}
    (read : Payload.read d.payload = .ok p) {w : World} {e : Fault} {store : Store}
    (refused : Store.notify (c.recipients.map (noticeFor c d.context)) w.store =
      (.error e, store)) : ¬d.Succeeds w := by
  have failed : (d.run w).1 = Registry.configFailure (.error e) := by
    show (Script.run d.engine.answer
      ((Registry.standard d.maxAttempts).dispatch d.kind d.config (Payload.read d.payload)
        d.context) w).1 = _
    rw [kind, read, dispatch_notify accepted, Script.run_settle, Script.run_bind,
      Run.bind_of_error (run_notify_error p (onStore_apply refused))]
  rintro ⟨ending, hending, r, rfl, succeeded⟩
  rw [failed] at hending
  rcases configFailure_error e with ⟨e', same⟩ | ⟨_, same, r', rfl, reports⟩
  · rw [same] at hending
    cases hending
  · rw [same] at hending
    cases hending
    exact reports succeeded

/-! ## One for each recipient -/

theorem Dispatch.Succeeds.run {d : Dispatch} {w : World} (h : d.Succeeds w) :
    ∃ r w', d.run w = (.ok (some r), w') ∧ r.success.truthy = true := by
  obtain ⟨_, ran, r, rfl, succeeded⟩ := h
  exact ⟨r, _, Prod.ext ran rfl, succeeded⟩

/-- A configuration is refused when its fields are not of their forms or name nobody. -/
theorem refused_iff {config : Json} :
    (∃ problems, Action.read .sendNotification config = .error problems) ↔
      ∀ c : SendNotification, ¬c.Accepted config := by
  have accepts (c : SendNotification) :
      Action.read .sendNotification config = .ok (.sendNotification c) ↔ c.Accepted config := by
    rw [read_sendNotification_iff]
    constructor
    · rintro ⟨fields, object, formed, somebody⟩
      exact ⟨⟨fields, object, formed⟩, somebody⟩
    · rintro ⟨⟨fields, object, formed⟩, somebody⟩
      exact ⟨fields, object, formed, somebody⟩
  constructor
  · rintro ⟨problems, refused⟩ c accepted
    rw [(accepts c).mpr accepted] at refused
    cases refused
  · intro nobody
    cases h : Action.read .sendNotification config with
    | error problems => exact ⟨problems, rfl⟩
    | ok c =>
      obtain ⟨fields, -, read⟩ := Schema.also_ok h
      obtain ⟨d, -, rfl⟩ := Schema.map_ok read
      exact absurd ((accepts d).mp h) (nobody d)

/-- A configuration is refused exactly when a field is not of its form or nobody is named. A
dispatch to notify succeeds exactly when its configuration is accepted, its payload can be read and
the store takes the rows; it then has added one row for each user that is named, in the order in
which they are first named, and no other row, reports the users and the ids of their rows in that
order, and has told one event for each row, of the row's own user. -/
theorem one_notification_each {d : Dispatch} (kind : d.kind = .str "SEND_NOTIFICATION")
    (w : World) :
    ((∃ problems, Action.read .sendNotification d.config = .error problems) ↔
      ∀ c : SendNotification, ¬c.Accepted d.config) ∧
    (d.Succeeds w ↔ ∃ (c : SendNotification) (p : Payload) (ids : List String),
      c.Accepted d.config ∧ Payload.read d.payload = .ok p ∧
        (Store.notify (c.recipients.map (noticeFor c d.context)) w.store).1 = .ok ids) ∧
    ∀ r w', d.run w = (.ok (some r), w') → r.success.truthy = true →
      ∃ c p rows, SendNotification.Accepted d.config c ∧ Payload.read d.payload = .ok p ∧
        Delivered c p d.context w.store.db w'.store.db r (toldEvents (exchanges d.engine
          d.maxAttempts d.kind d.config d.payload d.context w)) rows := by
  have founded (succeeds : d.Succeeds w) : ∃ c p ids store,
      SendNotification.Accepted d.config c ∧ Payload.read d.payload = .ok p ∧
        Store.notify (c.recipients.map (noticeFor c d.context)) w.store = (.ok ids, store) := by
    rcases d.undone_or_settled w with ⟨failed, -⟩ | ⟨c, p, reads, read, -⟩
    · exact absurd succeeds failed
    obtain ⟨c, rfl, accepted⟩ := accepted_of_reads (kind ▸ reads)
    rcases added : Store.notify (c.recipients.map (noticeFor c d.context)) w.store with
      ⟨_ | ids, store⟩
    · exact absurd succeeds (not_succeeds_of_refused kind accepted read added)
    · exact ⟨c, p, ids, store, accepted, read, added⟩
  refine ⟨refused_iff, ⟨fun succeeds => ?_, ?_⟩, fun r w' ran succeeded => ?_⟩
  · obtain ⟨c, p, ids, store, accepted, read, added⟩ := founded succeeds
    exact ⟨c, p, ids, accepted, read, congrArg Prod.fst added⟩
  · rintro ⟨c, p, ids, accepted, read, added⟩
    obtain ⟨r, w', -, ran, succeeded, -⟩ :=
      delivered_of_notify kind accepted read (Prod.ext added rfl)
    exact ⟨some r, congrArg Prod.fst ran, r, rfl, succeeded⟩
  · obtain ⟨c, p, ids, store, accepted, read, added⟩ :=
      founded ⟨some r, congrArg Prod.fst ran, r, rfl, succeeded⟩
    obtain ⟨r', w'', rows, ran', -, delivered⟩ := delivered_of_notify kind accepted read added
    obtain ⟨same, rfl⟩ := Prod.mk.inj (ran.symm.trans ran')
    cases same
    exact ⟨c, p, rows, accepted, read, delivered⟩

/-- A notification that names a user twice, and nobody once. -/
def announcement : Dispatch :=
  ordered "SEND_NOTIFICATION"
    [("userId", .str "u-bob"), ("userIds", .arr [.str "u-alice", .str "", .str "u-bob"]),
      ("message", .str "hi")]

theorem office_unnotified : office.store.db.notifications = [] :=
  List.isEmpty_iff.mp (by decide +kernel)

theorem announcement_notifies :
    (announcement.run office).2.store.db.notifications.map (·.userId) = ["u-bob", "u-alice"] := by
  decide +kernel

theorem each_named_user_is_notified :
    ∃ c p r w' rows, announcement.run office = (.ok (some r), w') ∧
      Delivered c p announcement.context office.store.db w'.store.db r
        (toldEvents (exchanges announcement.engine announcement.maxAttempts announcement.kind
          announcement.config announcement.payload announcement.context office)) rows ∧
      rows.map (·.userId) = ["u-bob", "u-alice"] := by
  have succeeds : announcement.Succeeds office := by decide +kernel
  obtain ⟨r, w', ran, succeeded⟩ := succeeds.run
  obtain ⟨-, -, delivers⟩ := one_notification_each (d := announcement) rfl office
  obtain ⟨c, p, rows, -, -, delivered⟩ := delivers r w' ran succeeded
  refine ⟨c, p, r, w', rows, ran, delivered, ?_⟩
  have users := announcement_notifies
  rw [ran, delivered.db, office_unnotified] at users
  exact users

end TaskRules.Engine
