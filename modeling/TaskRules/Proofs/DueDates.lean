import TaskRules.Proofs.Notifications
import TaskRules.Proofs.Repetition
import TaskRules.Proofs.TimeTexts

/-!
Due dates that are set from different notations. A date-valued setting is read as a wall clock with
its distance from UTC; the wall clock alone is stored, reported and told. So two due dates are kept
apart as wall clocks are: as instants are where both are written at one distance from UTC, but the
same instant at two distances is two due dates.

Proved:
- `denotes_of_writes`: notations of instants are read as these, numerals apart that could be dates.
- `dispatch_due`: the dispatch of a due date, as a script.
- `leaves_of_takes`, `takes_of_succeeds`, `setsDue_of_gives`: when a dispatch that sets a due date
  succeeds, and what it stores, reports and tells.
- `due_dates_keep_the_wall_clock`: when two of them leave the same due date.
- `instants_are_mixed_up`: that instants are not what is kept.
-/

namespace TaskRules.Action

/-! ## Instants -/

/-- The notations of an instant, in microseconds, on a clock that is so far ahead of UTC: ISO texts
with the distance or with `Z`, and seconds or milliseconds since 1970 as a number or its numeral. -/
inductive WritesInstant : Json → (instant ahead : Int) → Prop
  | iso {m : Moment} {n : Int} (valid : m.Valid) (minutes : Timestamp.WholeMinutes n) :
    WritesInstant (.str (Timestamp.mk m (some n)).iso) (m.micros - n) n
  | isoZ {m : Moment} {n : Int} (valid : m.Valid) (minutes : Timestamp.WholeMinutes n) :
    WritesInstant (.str (Timestamp.mk m (some n)).isoZ) (m.micros - n) n
  | number {n : Int} (h : Timestamp.IsUnix n) : WritesInstant (.int n) (Timestamp.unixMicros n) 0
  | numeral {n : Int} (h : Timestamp.IsUnix n) :
    WritesInstant (.str (decimal n)) (Timestamp.unixMicros n) 0

/-- A date-valued setting that is read as an instant, on a clock that is so far ahead of UTC. -/
def DenotesInstant (v : Json) (instant ahead : Int) : Prop :=
  ∃ t, whenCheck v = .ok t ∧ t.instant? = some instant ∧ t.ahead = some ahead

/-- A text that could be taken for a bare date. -/
def IsBareDate (v : Json) : Prop := ∃ s d, v = .str s ∧ Date.ofTen? s.toList = some d

theorem denotes_number {n : Int} (h : Timestamp.IsUnix n) :
    DenotesInstant (.int n) (Timestamp.unixMicros n) 0 := by
  obtain ⟨t, made⟩ := h.exists_ofWhole
  obtain ⟨-, ahead, instant⟩ := Timestamp.ofWhole_ok made
  exact ⟨t, whenCheck_whole h.small made, instant, ahead⟩

/-- A notation of an instant is read as that instant, unless it could be taken for a bare date. -/
theorem denotes_of_writes {v : Json} {instant ahead : Int} (h : WritesInstant v instant ahead)
    (undated : ¬IsBareDate v) : DenotesInstant v instant ahead := by
  cases h with
  | @iso m _ valid minutes =>
    have read := whenCheck_iso (t := ⟨m, some ahead⟩) valid (by rintro _ ⟨⟩; exact minutes)
    exact ⟨_, read.1, rfl, rfl⟩
  | @isoZ m _ valid minutes =>
    have read := whenCheck_iso (t := ⟨m, some ahead⟩) valid (by rintro _ ⟨⟩; exact minutes)
    exact ⟨_, read.2, rfl, rfl⟩
  | number unix => exact denotes_number unix
  | numeral unix =>
    have read := whenCheck_decimal unix
    split at read
    · rename_i d dated
      exact absurd ⟨_, d, rfl, dated⟩ undated
    · obtain ⟨t, number, known⟩ := denotes_number unix
      exact ⟨t, read.trans number, known⟩

/-- The wall clock of an instant. -/
theorem wall_of_instant {t : Timestamp} {instant ahead : Int} (known : t.instant? = some instant)
    (off : t.ahead = some ahead) : (t.wall.micros : Int) = instant + ahead := by
  rw [Timestamp.instant?, off, Option.map_some] at known
  have := Option.some.inj known
  omega

/-! ## The configuration -/

/-- The due date that a configuration gives. -/
def GivesDue (fields : Json.Fields) (v : Json) : Prop :=
  ∃ name, Schema.find? fields ["dueDate", "due_date"] = some (name, v)

section Reading
variable {fields : Json.Fields} {v : Json} {t : Timestamp}

theorem nullableWhen_ok (accepted : whenCheck v = .ok t) : nullableWhen v = .ok (some t) := by
  unfold nullableWhen Schema.nullable
  split
  · cases accepted
  · rw [accepted]
    rfl

/-- What a configuration that gives a due date is read as. -/
theorem readSetDueDate_iff (gives : GivesDue fields v) (accepted : whenCheck v = .ok t)
    {c : SetDueDate} : readSetDueDate fields = .ok c ↔
      c.dueDate = some t ∧ taskIdField fields = .ok c.taskId := by
  obtain ⟨name, found⟩ := gives
  have due : Schema.required fields ["dueDate", "due_date"] nullableWhen = .ok (some t) := by
    rw [Schema.required, found]
    dsimp only
    rw [nullableWhen_ok accepted]
    rfl
  rw [readSetDueDate, due]
  cases task : taskIdField fields with
  | ok id =>
    constructor
    · rintro ⟨⟩
      exact ⟨rfl, rfl⟩
    · obtain ⟨id', date⟩ := c
      rintro ⟨rfl, ⟨⟩⟩
      rfl
  | error problems =>
    constructor
    · intro h
      cases h
    · rintro ⟨-, h⟩
      cases h

/-- The dispatch of a due date, as a script. -/
theorem dispatch_due {kind : Json} {task : Option String} {p : Payload}
    (known : Registry.kind? kind = some .setDueDate) (gives : GivesDue fields v)
    (accepted : whenCheck v = .ok t) (named : taskIdField fields = .ok task)
    (maxAttempts : Json) (context : Context) :
    (Registry.standard maxAttempts).dispatch kind (.obj fields) (.ok p) context =
      (setDueDate ⟨task, some t⟩ p.named context >>= fun r => pure (some r)).settle
        Registry.configFailure := by
  have read : readFields .setDueDate fields = .ok (.setDueDate ⟨task, some t⟩) := by
    rw [readFields, (readSetDueDate_iff (c := ⟨task, some t⟩) gives accepted).mpr ⟨rfl, named⟩]
    rfl
  have given : (Json.obj fields).truthy = true := by
    obtain ⟨name, found⟩ := gives
    cases fields with
    | nil => cases found
    | cons f rest => rfl
  rw [dispatch_given p maxAttempts context known given, handle_accepted p maxAttempts context read]
  rfl

end Reading
end TaskRules.Action

namespace TaskRules.Engine
open TaskRules.Action

/-! ## The dispatch -/

/-- A dispatch that sets a due date, which its configuration gives. -/
structure Dispatch.GivesDue (d : Dispatch) (v : Json) : Prop where
  kind : Registry.kind? d.kind = some .setDueDate
  config : ∃ fields, d.config = .obj fields ∧ Action.GivesDue fields v

/-- The store takes a due date for the task that a dispatch is about. -/
def Dispatch.Takes (d : Dispatch) (w : World) (due : Moment) : Prop :=
  ∃ fields task p id view store, d.config = .obj fields ∧ taskIdField fields = .ok task ∧
    Payload.read d.payload = .ok p ∧ taskIdOf task p.named = .ok id ∧
    Store.updateTask (.str id) { dueDate := some due, updatedBy := d.context.actor } w.store =
      (.ok view, store)

/-- The event of a task with a new due date. -/
def dueEvent (project id : String) (reported : Json) : Event where
  kind := .str Event.taskUpdated
  data := [("projectId", .str project), ("taskId", .str id), ("dueDate", reported)]

/-- What a dispatch leaves that has set a due date: the row of its task holds it, and the result and
one event report it. -/
def Dispatch.Leaves (d : Dispatch) (w : World) (due : Moment) (reported : Json) : Prop :=
  ∃ r w' id row, d.run w = (.ok (some r), w') ∧ r.success.truthy = true ∧
    r.data = .obj [("taskId", .str id), ("dueDate", reported)] ∧
    w'.store.db.task? id = some row ∧ row.dueDate = some due ∧
    toldEvents (exchanges d.engine d.maxAttempts d.kind d.config d.payload d.context w) =
      [dueEvent row.projectId id reported]

section Run
variable {s : Setup} {w w₁ : World} {due : Moment}

/-- After the change of its due date a task is shown with it. -/
theorem due_of_updateTask {id : String} {actor : Json} {view : TaskView}
    (h : s.answer (.updateTask (.str id) { dueDate := some due, updatedBy := actor }) w =
      (.ok view, w₁)) :
    view.id = id ∧ view.dueDate = some due ∧ ∃ row, w₁.store.db.task? id = some row ∧
      row.dueDate = some due ∧ row.projectId = view.projectId := by
  have made := Store.ok_of_mutate (ok_of_onStore h)
  obtain ⟨-, t, kept, assignments, labels, ht, -, -, -, hdb, rfl⟩ := Database.updateTask_ok made
  obtain rfl := Database.task?_id ht
  refine ⟨rfl, rfl, Database.changedTask t { dueDate := some due, updatedBy := actor } kept
    w.store.now, ?_, rfl, rfl⟩
  rw [hdb, Database.task?_withChange, ht, Option.map_some]
  exact congrArg some (if_pos (beq_iff_eq.mpr rfl))

/-- The result, the store and the events once the due date has been changed. -/
theorem run_setDueDate {task : Option String} {t : Timestamp} {payload : Json.Fields}
    {context : Context} {id : String} {view : TaskView} (about : taskIdOf task payload = .ok id)
    (h : s.answer (.updateTask (.str id) { dueDate := some t.wall, updatedBy := context.actor }) w =
      (.ok view, w₁)) :
    ∃ w' made, (setDueDate ⟨task, some t⟩ payload context).run (noted s.answer) (w, []) =
        (.ok (.ok [("taskId", .str id), ("dueDate", .str t.wall.iso)]), (w', made)) ∧
      w'.store = w₁.store ∧
      toldEvents made = [dueEvent view.projectId id (.str t.wall.iso)] := by
  obtain ⟨rfl, due, -⟩ := due_of_updateTask h
  have shown : Json.ofOption (fun m : Moment => Json.str m.iso) view.dueDate = .str t.wall.iso := by
    rw [due]
    rfl
  rw [← shown]
  obtain ⟨e, he⟩ : ∃ e, e = dueEvent view.projectId view.id
    (Json.ofOption (fun m : Moment => Json.str m.iso) view.dueDate) := ⟨_, rfl⟩
  refine ⟨(s.emit e w₁).2, [⟨.updateTask (.str view.id)
    { dueDate := some t.wall, updatedBy := context.actor }, .ok view⟩, emission e], ?_,
    (emit_keeps s e w₁).2.1, he ▸ rfl⟩
  unfold setDueDate change
  rw [about, he]
  exact (run_noted_ask h _ []).trans (run_noted_ask (emit_answer s _ w₁) _ _)

/-- A change that fails ends the action. -/
theorem ok_of_setDueDate {c : SetDueDate} {payload : Json.Fields} {context : Context} {r : Result}
    {w' : World} (h : (setDueDate c payload context).run s.answer w = (.ok r, w')) :
    ∃ id view w₁, taskIdOf c.taskId payload = .ok id ∧
      s.answer (.updateTask (.str id) (dueDateChange c.dueDate context.actor)) w =
        (.ok view, w₁) := by
  unfold setDueDate at h
  rw [Script.run_bind] at h
  obtain ⟨view, w₁, changed, -⟩ := Run.ok_of_bind h
  unfold change at changed
  cases about : taskIdOf c.taskId payload with
  | error e =>
    rw [about] at changed
    cases changed
  | ok id =>
    rw [about] at changed
    exact ⟨id, view, w₁, rfl, changed⟩

end Run

section Dispatch
variable {d : Dispatch} {v : Json} {t : Timestamp} {w : World}

/-- When the store takes the due date, the dispatch leaves it. -/
theorem leaves_of_takes (gives : d.GivesDue v) (accepted : whenCheck v = .ok t)
    (takes : d.Takes w t.wall) : d.Leaves w t.wall (.str t.wall.iso) := by
  obtain ⟨fields, task, p, id, view, store, config, named, read, about, updated⟩ := takes
  obtain ⟨_, config', given⟩ := gives.config
  cases config.symm.trans config'
  have answered := onStore_apply updated
  obtain ⟨w', made, hrun, kept, told⟩ := run_setDueDate (s := d.engine) about answered
  obtain ⟨rfl, -, row, stored, due, project⟩ := due_of_updateTask (s := d.engine) answered
  have whole : ((Registry.standard d.maxAttempts).dispatch d.kind d.config (Payload.read d.payload)
      d.context).run (noted d.engine.answer) (w, []) =
        (.ok (some (.ok [("taskId", .str view.id), ("dueDate", .str t.wall.iso)])),
          (w', made)) := by
    rw [config, read, dispatch_due gives.kind given accepted named, Script.run_settle,
      Script.run_bind, Run.bind_of_ok hrun]
    rfl
  refine ⟨_, w', view.id, row, run_of_noted whole, rfl, rfl, ?_, due, ?_⟩
  · rw [kept]
    exact stored
  · rw [exchanges, whole, project]
    exact told

/-- When the dispatch succeeds, the store has taken the due date. -/
theorem takes_of_succeeds (gives : d.GivesDue v) (accepted : whenCheck v = .ok t)
    (succeeds : d.Succeeds w) : d.Takes w t.wall := by
  obtain ⟨r, w', ran, success⟩ := Dispatch.Succeeds.run succeeds
  obtain ⟨fields, config, given⟩ := gives.config
  have performed : ((Registry.standard d.maxAttempts).dispatch d.kind d.config
      (Payload.read d.payload) d.context).run d.engine.answer w = (.ok (some r), w') →
        d.Takes w t.wall := by
    refine dispatch_cases d.maxAttempts d.kind d.config (Payload.read d.payload) d.context
      (M := fun x => x.run d.engine.answer w = (.ok (some r), w') → d.Takes w t.wall) ?_ ?_ ?_ ?_
    · rintro record text ran
      cases ran
      cases success
    · rintro text ran
      cases ran
      cases success
    · rintro e ran
      cases ran
    · rintro c p ⟨k, _, known, config', readc⟩ read ran
      cases config.symm.trans config'
      cases gives.kind.symm.trans known
      obtain ⟨⟨task, date⟩, hc, rfl⟩ := Schema.map_ok readc
      obtain ⟨rfl, named⟩ := (readSetDueDate_iff given accepted).mp hc
      have ran' := succeeded_before ran success
      rw [Script.run_bind] at ran'
      obtain ⟨r', w₂, inner, -⟩ := Run.ok_of_bind ran'
      obtain ⟨id, view, w₁, about, answered⟩ := ok_of_setDueDate inner
      exact ⟨fields, task, p, id, view, w₁.store, config, named, read, about,
        ok_of_onStore answered⟩
  exact performed ran

/-- What setting a due date comes to. -/
structure Dispatch.SetsDue (d : Dispatch) (w : World) (due : Moment) : Prop where
  succeeds : d.Succeeds w ↔ d.Takes w due
  leaves : d.Succeeds w → d.Leaves w due (.str due.iso)

/-- A dispatch that gives a due date sets its wall clock. -/
theorem setsDue_of_gives (gives : d.GivesDue v) (accepted : whenCheck v = .ok t) (w : World) :
    d.SetsDue w t.wall := by
  have leaves : d.Takes w t.wall → d.Leaves w t.wall (.str t.wall.iso) :=
    leaves_of_takes gives accepted
  refine ⟨⟨takes_of_succeeds gives accepted, fun takes => ?_⟩, fun succeeds =>
    leaves (takes_of_succeeds gives accepted succeeds)⟩
  obtain ⟨r, w', -, -, ran, success, -⟩ := leaves takes
  exact ⟨_, congrArg Prod.fst ran, r, rfl, success⟩

end Dispatch

/-! ## Two due dates -/

/-- Notations of instants are read as these, numerals apart that could be taken for bare dates. Two
dispatches set due dates that are read as instants, each on a clock of its own. Each succeeds
exactly when the store takes the due date, and then the row of its task, its result and its one
event hold the wall clock of the instant. So what is stored for both is the same, and what is
reported, exactly when the wall clocks are; with clocks equally far ahead of UTC, exactly when the
instants are. -/
theorem due_dates_keep_the_wall_clock {d₁ d₂ : Dispatch} {v₁ v₂ : Json} {i₁ i₂ n₁ n₂ : Int}
    (gives₁ : d₁.GivesDue v₁) (gives₂ : d₂.GivesDue v₂) (denotes₁ : DenotesInstant v₁ i₁ n₁)
    (denotes₂ : DenotesInstant v₂ i₂ n₂) (w₁ w₂ : World) :
    (∀ v i n, WritesInstant v i n → ¬IsBareDate v → DenotesInstant v i n) ∧
    ∃ due₁ due₂ : Moment, d₁.SetsDue w₁ due₁ ∧ d₂.SetsDue w₂ due₂ ∧
      (due₁.micros : Int) = i₁ + n₁ ∧ (due₂.micros : Int) = i₂ + n₂ ∧
      (due₁ = due₂ ↔ i₁ + n₁ = i₂ + n₂) ∧ (due₁.iso = due₂.iso ↔ i₁ + n₁ = i₂ + n₂) ∧
      (n₁ = n₂ → (due₁ = due₂ ↔ i₁ = i₂)) := by
  refine ⟨fun v i n => denotes_of_writes, ?_⟩
  obtain ⟨t₁, accepted₁, instant₁, ahead₁⟩ := denotes₁
  obtain ⟨t₂, accepted₂, instant₂, ahead₂⟩ := denotes₂
  have valid₁ := whenCheck_valid accepted₁
  have valid₂ := whenCheck_valid accepted₂
  have micros₁ := wall_of_instant instant₁ ahead₁
  have micros₂ := wall_of_instant instant₂ ahead₂
  have stored : t₁.wall = t₂.wall ↔ i₁ + n₁ = i₂ + n₂ := by
    constructor
    · intro same
      rw [← micros₁, ← micros₂, same]
    · intro same
      exact Moment.micros_injective valid₁ valid₂ (by omega)
  have reported : t₁.wall.iso = t₂.wall.iso ↔ i₁ + n₁ = i₂ + n₂ := by
    rw [← stored]
    exact ⟨Moment.iso_injective valid₁ valid₂, congrArg Moment.iso⟩
  refine ⟨t₁.wall, t₂.wall, setsDue_of_gives gives₁ accepted₁ w₁,
    setsDue_of_gives gives₂ accepted₂ w₂, micros₁, micros₂, stored, reported, ?_⟩
  rintro rfl
  rw [stored]
  omega

/-- Sets the due date of a task. -/
def dueOn (v : Json) : Dispatch :=
  ordered "SET_DUE_DATE" [("taskId", .str "t-1"), ("dueDate", v)]

theorem gives_dueOn (v : Json) : (dueOn v).GivesDue v := ⟨rfl, _, rfl, _, rfl⟩

/-- An hour of a day in October. -/
def october (hour : Nat) : Moment := ⟨⟨2026, 10, 20⟩, hour, 0, 0, 0⟩

theorem october_valid {hour : Nat} (h : hour < 24) : (october hour).Valid :=
  ⟨rfl, h, Nat.zero_lt_succ _, Nat.zero_lt_succ _, Nat.zero_lt_succ _⟩

/-- On a clock of whole hours ahead of UTC. -/
theorem writes_october (hour : Nat) (hours : Int) (h : hour < 24) (ofDay : hours.natAbs < 24)
    {text : String}
    (written : (Timestamp.mk (october hour) (some (hours * 3600000000))).isoZ = text) :
    WritesInstant (.str text) ((october hour).micros - hours * 3600000000)
      (hours * 3600000000) := by
  rw [← written]
  exact .isoZ (october_valid h) ⟨by omega, by omega⟩

theorem a_text_and_a_number_give_one_due_date :
    ∃ i, DenotesInstant (.str "2026-10-20T10:00:00Z") i 0 ∧ DenotesInstant (.int 1792490400) i 0 ∧
      (dueOn (.str "2026-10-20T10:00:00Z")).Succeeds office ∧
      (dueOn (.int 1792490400)).Succeeds office ∧
      (∀ v i n, WritesInstant v i n → ¬IsBareDate v → DenotesInstant v i n) ∧
      ∃ due₁ due₂ : Moment, (dueOn (.str "2026-10-20T10:00:00Z")).SetsDue office due₁ ∧
        (dueOn (.int 1792490400)).SetsDue office due₂ ∧ (due₁.micros : Int) = i ∧
        due₁ = due₂ ∧ due₁.iso = due₂.iso := by
  have read : whenCheck (.str "2026-10-20T10:00:00Z") = .ok ⟨october 10, some 0⟩ := by
    decide +kernel
  have text : DenotesInstant (.str "2026-10-20T10:00:00Z") (october 10).micros 0 :=
    ⟨_, read, rfl, rfl⟩
  have number : DenotesInstant (.int 1792490400) (october 10).micros 0 :=
    denotes_number ⟨by decide +kernel, by decide +kernel⟩
  obtain ⟨writes, due₁, due₂, sets₁, sets₂, micros₁, -, stored, reported, -⟩ :=
    due_dates_keep_the_wall_clock (gives_dueOn _) (gives_dueOn _) text number office office
  exact ⟨_, text, number, by decide +kernel, by decide +kernel, writes, due₁, due₂, sets₁, sets₂,
    micros₁, stored.mpr rfl, reported.mpr rfl⟩

/-- One instant in two notations leaves two due dates, and two instants leave one; and a numeral of
which eight digits are a date is not read as its instant. -/
theorem instants_are_mixed_up :
    (∃ i, WritesInstant (.str "2026-10-20T10:00:00Z") i 0 ∧
      WritesInstant (.str "2026-10-20T12:00:00+02:00") i 7200000000 ∧
      (dueOn (.str "2026-10-20T10:00:00Z")).Leaves office (october 10)
        (.str "2026-10-20T10:00:00") ∧
      (dueOn (.str "2026-10-20T12:00:00+02:00")).Leaves office (october 12)
        (.str "2026-10-20T12:00:00")) ∧
    (∃ i j, WritesInstant (.str "2026-10-20T10:00:00Z") i 0 ∧
      WritesInstant (.str "2026-10-20T10:00:00+02:00") j 7200000000 ∧ i ≠ j ∧
      (dueOn (.str "2026-10-20T10:00:00+02:00")).Leaves office (october 10)
        (.str "2026-10-20T10:00:00")) ∧
    ∃ i, WritesInstant (.int 1712012345) i 0 ∧ WritesInstant (.str "1712012345") i 0 ∧
      (dueOn (.int 1712012345)).Leaves office ⟨⟨2024, 4, 1⟩, 22, 59, 5, 0⟩
        (.str "2024-04-01T22:59:05") ∧
      (dueOn (.str "1712012345")).Leaves office (.midnight ⟨1712, 1, 23⟩)
        (.str "1712-01-23T00:00:00") := by
  have leaves : ∀ {v : Json} {t : Timestamp} {text : String}, whenCheck v = .ok t →
      t.wall.iso = text → (dueOn v).Succeeds office →
      (dueOn v).Leaves office t.wall (.str text) := by
    rintro v t _ read rfl
    exact (setsDue_of_gives (gives_dueOn _) read office).leaves
  have utc : WritesInstant (.str "2026-10-20T10:00:00Z") (october 10).micros 0 :=
    writes_october 10 0 (by decide) (by decide) (by decide +kernel)
  have noon : WritesInstant (.str "2026-10-20T12:00:00+02:00")
      ((october 12).micros - 7200000000) 7200000000 :=
    writes_october 12 2 (by decide) (by decide) (by decide +kernel)
  have same : ((october 12).micros : Int) - 7200000000 = (october 10).micros := by decide +kernel
  have early : WritesInstant (.str "2026-10-20T10:00:00+02:00")
      ((october 10).micros - 7200000000) 7200000000 :=
    writes_october 10 2 (by decide) (by decide) (by decide +kernel)
  have unix : Timestamp.IsUnix 1712012345 := ⟨by decide +kernel, by decide +kernel⟩
  have numeral : decimal 1712012345 = "1712012345" := by decide +kernel
  refine ⟨⟨_, utc, same ▸ noon, ?_, ?_⟩, ⟨_, _, utc, early, by omega, ?_⟩, _, .number unix,
    numeral ▸ .numeral unix, ?_, ?_⟩
  · have read : whenCheck (.str "2026-10-20T10:00:00Z") = .ok ⟨october 10, some 0⟩ := by
      decide +kernel
    exact leaves read (by decide +kernel) (by decide +kernel)
  · have read : whenCheck (.str "2026-10-20T12:00:00+02:00") =
        .ok ⟨october 12, some 7200000000⟩ := by decide +kernel
    exact leaves read (by decide +kernel) (by decide +kernel)
  · have read : whenCheck (.str "2026-10-20T10:00:00+02:00") =
        .ok ⟨october 10, some 7200000000⟩ := by decide +kernel
    exact leaves read (by decide +kernel) (by decide +kernel)
  · have read : whenCheck (.int 1712012345) = .ok ⟨⟨⟨2024, 4, 1⟩, 22, 59, 5, 0⟩, some 0⟩ := by
      decide +kernel
    exact leaves read (by decide +kernel) (by decide +kernel)
  · have read : whenCheck (.str "1712012345") = .ok (.plain (.midnight ⟨1712, 1, 23⟩)) := by
      decide +kernel
    exact leaves read (by decide +kernel) (by decide +kernel)

end TaskRules.Engine
