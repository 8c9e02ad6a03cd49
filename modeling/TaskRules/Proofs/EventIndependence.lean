import TaskRules.Proofs.Announcements

/-!
Events never matter to actions. Two worlds with the same store look alike to an action: whoever is
told and whether telling succeeds, every request is answered alike and leaves worlds that look alike
again. So two runs of one action with different notifiers make the same requests, have the same
result and leave the same store.

Proved:
- `answer_alike`, `run_alike`: alike worlds answer alike, request by request and over a run.
- `received_told`: a listener that takes everything receives the events that were told, in order;
  no other notifier makes it receive any that were not.
- `events_never_matter`: the result of a dispatch, its store and the events that it tells do not
  depend on the notifier; nothing is told unless it succeeds, and what a success tells after its
  change is what announces the change.
-/

namespace TaskRules.Engine
open TaskRules.Action

/-! ## Worlds that look alike -/

/-- Two worlds that differ at most in what is not asked for by actions. -/
structure Alike (w v : World) : Prop where
  store : w.store = v.store
  overtaken : w.overtaken = v.overtaken

/-- Two runs that end alike from alike worlds. -/
structure RunsAlike (x y : Run World α) : Prop where
  answer : ∀ w v, Alike w v → (x w).1 = (y v).1
  world : ∀ w v, Alike w v → Alike (x w).2 (y v).2

theorem Alike.refl (w : World) : Alike w w := ⟨rfl, rfl⟩

namespace RunsAlike

theorem ofPure (a : α) : RunsAlike (pure a) (pure a) := ⟨fun _ _ _ => rfl, fun _ _ h => h⟩

theorem ofRaise (e : Fault) : RunsAlike (Run.raise e : Run World α) (Run.raise e) :=
  ⟨fun _ _ _ => rfl, fun _ _ h => h⟩

theorem attempt {x y : Run World α} (h : RunsAlike x y) :
    RunsAlike (Run.attempt x) (Run.attempt y) := by
  constructor
  · intro w v alike
    simp only [Run.attempt_apply, h.answer w v alike]
  · intro w v alike
    exact h.world w v alike

theorem bind {x y : Run World α} (h : RunsAlike x y) {f g : α → Run World β}
    (hfg : ∀ a, RunsAlike (f a) (g a)) : RunsAlike (x >>= f) (y >>= g) := by
  have both : ∀ w v, Alike w v →
      ((x >>= f) w).1 = ((y >>= g) v).1 ∧ Alike ((x >>= f) w).2 ((y >>= g) v).2 := by
    intro w v alike
    have answer := h.answer w v alike
    have world := h.world w v alike
    rcases hx : x w with ⟨r, w₁⟩
    rcases hy : y v with ⟨r', v₁⟩
    simp only [hx, hy] at answer world
    subst answer
    cases r with
    | ok a =>
      rw [Run.bind_of_ok hx, Run.bind_of_ok hy]
      exact ⟨(hfg a).answer w₁ v₁ world, (hfg a).world w₁ v₁ world⟩
    | error e =>
      rw [Run.bind_of_error hx, Run.bind_of_error hy]
      exact ⟨rfl, world⟩
  exact ⟨fun w v alike => (both w v alike).1, fun w v alike => (both w v alike).2⟩

theorem onStore (x : Run Store α) : RunsAlike (World.onStore x) (World.onStore x) := by
  constructor
  · intro w v alike
    show (x w.store).1 = (x v.store).1
    rw [alike.store]
  · intro w v alike
    have store : (x w.store).2 = (x v.store).2 := by rw [alike.store]
    exact ⟨store, alike.overtaken⟩

theorem note (r : Log.Record) : RunsAlike (World.note r) (World.note r) :=
  ⟨fun _ _ _ => rfl, fun _ _ alike => ⟨alike.store, alike.overtaken⟩⟩

theorem nextNumber (project : Json) :
    RunsAlike (Setup.nextNumber project) (Setup.nextNumber project) := by
  have both : ∀ w v, Alike w v →
      (Setup.nextNumber project w).1 = (Setup.nextNumber project v).1 ∧
        Alike (Setup.nextNumber project w).2 (Setup.nextNumber project v).2 := by
    intro w v alike
    unfold Setup.nextNumber
    rw [← alike.overtaken]
    cases w.overtaken with
    | nil => exact ⟨(onStore _).answer w v alike, (onStore _).world w v alike⟩
    | cons n rest => exact ⟨rfl, alike.store, rfl⟩
  exact ⟨fun w v alike => (both w v alike).1, fun w v alike => (both w v alike).2⟩

theorem createTask (d : Task.Draft) (assigneeIds : Json) :
    RunsAlike (Setup.createTask d assigneeIds) (Setup.createTask d assigneeIds) := by
  refine .bind (.attempt (onStore _)) fun r => ?_
  cases r with
  | ok task => exact ofPure task
  | error e =>
    dsimp only
    by_cases taken : isTaken e = true
    · rw [if_pos taken]
      exact .bind (note _) fun _ => ofRaise e
    · rw [if_neg taken]
      exact ofRaise e

/-- Telling an event succeeds and leaves the store, whoever is told. -/
theorem emit (s s' : Setup) (e : Event) : RunsAlike (s.emit e) (s'.emit e) := by
  constructor
  · intro w v _
    rw [(emit_keeps s e w).1, (emit_keeps s' e v).1]
  · intro w v alike
    obtain ⟨-, hstore, hover⟩ := emit_keeps s e w
    obtain ⟨-, hstore', hover'⟩ := emit_keeps s' e v
    constructor
    · rw [hstore, hstore', alike.store]
    · rw [hover, hover', alike.overtaken]

end RunsAlike

/-- Alike worlds answer a request alike, under setups of any kind. -/
theorem answer_alike (s s' : Setup) (q : Request) : RunsAlike (s.answer q) (s'.answer q) := by
  cases q with
  | updateTask id changes => exact .onStore _
  | findProject id => exact .onStore _
  | defaultStatus workflow => exact .onStore _
  | nextNumber project => exact .nextNumber project
  | createTask d assigneeIds => exact .createTask d assigneeIds
  | notify drafts => exact .onStore _
  | comment taskId content author => exact .onStore _
  | emit e => exact .emit s s' e
  | log r => exact .note r

/-- A script runs alike in alike worlds: to the same end, by the same requests with the same
answers. -/
theorem run_alike (s s' : Setup) (x : Script α) {w v : World} (h : Alike w v)
    (l : List Exchange) :
    (x.run (noted s.answer) (w, l)).1 = (x.run (noted s'.answer) (v, l)).1 ∧
      Alike (x.run (noted s.answer) (w, l)).2.1 (x.run (noted s'.answer) (v, l)).2.1 ∧
      (x.run (noted s.answer) (w, l)).2.2 = (x.run (noted s'.answer) (v, l)).2.2 := by
  induction x generalizing w v l with
  | done r => exact ⟨rfl, h, rfl⟩
  | ask q next ih =>
    have answer := (answer_alike s s' q).answer w v h
    have alike := (answer_alike s s' q).world w v h
    rw [Script.run_ask, Script.run_ask, noted_apply, noted_apply, ← answer]
    exact ih _ alike _

/-! ## Told events -/

theorem toldEvents_quiet {made : List Exchange} (h : ∀ x ∈ made, x.Quiet) :
    toldEvents made = [] := by
  rw [toldEvents, List.filterMap_eq_nil_iff]
  intro x hx
  split
  · rename_i e he
    exact absurd ⟨e, he⟩ (h x hx).2
  · rfl

theorem toldEvents_emissions (es : List Event) : toldEvents (es.map emission) = es := by
  rw [toldEvents, List.filterMap_map]
  exact List.filterMap_some

theorem toldEvents_append (made more : List Exchange) :
    toldEvents (made ++ more) = toldEvents made ++ toldEvents more := List.filterMap_append

/-- A change is no event. -/
theorem toldEvents_change {q : Request} (changes : q.changes = true)
    (r : Except Fault q.Answer) (made : List Exchange) :
    toldEvents (⟨q, r⟩ :: made) = toldEvents made := by
  cases q <;> first | rfl | cases changes

/-! ## A listener -/

theorem createTask_received (d : Task.Draft) (assigneeIds : Json) (w : World) :
    (Setup.createTask d assigneeIds w).2.received = w.received := by
  rw [Setup.createTask, Run.bind_of_ok (Run.attempt_apply _ w)]
  cases (World.onStore (Store.createTask d assigneeIds) w).1 with
  | ok task => rfl
  | error e =>
    dsimp only
    split <;> rfl

/-- A listener that takes everything receives an event that is told, and nothing else. -/
theorem answer_received {s : Setup} (hs : s.notifier = .listener none) (q : Request) (w : World) :
    (s.answer q w).2.received = w.received ++ toldEvents [⟨q, (s.answer q w).1⟩] := by
  cases q with
  | nextNumber project =>
    show (Setup.nextNumber project w).2.received = w.received ++ []
    unfold Setup.nextNumber
    split <;> simp [World.onStore, Run.onPart]
  | createTask d assigneeIds =>
    show (Setup.createTask d assigneeIds w).2.received = w.received ++ []
    rw [createTask_received, List.append_nil]
  | emit e =>
    show (s.emit e w).2.received = w.received ++ [e]
    have delivered : s.deliver e w = (.ok (), { w with received := w.received ++ [e] }) := by
      rw [Setup.deliver, hs]
      rfl
    rw [Setup.emit, Run.bind_of_ok (Run.attempt_apply _ w), delivered]
    rfl
  | _ => exact (List.append_nil _).symm

/-- Over a run it receives the events that were told, in order. -/
theorem received_told {s : Setup} (hs : s.notifier = .listener none) (x : Script α) (w : World)
    (l : List Exchange) :
    ∃ made, (x.run (noted s.answer) (w, l)).2.2 = l ++ made ∧
      (x.run (noted s.answer) (w, l)).2.1.received = w.received ++ toldEvents made := by
  induction x generalizing w l with
  | done r => exact ⟨[], by simp, by simp [toldEvents]⟩
  | ask q next ih =>
    obtain ⟨made, hmade, hreceived⟩ := ih (s.answer q w).1 (s.answer q w).2
      (l ++ [⟨q, (s.answer q w).1⟩])
    refine ⟨⟨q, (s.answer q w).1⟩ :: made, ?_, ?_⟩
    · rw [Script.run_ask, noted_apply, hmade, ← List.append_cons]
    · rw [Script.run_ask, noted_apply, hreceived, answer_received hs, List.append_assoc,
        ← toldEvents_append, List.singleton_append]

/-! ## Dispatch -/

/-- What a dispatch that succeeds has requested: looking up, its change, and then the events that
announce the change. -/
def AnnouncedAfter (kind config payload : Json) (before after : Database) (made : List Exchange) :
    Prop :=
  ∃ c p looked x es, Reads kind config c ∧ Payload.read payload = .ok p ∧
    made = looked ++ x :: es.map emission ∧ (∀ y ∈ looked, y.Quiet) ∧ x.Commits ∧
    Announced p.named before after c es

theorem AnnouncedAfter.toldEvents {kind config payload : Json} {before after : Database}
    {made : List Exchange} (h : AnnouncedAfter kind config payload before after made) :
    ∃ c p, Reads kind config c ∧ Payload.read payload = .ok p ∧
      Announced p.named before after c (toldEvents made) := by
  obtain ⟨c, p, looked, ⟨q, r⟩, es, reads, hp, rfl, quiet, commits, announced⟩ := h
  refine ⟨c, p, reads, hp, ?_⟩
  rw [toldEvents_append, toldEvents_quiet quiet, List.nil_append,
    toldEvents_change commits.1, toldEvents_emissions]
  exact announced

/-- What is told after the one change of a dispatch announces it. -/
theorem DoneOnce.announced {s : Setup} {kind config payload : Json} {w w' : World}
    {made : List Exchange} (done : DoneOnce s w w' made)
    (announced : AnnouncedIn (Fits s kind config (Payload.read payload)) made) :
    AnnouncedAfter kind config payload w.store.db w'.store.db made := by
  cases done with
  | @mk looked after x w₂ w₃ undone quiet commits answered _ db =>
    obtain ⟨q, r⟩ := x
    cases r with
    | error e =>
      obtain ⟨-, a, ha⟩ := commits
      cases ha
    | ok a =>
      obtain ⟨es, rfl, c, p, reads, hp, tells⟩ := announced looked q a after rfl commits.1
      refine ⟨c, p, looked, ⟨q, .ok a⟩, es, reads, hp, rfl, quiet, commits, ?_⟩
      rw [← undone.db, db]
      exact tells w₂ w₃ answered

/-- After its change a dispatch requests its announcement. -/
theorem exchanges_announced (s : Setup) (maxAttempts kind config payload : Json)
    (context : Context) (w : World) :
    AnnouncedIn (Fits s kind config (Payload.read payload))
      (exchanges s maxAttempts kind config payload context w) := by
  have announces : Announces (Fits s kind config (Payload.read payload))
      ((Registry.standard maxAttempts).dispatch kind config (Payload.read payload) context) :=
    dispatch_announces maxAttempts kind config (Payload.read payload) context
  have hemit : ∀ e w, (s.answer (.emit e) w).1 = .ok () := fun e w => (emit_keeps s e w).1
  obtain ⟨r, w', made, hrun, announced⟩ := trace_announces hemit announces w []
  have hmade : exchanges s maxAttempts kind config payload context w = made :=
    congrArg (fun p => p.2.2) hrun
  rw [hmade]
  exact announced

/-- The notifier of a setup matters to no dispatch: with any two notifiers, whichever events each of
them refuses, a dispatch has the same result or the same error, leaves the same store and tells the
same events. It tells none unless it succeeds; when it succeeds, it tells, after its change, the
events that announce the change. -/
theorem events_never_matter (s : Setup) (one two : Notifier)
    (maxAttempts kind config payload : Json) (context : Context) (w : World) :
    let setup := fun notifier : Notifier =>
      { s with notifier := notifier, registry := Registry.standard maxAttempts }
    let made := fun notifier =>
      exchanges (setup notifier) maxAttempts kind config payload context w
    let ran := fun notifier => (setup notifier).dispatch kind config payload context w
    (ran one).1 = (ran two).1 ∧ (ran one).2.store = (ran two).2.store ∧
      toldEvents (made one) = toldEvents (made two) ∧
      match ran one with
      | (.ok (some r), w') =>
        if r.success.truthy then
          AnnouncedAfter kind config payload w.store.db w'.store.db (made one)
        else toldEvents (made one) = []
      | _ => toldEvents (made one) = [] := by
  intro setup made ran
  obtain ⟨result, alike, exchanged⟩ := run_alike (setup one) (setup two)
    ((Registry.standard maxAttempts).dispatch kind config (Payload.read payload) context)
    (Alike.refl w) []
  have follows := fun notifier => run_noted (setup notifier).answer
    ((Registry.standard maxAttempts).dispatch kind config (Payload.read payload) context)
  have hanswer := fun notifier => (follows notifier).answer w []
  have hstate := fun notifier => (follows notifier).state w []
  rw [hanswer, hanswer] at result
  have alike := alike.store
  rw [hstate, hstate] at alike
  refine ⟨result, alike, congrArg toldEvents exchanged, ?_⟩
  obtain ⟨r, w', made', hrun, hatomic⟩ := run_atomic (setup one)
    (dispatch_oneChange maxAttempts kind config (Payload.read payload) context) w []
  have hmade : made one = made' := congrArg (fun p => p.2.2) hrun
  have hran : ran one = (r, w') := by
    refine Prod.ext ((hanswer one).symm.trans ?_) ((hstate one).symm.trans ?_)
    · rw [hrun]
    · rw [hrun]
  rw [hran]
  rcases hatomic with ⟨-, quiet, hidle⟩ | ⟨done, a, rfl, r', rfl, hgood⟩
  · -- nothing was changed, and the end is no success
    rw [← hmade] at quiet
    have silent := toldEvents_quiet quiet
    split
    · rename_i r' w'' same
      cases same
      obtain ⟨r', ended, hfailed⟩ := hidle _ rfl
      cases ended
      have hno : ¬ r'.success.truthy = true := hfailed
      rw [if_neg hno]
      exact silent
    · exact silent
  · have hsuccess : r'.success.truthy = true := hgood
    rw [← hmade] at done
    dsimp only
    rw [if_pos hsuccess]
    exact done.announced
      (exchanges_announced (setup one) maxAttempts kind config payload context w)

end TaskRules.Engine
