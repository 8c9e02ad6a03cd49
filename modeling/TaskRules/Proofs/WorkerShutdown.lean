import TaskRules.Process.Worker
import TaskRules.Proofs.RunParts

/-!
How a worker ends. Its watch has no bound of its own: any sleep and any look at the consumer may be
interrupted or fail. A recorded process notes what it logs, every sleep and look with its answer,
and every part that it stops; recording leaves the answer and the state as they are.

Proved:
- `hangUp_apply`: stopping a client comes to its end, whatever calls the broker refuses.
- `run_parts`, `boot_recorded`: a process is its boot followed by its watch and the stops, and a
  boot that reaches the watch logs two records.
- `round_recorded`: a round is a look, with a warning when the consumer is not connected, or it ends
  the watch.
- `watch_recorded`, `serve_recorded`: by induction on the rounds, a watch is looks and then its
  ending; the stops follow it however it ended.
- `shutdown_is_complete`: what a worker on an engine does from its watch on, and how it exits.
-/

namespace TaskRules

open Engine (Setup World)

/-! ## Stopping a client -/

namespace Queue

/-- The calls that stop a client. -/
def hangUpCalls : List Broker.Call := [.loopStop, .disconnect]

/-- The world after a client was stopped: the calls up to the first that is refused, and a note of
that one. -/
def hungUp (s : Setup) (client : Broker.Client) (loggerName what : String) (w : World) : World :=
  { w with
    calls := w.calls ++
      (hangUpCalls.takeWhile fun c => !s.refused.contains c.name).map fun c => (client, c)
    log := w.log ++ ((hangUpCalls.find? fun c => s.refused.contains c.name).map fun c =>
      .record (Log.failure loggerName (what ++ " failed") [] (Broker.refusal c).text)).toList }

theorem call_refused {refused : List String} {c : Broker.Call}
    (h : refused.contains c.name = true) (client : Broker.Client) (w : World) :
    World.call refused client c w = (.error (Broker.refusal c), w) := by
  unfold World.call
  rw [if_pos h]

theorem call_made {refused : List String} {c : Broker.Call}
    (h : refused.contains c.name = false) (client : Broker.Client) (w : World) :
    World.call refused client c w = (.ok (), { w with calls := w.calls ++ [(client, c)] }) := by
  unfold World.call
  rw [if_neg (by rw [h]; exact Bool.false_ne_true)]

theorem hangUp_apply (s : Setup) (client : Broker.Client) (loggerName what : String) (w : World) :
    hangUp s client loggerName what w = (.ok (), hungUp s client loggerName what w) := by
  unfold hangUp hungUp hangUpCalls
  rw [Run.bind_of_ok (Run.attempt_apply _ _), List.takeWhile_cons, List.takeWhile_cons,
    List.find?_cons, List.find?_cons]
  cases stop : s.refused.contains (Broker.Call.name .loopStop) with
  | true =>
    rw [Run.bind_of_error (call_refused stop client w)]
    simp only [World.note, Run.change, Bool.not_true, Bool.false_eq_true, if_false, List.map_nil,
      List.append_nil, Option.map_some, Option.toList_some]
  | false =>
    rw [Run.bind_of_ok (call_made stop client w)]
    cases leave : s.refused.contains (Broker.Call.name .disconnect) with
    | true =>
      rw [call_refused leave]
      rfl
    | false =>
      rw [call_made leave]
      simp

end Queue

namespace Worker

/-! ## Booting -/

def booted (pid : String) : Log.Record :=
  Log.info logger ("Automation worker booted (pid=" ++ pid ++ ")")

def consuming (s : Settings) : Log.Record := Log.info logger ("Worker consuming " ++ s.jobTopic)

/-- The process up to its watch: the exit code when it gives up, or else whether it publishes and
the seconds between two looks. -/
def boot (c : Collaborators σ) (s : Settings) (e : Environment) (pid : String) :
    Run σ (Except Nat (Bool × Int)) := do
  let _ ← Run.ofExcept (Log.levelOf s.logLevel)
  c.log (booted pid)
  let seconds ← Run.ofExcept (interval e)
  let prepared ← Run.attempt (if s.createTables.truthy then c.createTables else .done ())
  match prepared with
  | .error fault =>
    c.log (Log.failure logger "DB create_all failed" [] fault.text)
    return .error 1
  | .ok () =>
    let publishes ← Run.ofExcept s.publishesEvents
    launch c s publishes
    return .ok (publishes, seconds)

theorem run_parts (c : Collaborators σ) (s : Settings) (e : Environment) (pid : String)
    (rounds : List (Round σ)) :
    run c s e pid rounds = boot c s e pid >>= fun
      | .error code => pure code
      | .ok (publishes, seconds) => serve c s publishes seconds rounds := by
  unfold run boot
  simp only [Run.bind_assoc]
  congr 1
  funext level
  congr 1
  funext u
  congr 1
  funext seconds
  congr 1
  funext prepared
  cases prepared with
  | error fault => simp only [Run.bind_assoc]; rfl
  | ok u => simp only [Run.bind_assoc]; rfl

/-! ## Recording -/

inductive Part where
  | consumer
  | engine
  | publisher

/-- What a record of a process holds. -/
inductive Deed where
  | logged (r : Log.Record)
  /-- A sleep of some seconds, with how it ended. -/
  | slept (seconds : Int) (answer : Except Fault (Option Unit))
  /-- A look at the consumer, with what was seen. -/
  | polled (answer : Except Fault (Option Bool))
  | stopped (part : Part) (answer : Except Fault Unit)

/-- The same collaborators, with what is logged and stopped recorded. -/
def Collaborators.recorded (c : Collaborators σ) : Collaborators (σ × List Deed) where
  log r := .noting (fun _ => .logged r) (c.log r)
  createTables := .first c.createTables
  openPublisher := .first c.openPublisher
  buildEngine := .first c.buildEngine
  openConsumer := .first c.openConsumer
  startConsumer := .first c.startConsumer
  stopConsumer := .noting (.stopped .consumer) c.stopConsumer
  stopEngine := .noting (.stopped .engine) c.stopEngine
  stopPublisher := .noting (.stopped .publisher) c.stopPublisher

/-- The same round, with its two answers recorded. -/
def Round.recorded (r : Round σ) : Round (σ × List Deed) where
  sleep seconds := .noting (.slept seconds) (r.sleep seconds)
  poll := .noting .polled r.poll

/-- Collaborators that log and stop what they are told to. Opening may fail. -/
structure Works (c : Collaborators σ) : Prop where
  log : ∀ r w, ∃ w', c.log r w = (.ok (), w')
  stopConsumer : ∀ w, ∃ w', c.stopConsumer w = (.ok (), w')
  stopEngine : ∀ w, ∃ w', c.stopEngine w = (.ok (), w')
  stopPublisher : ∀ w, ∃ w', c.stopPublisher w = (.ok (), w')

theorem noting_ok {x : Run σ Unit} {w w' : σ} (h : x w = (.ok (), w'))
    (note : Except Fault Unit → Deed) (l : List Deed) :
    Run.noting note x (w, l) = (.ok (), (w', l ++ [note (.ok ())])) := by
  rw [Run.noting_apply, h]

theorem log_recorded {c : Collaborators σ} {r : Log.Record} {w w' : σ}
    (h : c.log r w = (.ok (), w')) (l : List Deed) :
    c.recorded.log r (w, l) = (.ok (), (w', l ++ [.logged r])) :=
  noting_ok h (fun _ => .logged r) l

/-- A run that succeeds where another does, and then has recorded some deeds more. -/
structure Adds (ds : List Deed) (x : Run (σ × List Deed) α) (y : Run σ α) : Prop where
  ok : ∀ {w w' : σ} {a : α}, y w = (.ok a, w') → ∀ l, x (w, l) = (.ok a, (w', l ++ ds))

namespace Adds

theorem ofFirst (x : Run σ α) : Adds [] (.first x) x := by
  constructor
  intro w w' a done l
  rw [Run.first_apply, done, List.append_nil]

theorem attempt (x : Run σ α) : Adds [] (.attempt (.first x)) (.attempt x) := by
  constructor
  intro w w' a done l
  rw [Run.attempt_apply] at done
  rw [Run.attempt_apply, Run.first_apply, List.append_nil]
  cases done
  rfl

theorem bind {ds es : List Deed} {x : Run (σ × List Deed) α} {y : Run σ α} (h : Adds ds x y)
    {f : α → Run (σ × List Deed) β} {g : α → Run σ β} (hfg : ∀ a, Adds es (f a) (g a)) :
    Adds (ds ++ es) (x >>= f) (y >>= g) := by
  constructor
  intro w w' b done l
  obtain ⟨a, w₁, first, second⟩ := Run.ok_of_bind done
  rw [Run.bind_of_ok (h.ok first l), (hfg a).ok second, List.append_assoc]

end Adds

section Booting
variable (c : Collaborators σ)

theorem log_adds (r : Log.Record) : Adds [.logged r] (c.recorded.log r) (c.log r) :=
  ⟨log_recorded⟩

theorem launch_adds (s : Settings) (publishes : Bool) :
    Adds [.logged (consuming s)] (launch c.recorded s publishes) (launch c s publishes) := by
  have opened : Adds [.logged (consuming s)]
      (do c.recorded.buildEngine; c.recorded.openConsumer; c.recorded.startConsumer
          c.recorded.log (consuming s))
      (do c.buildEngine; c.openConsumer; c.startConsumer; c.log (consuming s)) :=
    (Adds.ofFirst _).bind fun _ => (Adds.ofFirst _).bind fun _ => (Adds.ofFirst _).bind fun _ =>
      log_adds c _
  cases publishes with
  | false => exact opened
  | true => exact (Adds.ofFirst _).bind fun _ => opened

variable {c}

/-- A process that reaches its watch has logged two records on the way. -/
theorem boot_recorded {s : Settings} {e : Environment} {pid : String} {w w₁ : σ}
    {publishes : Bool} {seconds : Int}
    (reached : boot c s e pid w = (.ok (.ok (publishes, seconds)), w₁)) (l : List Deed) :
    boot c.recorded s e pid (w, l) = (.ok (.ok (publishes, seconds)),
      (w₁, l ++ [.logged (booted pid), .logged (consuming s)])) ∧
    s.publishesEvents = .ok publishes := by
  obtain ⟨level, _, given, rest⟩ := Run.ok_of_bind reached
  obtain ⟨leveled, rfl⟩ := Run.ok_of_ofExcept given
  obtain ⟨_, w₂, logged, rest⟩ := Run.ok_of_bind rest
  obtain ⟨n, _, given, rest⟩ := Run.ok_of_bind rest
  obtain ⟨timed, rfl⟩ := Run.ok_of_ofExcept given
  obtain ⟨prepared, w₃, tables, rest⟩ := Run.ok_of_bind rest
  have prepares : Adds []
      (.attempt (if s.createTables.truthy then c.recorded.createTables else .done ()))
      (.attempt (if s.createTables.truthy then c.createTables else .done ())) := by
    split
    · exact .attempt _
    · exact .attempt (.done ())
  cases prepared with
  | error fault =>
    obtain ⟨_, _, _, gaveUp⟩ := Run.ok_of_bind rest
    cases gaveUp
  | ok u =>
    obtain ⟨p, _, given, rest⟩ := Run.ok_of_bind rest
    obtain ⟨published, rfl⟩ := Run.ok_of_ofExcept given
    obtain ⟨_, w₄, launched, rest⟩ := Run.ok_of_bind rest
    cases rest
    refine ⟨?_, published⟩
    unfold boot
    rw [leveled, Run.bind_of_ok (Run.ofExcept_apply _ _),
      Run.bind_of_ok ((log_adds c _).ok logged l), timed,
      Run.bind_of_ok (Run.ofExcept_apply _ _), Run.bind_of_ok (prepares.ok tables _)]
    dsimp only
    rw [published, Run.bind_of_ok (Run.ofExcept_apply _ _),
      Run.bind_of_ok ((launch_adds c s publishes).ok launched _), List.append_nil,
      List.append_assoc]
    rfl

end Booting

/-! ## The watch -/

/-- How a watch ends: no round is left, which is an interruption too, or a sleep or a look is
interrupted or fails. -/
inductive Ending where
  | over
  | asleep (fault : Option Fault)
  | looking (fault : Option Fault)

namespace Ending

def fault : Ending → Option Fault
  | .over => none
  | .asleep fault => fault
  | .looking fault => fault

/-- What is answered where a watch ends. -/
def answer (fault : Option Fault) : Except Fault (Option α) :=
  match fault with
  | none => .ok none
  | some e => .error e

/-- What a process gives in the end. -/
def exit (x : Ending) (code : α) : Except Fault α :=
  match x.fault with
  | none => .ok code
  | some e => .error e

/-- What is recorded of an ending. Only an interruption is logged. -/
def deeds (seconds : Int) (x : Ending) : List Deed :=
  (match x with
    | .over => []
    | .asleep fault => [.slept seconds (answer fault)]
    | .looking fault => [.slept seconds (.ok (some ())), .polled (answer fault)]) ++
  (match x.fault with
    | none => [.logged stopping]
    | some _ => [])

end Ending

/-- What is recorded of a look: a consumer that is not connected is warned of. -/
def lookDeeds (s : Settings) (seconds : Int) (connected : Bool) : List Deed :=
  [.slept seconds (.ok (some ())), .polled (.ok (some connected))] ++
    if connected then [] else [.logged (disconnected s)]

section Recorded
variable {c : Collaborators σ} (hc : Works c) (s : Settings) (seconds : Int)
include hc

/-- A round is a look after which the watch goes on, or it ends the watch. -/
theorem round_recorded (r : Round σ) (rest : List (Round σ)) (w : σ) (l : List Deed) :
    (∃ connected w',
      watch c s seconds (r :: rest) w = watch c s seconds rest w' ∧
      watch c.recorded s seconds ((r :: rest).map Round.recorded) (w, l) =
        watch c.recorded s seconds (rest.map Round.recorded)
          (w', l ++ lookDeeds s seconds connected)) ∨
    ∃ (ending : Ending) (w' : σ),
      watch c s seconds (r :: rest) w = (ending.exit (), w') ∧
      watch c.recorded s seconds ((r :: rest).map Round.recorded) (w, l) =
        (ending.exit (), (w', l ++ ending.deeds seconds)) := by
  rw [List.map_cons, watch, watch]
  rcases slept : r.sleep seconds w with ⟨answer, w₁⟩
  have noted : r.recorded.sleep seconds (w, l) = (answer, (w₁, l ++ [.slept seconds answer])) := by
    show Run.noting (Deed.slept seconds) (r.sleep seconds) (w, l) = _
    rw [Run.noting_apply, slept]
  -- the sleep fails, is interrupted, or comes to its end
  rcases answer with e | _ | _
  · exact .inr ⟨.asleep (some e), w₁, Run.bind_of_error slept _, Run.bind_of_error noted _⟩
  · rw [Run.bind_of_ok slept, Run.bind_of_ok noted]
    obtain ⟨w₂, logged⟩ := hc.log stopping w₁
    refine .inr ⟨.asleep none, w₂, logged, (log_recorded logged _).trans ?_⟩
    rw [List.append_assoc]
    rfl
  rw [Run.bind_of_ok slept, Run.bind_of_ok noted]
  dsimp only
  rcases polled : r.poll w₁ with ⟨answer, w₂⟩
  have looked : ∀ l, r.recorded.poll (w₁, l) = (answer, (w₂, l ++ [.polled answer])) := by
    intro l
    show Run.noting Deed.polled r.poll (w₁, l) = _
    rw [Run.noting_apply, polled]
  -- the look fails, is interrupted, or sees the consumer
  rcases answer with e | _ | connected
  · rw [Run.bind_of_error polled, Run.bind_of_error (looked _), List.append_assoc]
    exact .inr ⟨.looking (some e), w₂, rfl, rfl⟩
  · rw [Run.bind_of_ok polled, Run.bind_of_ok (looked _), List.append_assoc]
    obtain ⟨w₃, logged⟩ := hc.log stopping w₂
    refine .inr ⟨.looking none, w₃, logged, (log_recorded logged _).trans ?_⟩
    rw [List.append_assoc]
    rfl
  rw [Run.bind_of_ok polled, Run.bind_of_ok (looked _), List.append_assoc]
  cases connected with
  | true => exact .inl ⟨true, w₂, rfl, rfl⟩
  | false =>
    obtain ⟨w₃, warned⟩ := hc.log (disconnected s) w₂
    refine .inl ⟨false, w₃, Run.bind_of_ok warned _, ?_⟩
    refine (Run.bind_of_ok (log_recorded warned _) _).trans ?_
    rw [List.append_assoc]
    rfl

/-- A watch is looks and then its ending, whatever rounds there are. -/
theorem watch_recorded : ∀ (rounds : List (Round σ)) (w : σ) (l : List Deed),
    ∃ (looks : List Bool) (ending : Ending) (w' : σ),
      watch c s seconds rounds w = (ending.exit (), w') ∧
      watch c.recorded s seconds (rounds.map Round.recorded) (w, l) =
        (ending.exit (), (w', l ++ looks.flatMap (lookDeeds s seconds) ++ ending.deeds seconds))
  | [], w, l => by
    obtain ⟨w', logged⟩ := hc.log stopping w
    refine ⟨[], .over, w', logged, ?_⟩
    rw [List.flatMap_nil, List.append_nil]
    exact log_recorded logged l
  | r :: rest, w, l => by
    rcases round_recorded hc s seconds r rest w l with
      ⟨connected, w₁, goesOn, recorded⟩ | ⟨ending, w₁, ends, recorded⟩
    · obtain ⟨looks, ending, w₂, ends, later⟩ :=
        watch_recorded rest w₁ (l ++ lookDeeds s seconds connected)
      refine ⟨connected :: looks, ending, w₂, goesOn.trans ends, ?_⟩
      rw [recorded, later, List.flatMap_cons, List.append_assoc l]
    · refine ⟨[], ending, w₁, ends, ?_⟩
      rw [List.flatMap_nil, List.append_nil]
      exact recorded

/-! ## The stops -/

/-- What is recorded of the stops. -/
def stops (publishes : Bool) : List Deed :=
  [.stopped .consumer (.ok ()), .stopped .engine (.ok ())] ++
    if publishes then [.stopped .publisher (.ok ())] else []

omit s seconds in
theorem close_recorded (publishes : Bool) (w : σ) (l : List Deed) :
    ∃ w', close c publishes w = (.ok (), w') ∧
      close c.recorded publishes (w, l) = (.ok (), (w', l ++ stops publishes)) := by
  obtain ⟨w₁, consumer⟩ := hc.stopConsumer w
  obtain ⟨w₂, engine⟩ := hc.stopEngine w₁
  obtain ⟨w₃, publisher⟩ := hc.stopPublisher w₂
  have consumer' : c.recorded.stopConsumer (w, l) = _ := noting_ok consumer (.stopped .consumer) l
  have engine' : c.recorded.stopEngine (w₁, _) = _ :=
    noting_ok engine (.stopped .engine) (l ++ [.stopped .consumer (.ok ())])
  unfold close
  rw [Run.bind_of_ok consumer, Run.bind_of_ok engine, Run.bind_of_ok consumer',
    Run.bind_of_ok engine', List.append_assoc]
  cases publishes with
  | false => exact ⟨w₂, rfl, rfl⟩
  | true =>
    refine ⟨w₃, publisher, (noting_ok publisher (.stopped .publisher) _).trans ?_⟩
    rw [List.append_assoc]
    rfl

/-- However a watch ends, the parts are then stopped, and the exit tells how it ended. -/
theorem serve_recorded (publishes : Bool) (rounds : List (Round σ)) (w : σ) (l : List Deed) :
    ∃ (looks : List Bool) (ending : Ending) (w₁ w₂ : σ),
      watch c s seconds rounds w = (ending.exit (), w₁) ∧
      close c publishes w₁ = (.ok (), w₂) ∧
      serve c s publishes seconds rounds w = (ending.exit 0, w₂) ∧
      serve c.recorded s publishes seconds (rounds.map Round.recorded) (w, l) =
        (ending.exit 0, (w₂,
          l ++ looks.flatMap (lookDeeds s seconds) ++ ending.deeds seconds ++
            stops publishes)) := by
  obtain ⟨looks, ending, w₁, watched, recorded⟩ := watch_recorded hc s seconds rounds w l
  obtain ⟨w₂, closed, closes⟩ := close_recorded hc publishes w₁
    (l ++ looks.flatMap (lookDeeds s seconds) ++ ending.deeds seconds)
  refine ⟨looks, ending, w₁, w₂, watched, closed, ?_, ?_⟩
  · unfold serve
    rw [Run.bind_of_ok (Run.attempt_apply _ _), watched, Run.bind_of_ok closed]
    unfold Ending.exit
    cases ending.fault <;> rfl
  · unfold serve
    rw [Run.bind_of_ok (Run.attempt_apply _ _), recorded, Run.bind_of_ok closes]
    unfold Ending.exit
    cases ending.fault <;> rfl

end Recorded

/-! ## On an engine -/

/-- The world after everything was stopped. -/
def closed (s : Setup) (publishes : Bool) (w : World) : World :=
  let stopped := { Queue.hungUp s .jobs Queue.logger "MQTT shutdown" w with
    hasEngine := false, pool := {} }
  if publishes then
    Queue.hungUp s .events Setup.publisherLogger "MQTT event notifier shutdown" stopped
  else stopped

section Engine
variable (s : Setup) (e : Environment) (tag : String)

theorem stopConsumer_apply (w : World × τ) :
    (collaborators s e tag).stopConsumer w =
      (.ok (), (Queue.hungUp s .jobs Queue.logger "MQTT shutdown" w.1, w.2)) := by
  show Run.first (Queue.stop s) (w.1, w.2) = _
  rw [Run.first_apply, Queue.stop, Queue.hangUp_apply]

theorem stopEngine_apply (w : World × τ) :
    (collaborators s e tag).stopEngine w =
      (.ok (), ({ w.1 with hasEngine := false, pool := {} }, w.2)) := rfl

theorem stopPublisher_apply (w : World × τ) :
    (collaborators s e tag).stopPublisher w = (.ok (), (Queue.hungUp s .events
      Setup.publisherLogger "MQTT event notifier shutdown" w.1, w.2)) := by
  show Run.first (Queue.stopPublisher s) (w.1, w.2) = _
  rw [Run.first_apply, Queue.stopPublisher, Queue.hangUp_apply]

/-- The collaborators of an engine work, whatever the broker refuses. -/
theorem collaborators_work : Works (collaborators s e tag : Collaborators (World × τ)) where
  log _ _ := ⟨_, rfl⟩
  stopConsumer w := ⟨_, stopConsumer_apply s e tag w⟩
  stopEngine w := ⟨_, stopEngine_apply s e tag w⟩
  stopPublisher w := ⟨_, stopPublisher_apply s e tag w⟩

theorem close_apply (publishes : Bool) (w : World × τ) :
    close (collaborators s e tag) publishes w = (.ok (), (closed s publishes w.1, w.2)) := by
  unfold close closed
  rw [Run.bind_of_ok (stopConsumer_apply s e tag w), Run.bind_of_ok (stopEngine_apply s e tag _)]
  cases publishes with
  | false => rfl
  | true => exact stopPublisher_apply s e tag _

end Engine

/-- Once the watch of a worker is reached, whatever its sleeps and looks come to: each look that
saw the consumer disconnected is warned of once; then the consumer, the engine and, exactly if
events go to the broker, the publisher are stopped once each and in this order, also when the
broker refuses the calls; and the exit is 0 after an interruption and else the fault. -/
theorem shutdown_is_complete (s : Setup) (e : Environment) (tag pid : String)
    (rounds : List (Round (World × τ))) {w w₁ : World × τ} {publishes : Bool} {seconds : Int}
    (reached : boot (collaborators (setupOf s) e tag) s.settings e pid w =
      (.ok (.ok (publishes, seconds)), w₁)) :
    ∃ (looks : List Bool) (ending : Ending) (w₂ : World × τ),
      watch (collaborators (setupOf s) e tag) s.settings seconds rounds w₁ =
        (ending.exit (), w₂) ∧
      run (collaborators (setupOf s) e tag) s.settings e pid rounds w =
        (ending.exit 0, (closed s publishes w₂.1, w₂.2)) ∧
      run (collaborators (setupOf s) e tag).recorded s.settings e pid
          (rounds.map Round.recorded) (w, []) =
        (ending.exit 0, ((closed s publishes w₂.1, w₂.2),
          [.logged (booted pid), .logged (consuming s.settings)] ++
          looks.flatMap (lookDeeds s.settings seconds) ++ ending.deeds seconds ++
          stops publishes)) ∧
      (publishes = true ↔ (setupOf s).notifier = .broker) := by
  have works : Works (collaborators (setupOf s) e tag : Collaborators (World × τ)) :=
    collaborators_work _ e tag
  obtain ⟨booted, published⟩ := boot_recorded reached []
  obtain ⟨looks, ending, w₂, w₃, watched, stopped, served, recorded⟩ :=
    serve_recorded works s.settings seconds publishes rounds w₁ _
  rw [close_apply] at stopped
  obtain rfl := (Prod.mk.inj stopped).2
  refine ⟨looks, ending, w₂, watched, ?_, ?_, ?_⟩
  · rw [run_parts, Run.bind_of_ok reached]
    exact served
  · rw [run_parts, Run.bind_of_ok booted]
    exact recorded
  · unfold setupOf
    rw [published]
    cases publishes <;> simp [Except.toOption]

/-- A worker whose events go to a broker that refuses to let a client leave. -/
def held : Setup := { settings := { notifier := .str "mqtt" }, refused := ["disconnect"] }

def linkDown : Fault := .ofForeign .connection "link down"

/-- A round that sees the consumer disconnected, and one whose look fails. -/
def failingRounds : List (Round (World × Unit)) :=
  [⟨fun _ => pure (some ()), pure (some false)⟩, ⟨fun _ => pure (some ()), .raise linkDown⟩]

def atStart : World × Unit :=
  ({ store := .empty ⟨⟨2026, 1, 1⟩, 0, 0, 0, 0⟩, hasEngine := false }, ())

theorem a_failing_look_ends_a_worker :
    ∃ w₁, boot (collaborators (setupOf held) {} "1") held.settings {} "7" atStart =
      (.ok (.ok (true, 5)), w₁) ∧
    ∃ (looks : List Bool) (ending : Ending) (w₂ : World × Unit),
      watch (collaborators (setupOf held) {} "1") held.settings 5 failingRounds w₁ =
        (ending.exit (), w₂) ∧
      run (collaborators (setupOf held) {} "1") held.settings {} "7" failingRounds atStart =
        (ending.exit 0, (closed held true w₂.1, w₂.2)) ∧
      run (collaborators (setupOf held) {} "1").recorded held.settings {} "7"
          (failingRounds.map Round.recorded) (atStart, []) =
        (ending.exit 0, ((closed held true w₂.1, w₂.2),
          [.logged (booted "7"), .logged (consuming held.settings)] ++
          looks.flatMap (lookDeeds held.settings 5) ++ ending.deeds 5 ++ stops true)) ∧
      (setupOf held).notifier = .broker := by
  have reached : (boot (collaborators (setupOf held) {} "1") held.settings {} "7" atStart).1 =
      .ok (.ok (true, 5)) := by rfl
  obtain ⟨looks, ending, w₂, watched, ran, recorded, publishes⟩ :=
    shutdown_is_complete held {} "1" "7" failingRounds (Prod.ext reached rfl)
  exact ⟨_, Prod.ext reached rfl, looks, ending, w₂, watched, ran, recorded, publishes.mp rfl⟩

end Worker
end TaskRules
