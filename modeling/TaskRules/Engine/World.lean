import TaskRules.Action.Registry
import TaskRules.Broker
import TaskRules.Engine.Execute
import TaskRules.Engine.Pool
import TaskRules.Settings

/-!
A running engine: its state and how it answers what runs and actions ask for. Events are delivered
to one notifier; a delivery that fails is logged and otherwise ignored. Actions with a time limit
run on a pool of workers: one that does not end keeps its worker, and with no worker left an action
never starts.
-/

namespace TaskRules.Engine

structure World where
  store : Store
  log : List Log.Entry := []
  /-- The events that a listener has received. -/
  received : List Event := []
  /-- The calls on the broker that were not refused. -/
  calls : List (Broker.Client × Broker.Call) := []
  /-- Numbers that look-ups of the next task number saw before other writers took them. -/
  overtaken : List Int := []
  /-- The workers that run actions with a time limit. -/
  pool : Pool := {}
  /-- Whether the client that takes jobs is connected. -/
  connected : Bool := false
  /-- The readings of the clock to come; the last one stays. -/
  readings : List Reading := []
  /-- Whether there is an engine. -/
  hasEngine : Bool := true

/-- Where events go. -/
inductive Notifier where
  | none
  /-- Events are written to the log. -/
  | log
  /-- Events are published on the broker. -/
  | broker
  /-- Events are handed to a listener, which may refuse them all. -/
  | listener (refusal : Option Fault)
  /-- Events are handed to a listener, which refuses those that it cannot take at the time. -/
  | choosy (refusal : World → Event → Option Fault)

/-- How an engine is set up. -/
structure Setup where
  settings : Settings := {}
  notifier : Notifier := .log
  registry : Action.Registry := {}
  workers : Nat := 4
  /-- The calls that the broker refuses, by name. -/
  refused : List String := []
  /-- The error that every new record meets. -/
  auditFault : Option Fault := none

namespace World

def note (r : Log.Record) : Run World Unit :=
  .change fun w => { w with log := w.log ++ [.record r] }

def onStore (x : Run Store α) : Run World α :=
  .onPart (·.store) (fun w s => { w with store := s }) x

/-- The next reading of the clock. -/
def clock : Run World Reading := fun w =>
  match w.readings with
  | [] => (.ok (.int 0), w)
  | [r] => (.ok r, w)
  | r :: rest => (.ok r, { w with readings := rest })

/-- A call on a client of the broker. -/
def call (refused : List String) (client : Broker.Client) (c : Broker.Call) : Run World Unit :=
  fun w =>
    if refused.contains c.name then (.error (Broker.refusal c), w)
    else (.ok (), { w with calls := w.calls ++ [(client, c)] })

end World

namespace Setup

def publisherLogger : String := "MqttEventNotifier"

/-- Publishes an event; one without a topic is dropped. -/
def publishEvent (s : Setup) (e : Event) : Run World Unit :=
  match e.topic? s.settings.topicStem.display with
  | Option.none =>
    World.note
      (Log.warning publisherLogger ("Dropping " ++ e.kind.display ++ " event without a routing id"))
  | some topic => do
    let w ← Run.read
    World.call s.refused .events (.publish topic (e.envelope w.store.now).text 1)

/-- Delivers an event to the notifier. -/
def deliver (s : Setup) (e : Event) : Run World Unit :=
  match s.notifier with
  | .none => .done ()
  | .log => do World.note (← Run.ofExcept e.described)
  | .broker => s.publishEvent e
  | .listener (some refusal) => .raise refusal
  | .listener Option.none => .change fun w => { w with received := w.received ++ [e] }
  | .choosy refusal => do
    match refusal (← Run.read) e with
    | some fault => .raise fault
    | Option.none => .change fun w => { w with received := w.received ++ [e] }

/-- Delivers an event; a delivery that fails is logged. -/
def emit (s : Setup) (e : Event) : Run World Unit := do
  match ← Run.attempt (s.deliver e) with
  | .ok () => return ()
  | .error fault => World.note (e.deliveryFailed fault.text)

def storeLogger : String := "sql_stores"

/-- The next number of a project's tasks, unless a look-up is to be overtaken. -/
def nextNumber (project : Json) : Run World Int := fun w =>
  match w.overtaken with
  | n :: rest => (.ok n, { w with overtaken := rest })
  | [] => World.onStore (Store.nextNumber project) w

/-- Adds a task; a number or slug that is taken is noted. -/
def createTask (d : Task.Draft) (assigneeIds : Json) : Run World TaskView := do
  match ← Run.attempt (World.onStore (Store.createTask d assigneeIds)) with
  | .ok task => return task
  | .error e =>
    if Action.isTaken e then
      World.note (Log.info storeLogger ("Task number " ++ d.number.display ++
        " already taken in project " ++ d.projectId.display))
      .raise e
    else .raise e

/-- Answers the request of an action. -/
def answer (s : Setup) : (q : Action.Request) → Run World q.Answer
  | .updateTask id changes => World.onStore (Store.updateTask id changes)
  | .findProject id => World.onStore (Store.findProject id)
  | .defaultStatus workflow => World.onStore (Store.defaultStatus workflow)
  | .nextNumber project => nextNumber project
  | .createTask draft assigneeIds => createTask draft assigneeIds
  | .notify drafts => World.onStore (Store.notify drafts)
  | .comment taskId content author => World.onStore (Store.comment taskId content author)
  | .emit e => s.emit e
  | .log r => World.note r

/-- Dispatches an action and waits for its end; `none` when it does not end. -/
def dispatch (s : Setup) (kind config payload : Json) (context : Action.Context) :
    Run World (Option Action.Result) :=
  (s.registry.dispatch kind config (Payload.read payload) context).run s.answer

/-- Dispatches an action with a payload that has been read. -/
def dispatchRead (s : Setup) (kind config : Json) (payload : Payload) (context : Action.Context) :
    Run World (Option Action.Result) :=
  (s.registry.dispatch kind config (.ok payload) context).run s.answer

/-- Dispatches a rule's action on a worker of the pool. When no worker takes it in time it is
cancelled; when it does not end in time it keeps its worker. -/
def dispatchPooled (s : Setup) (rule : Rule) (payload : Payload) (context : Action.Context) :
    Run World Dispatched := fun w =>
  let (ticket, pool) := w.pool.submit
  let pool := pool.takeAll s.workers
  if pool.isRunning ticket then
    match s.dispatchRead (.str rule.actionType) rule.actionConfig payload context
        { w with pool := pool } with
    | (.ok (some result), w) => (.ok (.ended result), { w with pool := w.pool.finish ticket })
    | (.ok Option.none, w) => (.ok (.late true), w)
    | (.error e, w) => (.error e, { w with pool := w.pool.finish ticket })
  else
    let (cancelled, pool) := pool.cancel ticket
    (.ok (.late (!cancelled)), { w with pool := pool })

/-- Dispatches a rule's action, on the pool if there is a limit. -/
def dispatchWithin (s : Setup) (limit : Option Json) (rule : Rule) (payload : Payload)
    (context : Action.Context) : Run World Dispatched :=
  match limit with
  | some _ => s.dispatchPooled rule payload context
  | Option.none => do
    return .of (← s.dispatchRead (.str rule.actionType) rule.actionConfig payload context)

/-- Adds a record to the store. -/
def createRecord (s : Setup) (d : Execution.Draft) : Run World Execution :=
  match s.auditFault with
  | some fault => .raise fault
  | Option.none => World.onStore (Store.createExecution d)

/-- What runs of rules work with. -/
def collaborators (s : Setup) : Collaborators World where
  findRule id := World.onStore (Store.findRule id)
  dispatch := s.dispatchWithin
  create := s.createRecord
  clock := World.clock
  log := World.note

def serviceLogger : String := "automation_service"

/-- Builds the engine. -/
def build (s : Setup) : Run World Unit := do
  World.note (Log.info serviceLogger ("Automation orchestrator ready timeout_sec=" ++
    s.settings.limit.display ++ " record_missing_rules=" ++ s.settings.recordMissing.display))
  .change fun w => { w with hasEngine := true }

/-- Takes the engine and its workers away. -/
def discard : Run World Unit := .change fun w => { w with hasEngine := false, pool := {} }

def policy (s : Setup) : Policy := ⟨s.settings.limit, s.settings.recordMissing⟩

/-- Runs a rule for a trigger. -/
def execute (s : Setup) (t : Trigger) : Run World Outcome :=
  Engine.execute s.collaborators s.policy t

end Setup
end TaskRules.Engine
