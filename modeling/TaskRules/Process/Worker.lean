import TaskRules.Environment
import TaskRules.Log.Setup
import TaskRules.Queue.Consumer

/-!
The worker process: it opens a consumer of jobs and then looks, at an interval, whether the consumer
is still connected, until it is interrupted. However the watch ends, the consumer, the engine and
the client that publishes events are then stopped, in this order.
-/

namespace TaskRules.Worker

open Engine (Setup World)

/-- What the process needs from outside. -/
structure Collaborators (σ : Type) where
  log : Log.Record → Run σ Unit
  createTables : Run σ Unit
  openPublisher : Run σ Unit
  buildEngine : Run σ Unit
  openConsumer : Run σ Unit
  startConsumer : Run σ Unit
  stopConsumer : Run σ Unit
  stopEngine : Run σ Unit
  stopPublisher : Run σ Unit

/-- One round of the watch. Either part may fail, or be interrupted and then gives nothing. -/
structure Round (σ : Type) where
  /-- Waits for some seconds. -/
  sleep : Int → Run σ (Option Unit)
  /-- Whether the consumer is connected. -/
  poll : Run σ (Option Bool)

def logger : String := "worker"

/-- The seconds between two looks at the consumer. -/
def interval (e : Environment) : Except Fault Int :=
  (Numeral.integer ((e.get? "WORKER_INTERVAL_SEC").getD "5").toList).mapError Fault.ofNumeral

def disconnected (s : Settings) : Log.Record :=
  Log.warning logger ("Job consumer not connected to " ++ s.brokerText)

def stopping : Log.Record := Log.info logger "Worker stopping"

/-- Watches the consumer round by round, until a round is interrupted or none is left. -/
def watch (c : Collaborators σ) (s : Settings) (seconds : Int) : List (Round σ) → Run σ Unit
  | [] => c.log stopping
  | r :: rest => do
    match ← r.sleep seconds with
    | none => c.log stopping
    | some () =>
      match ← r.poll with
      | none => c.log stopping
      | some connected =>
        if !connected then c.log (disconnected s)
        watch c s seconds rest

/-- Stops what is running. Only a publisher that was opened is stopped. -/
def close (c : Collaborators σ) (publishes : Bool) : Run σ Unit := do
  c.stopConsumer
  c.stopEngine
  if publishes then c.stopPublisher

/-- Watches the consumer and then stops what is running. -/
def serve (c : Collaborators σ) (s : Settings) (publishes : Bool) (seconds : Int)
    (rounds : List (Round σ)) : Run σ Nat := do
  let ended ← Run.attempt (watch c s seconds rounds)
  close c publishes
  match ended with
  | .ok () => return 0
  | .error e => .raise e

/-- Opens everything that the watch needs. -/
def launch (c : Collaborators σ) (s : Settings) (publishes : Bool) : Run σ Unit := do
  if publishes then c.openPublisher
  c.buildEngine
  c.openConsumer
  c.startConsumer
  c.log (Log.info logger ("Worker consuming " ++ s.jobTopic))

/-- The process with its exit code. Without tables it gives up. -/
def run (c : Collaborators σ) (s : Settings) (e : Environment) (pid : String)
    (rounds : List (Round σ)) : Run σ Nat := do
  let _ ← Run.ofExcept (Log.levelOf s.logLevel)
  c.log (Log.info logger ("Automation worker booted (pid=" ++ pid ++ ")"))
  let seconds ← Run.ofExcept (interval e)
  let prepared ← Run.attempt (if s.createTables.truthy then c.createTables else .done ())
  match prepared with
  | .error fault =>
    c.log (Log.failure logger "DB create_all failed" [] fault.text)
    return 1
  | .ok () =>
    let publishes ← Run.ofExcept s.publishesEvents
    launch c s publishes
    serve c s publishes seconds rounds

/-! ## On an engine -/

/-- Creates the tables, if the database can be reached. -/
def createTables : Run World Unit :=
  World.onStore do
    Store.reach
    .change fun s => { s with hasTables := true }

/-- The setup of a worker's engine. -/
def setupOf (s : Setup) : Setup :=
  let publishes := s.settings.publishesEvents.toOption.getD false
  { s with notifier := if publishes then .broker else .log }

/-- The collaborators of a process with an engine, beside whatever else is kept. -/
def collaborators (s : Setup) (e : Environment) (tag : String) : Collaborators (World × τ) where
  log r := Run.first (World.note r)
  createTables := Run.first createTables
  openPublisher := Run.first (Queue.openPublisher s tag)
  buildEngine := Run.first s.build
  openConsumer := Run.first (Queue.openClient s e tag)
  startConsumer := Run.first (Queue.start s)
  stopConsumer := Run.first (Queue.stop s)
  stopEngine := Run.first Setup.discard
  stopPublisher := Run.first (Queue.stopPublisher s)

/-- Looks whether the consumer is connected. -/
def poll : Run (World × τ) (Option Bool) := Run.first (do return some (← Run.read).connected)

end TaskRules.Worker
