import TaskRules.Api.Respond
import TaskRules.Migration.Automatic
import TaskRules.Queue.Consumer

/-!
The service process. At its start it prepares the database, as the settings ask: it creates missing
tables, and it migrates. Failures are logged and stop the start in production only. Then it opens
the notifier and builds the engine, unless it was given one; without a start, the engine is built on
first use. At its end it stops the engine and the client that publishes events.
-/

namespace TaskRules.App

open Engine (Setup Notifier)

/-- What a service is started with. -/
structure Config where
  setup : Setup
  environment : Environment := {}
  migration : Migration.Config
  /-- Where the service's own database is. -/
  database : Migration.Location
  /-- Tells the ids of this process's clients from those of others. -/
  tag : String := ""

structure World where
  engine : Engine.World
  hosts : Migration.Hosts := {}
  /-- The notifier that the start has opened. -/
  notifier : Option Notifier := none
  /-- Whether the engine was given. -/
  isGiven : Bool := false

namespace World

def note (r : Log.Record) : Run World Unit :=
  .change fun w => { w with engine.log := w.engine.log ++ [.record r] }

def onEngine (x : Run Engine.World α) : Run World α :=
  .onPart (·.engine) (fun w e => { w with engine := e }) x

/-- Migrations share the log. -/
def onMigration (x : Run Migration.World α) : Run World α :=
  .onPart (fun w => ⟨w.hosts, w.engine.log⟩)
    (fun w m => { w with hosts := m.hosts, engine.log := m.log }) x

end World

/-- Whether all tables are there. -/
def hasTables (s : Migration.State) : Bool := Migration.allTables.all fun t => s.has t.name

/-- Takes note of whether the service's tables are there. -/
def lookForTables (c : Config) : Run World Unit := do
  let h := (← Run.read).hosts
  let found := (Migration.Hosts.connect c.database (do return hasTables (← Run.read)) h).1
  .change fun w =>
    match found with
    | .ok b => { w with engine.store.hasTables := b, engine.store.outage := none }
    | .error e => { w with engine.store.outage := some e }

/-- Creates the tables that are missing. -/
def createTables (c : Config) : Run World Unit := do
  World.onMigration (Migration.World.onHosts
    (Migration.Hosts.connect c.database (.change (·.createAll))))
  lookForTables c

/-- Brings the database to the head. -/
def migrate (c : Config) : Run World Unit := do
  let r ← Run.attempt (World.onMigration (Migration.toHead c.migration .null))
  lookForTables c
  Run.ofExcept r

def logger : String := "startup"

/-- A part of the start. Its failure is logged, and stops the start where that is wanted. -/
def step (stops : Bool) (what : String) (x : Run World Unit) : Run World Unit := do
  match ← Run.attempt x with
  | .ok () => return ()
  | .error e =>
    World.note (Log.failure logger (what ++ " failed") [] e.text)
    if stops then .raise e else return ()

/-- Prepares the database as the settings ask. -/
def prepare (c : Config) (stops : Bool) : Run World Unit := do
  if c.setup.settings.createTables.truthy then step stops "DB create_all" (createTables c)
  if c.setup.settings.runMigrations.truthy then step stops "DB migrations" (migrate c)

/-- Opens the notifier that the settings ask for. -/
def openNotifier (c : Config) : Run World Unit := do
  if ← Run.ofExcept c.setup.settings.publishesEvents then
    World.onEngine (Queue.openPublisher c.setup c.tag)
    .change fun w => { w with notifier := some .broker }
  else .change fun w => { w with notifier := some .log }

/-- Starts the service. -/
def start (c : Config) : Run World Unit := do
  let (deployment, notes) := c.environment.deployment
  notes.forM World.note
  prepare c (deployment == Environment.production)
  if !(← Run.read).engine.hasEngine then
    openNotifier c
    World.onEngine c.setup.build

/-- Ends the service. -/
def shutdown (c : Config) : Run World Unit := do
  World.onEngine Setup.discard
  match (← Run.read).notifier with
  | some .broker => World.onEngine (Queue.stopPublisher c.setup)
  | _ => return ()

/-- The service as it answers requests. Events go to the notifier that was opened, or to the log. -/
def service (c : Config) (w : World) : Api.Service :=
  { setup := { c.setup with notifier := w.notifier.getD .log }, environment := c.environment,
    isForeign := w.isGiven }

/-- Answers a request. -/
def respond (c : Config) (r : Api.Request) : Run World Api.Answer := do
  let w ← Run.read
  World.onEngine (Api.respond (service c w) r)

end TaskRules.App
