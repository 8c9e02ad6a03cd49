import TaskRules.Log.Setup
import TaskRules.Migration.Automatic
import TaskRules.Process.App
import TaskRules.Process.Worker
import TaskRules.Store.Sample

/-!
The command line. `worker` runs a worker over the sample database: every line of standard input is a
message on the topic of jobs, and the calls on the broker are written out. `migrate` brings a new
database to the head, and `sql` writes a migration down as SQL. Settings come from the environment.
-/

namespace TaskRules.CommandLine

open Engine (Setup World)

/-- The variables of the environment that count. -/
def variableNames : List String :=
  Settings.fieldNames.map String.toUpper ++
    ["LINXIO_ENV", "APP_ENV", "WORKER_INTERVAL_SEC", "MQTT_PROTOCOL"]

/-- A round whose sleep delivers a message. -/
def delivery (s : Setup) (line : String) : Worker.Round (World × Unit) where
  sleep _ := Run.first do
    let _ ← Queue.handleIn s (.text line) (.str s.settings.jobTopic)
    return some ()
  poll := Worker.poll

/-- A round whose sleep connects the consumer. -/
def connection (s : Setup) : Worker.Round (World × Unit) where
  sleep _ := Run.first do
    Queue.onConnect s (.int 0)
    return some ()
  poll := Worker.poll

/-- What a command writes, and its exit code. -/
structure Report where
  log : List Log.Entry
  lines : List String := []
  code : Nat

def ofResult (r : Except Fault Nat) : List Log.Entry × Nat :=
  match r with
  | .ok code => ([], code)
  | .error e => ([.record (Log.error e.name e.text)], 1)

/-- Runs a worker on lines of input. -/
def worker (s : Setup) (e : Environment) (now : Moment) (lines : List String) : Report :=
  let s := Worker.setupOf s
  let store := (Store.insertSample (Store.empty now)).2
  let (r, (w, _)) :=
    Worker.run (Worker.collaborators s e "1") s.settings e "1"
      (connection s :: lines.map (delivery s)) ({ store := store, hasEngine := false }, ())
  let (last, code) := ofResult r
  ⟨w.log ++ last, w.calls.map fun c => (Broker.callJson c).text, code⟩

def migrationConfig (s : Settings) : Migration.Config := { settingsUrl := s.databaseUrl }

def migrate (s : Settings) : Report :=
  let (r, w) := Migration.runToHead (migrationConfig s) {}
  let (last, code) := ofResult r
  ⟨w.log ++ last, [], code⟩

def sql (s : Settings) (direction : Migration.Direction) (revisions : String) : Report :=
  let c := migrationConfig s
  let written : Run Migration.World (List String) := do
    Migration.offline c (← Run.ofExcept (c.options .null)) direction revisions
  match written {} with
  | (.ok statements, w) => ⟨w.log, statements.map (· ++ ";"), 0⟩
  | (.error e, w) => ⟨w.log ++ [.record (Log.error e.name e.text)], [], 1⟩

def usage : Report :=
  ⟨[], ["usage: worker | migrate | sql upgrade REVISIONS | sql downgrade REVISIONS"], 2⟩

/-- The report of a command line. -/
def report (s : Setup) (e : Environment) (now : Moment) (input : List String) :
    List String → Report
  | ["worker"] => worker s e now input
  | ["migrate"] => migrate s.settings
  | ["sql", "upgrade", revisions] => sql s.settings .up revisions
  | ["sql", "downgrade", revisions] => sql s.settings .down revisions
  | _ => usage

/-- The lines of a log that are shown. -/
def logLines (s : Settings) (log : List Log.Entry) : List String :=
  (Log.shown ((Log.weightOf s.logLevel).toOption.getD 20) log).flatMap fun r =>
    Log.lines r.level.weight r.logger r.message

/-- The moment that new rows are stamped with. -/
def start : Moment := ⟨⟨2026, 1, 1⟩, 0, 0, 0, 0⟩

def readEnvironment : IO Environment := do
  let values ← variableNames.mapM fun name => do
    return (← IO.getEnv name).map fun value => (name, value)
  return ⟨values.filterMap id⟩

end TaskRules.CommandLine

open TaskRules CommandLine in
def main (args : List String) : IO UInt32 := do
  let e ← readEnvironment
  match Settings.read [] e with
  | .error problems =>
    IO.eprintln (Schema.describe problems)
    return 1
  | .ok settings =>
    let (settings, notes, fault) := settings.check e
    let write (l : List Log.Entry) : IO Unit := (logLines settings l).forM (IO.eprintln ·)
    write (notes.map .record)
    match fault with
    | some f =>
      IO.eprintln f.text
      return 1
    | none =>
      let input ←
        if args == ["worker"] then (do
          let text ← (← IO.getStdin).readToEnd
          return (Text.splitAt '\n' text.toList).map String.ofList)
        else pure []
      let s : Engine.Setup :=
        { settings := settings, registry := Action.Registry.standard settings.createAttempts }
      let r := report s e start (input.filter (· != "")) args
      write r.log
      r.lines.forM (IO.println ·)
      return r.code.toUInt32
