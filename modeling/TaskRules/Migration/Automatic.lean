import TaskRules.Log
import TaskRules.Migration.Command
import TaskRules.Migration.Options
import TaskRules.Migration.Url
import TaskRules.Settings

/-!
Migrating the configured database without being told where it stands. A database whose tables were
created without migrations is first marked as being at the revision that these tables are of; then
it is brought to the head. The database that is looked at is the configured one; commands work on
the one that the environment names, if it does.
-/

namespace TaskRules.Migration

/-- The databases in reach. A file that is not listed holds an empty one; it can be opened when its
directory is there. -/
structure Hosts where
  files : List (String × State) := []
  /-- The files that cannot be opened. -/
  closed : List String := []
  /-- The directories that are there, beside the one that paths start in. -/
  directories : List String := ["/", "/tmp"]

namespace Hosts

def state (h : Hosts) (path : String) : State :=
  match h.files.find? (·.1 == path) with
  | some (_, s) => s
  | none => {}

def setState (h : Hosts) (path : String) (s : State) : Hosts :=
  { h with files := (path, s) :: h.files.filter (·.1 != path) }

/-- The segments of a path without those that change nothing; `..` takes the one before it away. -/
def segments (path : String) : List String :=
  ((Text.splitAt '/' path.toList).map String.ofList).foldl (fun kept segment =>
    if segment = "" ∨ segment = "." then kept
    else if segment = ".." then kept.dropLast
    else kept ++ [segment]) []

/-- The shortest form of a path. -/
def plainPath (path : String) : String :=
  (if path.toList.head? = some '/' then "/" else "") ++ Text.join "/" (segments path)

/-- Whether a file can be opened. -/
def canOpen (h : Hosts) (path : String) : Bool :=
  let path := plainPath path
  !h.closed.contains path && !h.directories.contains path && path != "" &&
    (match (segments path).dropLast with
      | [] => true
      | parents =>
        h.directories.contains
          ((if path.toList.head? = some '/' then "/" else "") ++ Text.join "/" parents))

/-- Whether a file is there. -/
def isThere (h : Hosts) (path : String) : Bool := h.files.any (·.1 == plainPath path)

/-- Works on the database at a location. -/
def connect (l : Location) (x : Run State α) : Run Hosts α :=
  match l with
  | .memory => fun h => ((x {}).1, h)
  | .file path mustExist => fun h =>
    if h.canOpen path && (!mustExist || h.isThere path) then
      Run.onPart (·.state (plainPath path)) (·.setState (plainPath path)) x h
    else (.error .database, h)

end Hosts

/-- How migrations are configured. -/
structure Config where
  /-- The URL in the settings. -/
  settingsUrl : Json
  /-- The URL in the environment. -/
  environmentUrl : Option String := none
  /-- The directory of the configuration file. -/
  root : String := ""
  hasFile : Bool := true

namespace Config

def urlOption : String := "sqlalchemy.url"

/-- The options that the configuration file gives. -/
def fileOptions (c : Config) : Options :=
  [("here", c.root), ("script_location", "alembic"), ("prepend_sys_path", "."),
    (urlOption, ({} : Settings).databaseUrl.display)]

/-- The URL that is asked for: the given one unless it is empty, or that of the settings. -/
def chosen (c : Config) (given : Json) : Json := if given.truthy then given else c.settingsUrl

/-- The options of a migration. -/
def options (c : Config) (given : Json) : Except Fault Options :=
  if c.hasFile then c.fileOptions.set urlOption (c.chosen given)
  else .error (.ofForeign .fileNotFound ("alembic.ini not found at " ++ c.root ++ "/alembic.ini"))

/-- The options that commands work with: the URL of the environment comes first. -/
def commandOptions (c : Config) (o : Options) : Except Fault Options :=
  match c.environmentUrl with
  | some url => if url = "" then .ok o else o.set urlOption (.str url)
  | none => .ok o

/-- The database that options name. -/
def database (o : Options) : Except Fault Url := do Url.read (← o.get urlOption)

/-- The database that commands work on. -/
def commandDatabase (c : Config) (o : Options) : Except Fault Url := do
  database (← c.commandOptions o)

end Config

structure World where
  hosts : Hosts := {}
  log : List Log.Entry := []

namespace World

def note (r : Log.Record) : Run World Unit :=
  .change fun w => { w with log := w.log ++ [.record r] }

def onHosts (x : Run Hosts α) : Run World α :=
  .onPart (·.hosts) (fun w h => { w with hosts := h }) x

end World

/-- Commands set logging up anew; from then on only warnings and worse are shown. -/
def quieten : Run World Unit :=
  .change fun w => { w with log := w.log ++ [.threshold Log.Level.warning.weight] }

/-- Runs a command. -/
def command (c : Config) (o : Options) (x : Run State Unit) : Run World Unit := do
  quieten
  let url ← Run.ofExcept (c.commandDatabase o)
  let location ← Run.ofExcept url.location
  World.onHosts (Hosts.connect location x)

def upgrade (c : Config) (o : Options) (target : String) : Run World Unit := do
  Run.ofExcept (noRange target)
  command c o (State.upgrade target)

def downgrade (c : Config) (o : Options) (target : String) : Run World Unit := do
  Run.ofExcept (noRange target)
  command c o (State.downgrade target)

def stamp (c : Config) (o : Options) (target : Json) : Run World Unit :=
  command c o (State.stamp target)

/-- The SQL of a command, in the dialect of the database it would work on. -/
def offline (c : Config) (o : Options) (direction : Direction) (text : String) :
    Run World (List String) := do
  let journey ← Run.ofExcept (Journey.read direction text)
  quieten
  let url ← Run.ofExcept (c.commandDatabase o)
  let dialect ← Run.ofExcept url.dialect
  Run.ofExcept (script dialect direction journey)

/-- Whether the tables of rules and records are there without a mark. -/
def State.isUnmarked (s : State) : Bool :=
  s.version.isNone && automationRevision.tables.all fun t => s.has t.name

/-- Whether the database at a URL was built without migrations. -/
def builtUnmarked (url : String) : Run World Bool := do
  let location ← Run.ofExcept (do (← Url.read url).location)
  World.onHosts (Hosts.connect location (do return (← Run.read).isUnmarked))

def logger : String := "run_migrations"

/-- The revision of the tables that are created without migrations. -/
def createdRevision : Revision := automationRevision

/-- Brings the database to the head. -/
def toHead (c : Config) (given : Json) : Run World Unit := do
  let o ← Run.ofExcept (c.options given)
  if ← builtUnmarked (← Run.ofExcept (o.get Config.urlOption)) then
    World.note (Log.info logger ("Stamping pre-existing schema at " ++ createdRevision.id))
    stamp c o (.str createdRevision.id)
  upgrade c o "head"
  World.note (Log.info logger "Automation schema is at head")

/-- Brings the configured database to the head and gives the exit code of the process. -/
def runToHead (c : Config) : Run World Nat := do
  match ← Run.attempt (toHead c .null) with
  | .ok () => return 0
  | .error e =>
    World.note (Log.error logger ("Migration failed: " ++ e.text))
    return 1

end TaskRules.Migration
