import TaskRules.Environment
import TaskRules.Fault

/-!
The settings of the service. They are read from named values and from the environment, each as a
value of its type, then checked: what the service cannot work with is replaced, with a warning, and
in production a local database is refused. A running service may be given others of any type, which
are used as they are.
-/

namespace TaskRules

structure Settings where
  databaseUrl : Json := .str "sqlite+pysqlite:///./linxio_automation.db"
  brokerHost : Json := .str "localhost"
  brokerPort : Json := .int 1883
  brokerUser : Json := .null
  brokerPassword : Json := .null
  /-- What the topics of events and jobs start with. -/
  topicStem : Json := .str "linxio"
  /-- Where events go: `log` or `mqtt`. -/
  notifier : Json := .str "log"
  createTables : Json := .bool true
  runMigrations : Json := .bool false
  logLevel : Json := .str "INFO"
  poolSize : Json := .int 5
  poolOverflow : Json := .int 10
  poolRecycle : Json := .int 1800
  poolTimeout : Json := .int 30
  /-- The longest time for an action in seconds, a number or null. -/
  limit : Json := .double (.ofInt 30)
  recordMissing : Json := .bool false
  maxAttempts : Json := .int 3
  createAttempts : Json := .int 3

namespace Settings

open Schema (Checked optional nullable)

/-- The topic that jobs arrive on. -/
def jobTopic (s : Settings) : String := s.topicStem.display ++ "/automation/jobs"

/-- The broker as it is called in log records. -/
def brokerText (s : Settings) : String := s.brokerHost.display ++ ":" ++ s.brokerPort.display

def fieldNames : List String :=
  ["database_url", "mqtt_broker_host", "mqtt_broker_port", "mqtt_username", "mqtt_password",
    "mqtt_topic_prefix", "event_notifier", "auto_create_db", "auto_run_migrations", "log_level",
    "db_pool_size", "db_max_overflow", "db_pool_recycle_sec", "db_pool_timeout_sec",
    "automation_execution_timeout_sec", "automation_record_missing_rules",
    "automation_job_max_attempts", "create_task_max_attempts"]

/-! ## Types of settings -/

def text (v : Json) : Checked Json := (Schema.text v).map .str

def openText (v : Json) : Checked Json := (nullable Schema.text v).map .ofText?

def whole (v : Json) : Checked Json := (Schema.whole v).map .int

def flag (v : Json) : Checked Json := (Schema.flag v).map .bool

def seconds (v : Json) : Checked Json := (nullable Schema.number v).map (Json.ofOption .double)

/-- The settings that fields give; fields that are not there keep their defaults. -/
def readFields (f : Json.Fields) : Checked Settings :=
  let d : Settings := {}
  (((((((((((((((((Checked.and (.ok Settings.mk)
    (optional f ["database_url"] d.databaseUrl text)).and
    (optional f ["mqtt_broker_host"] d.brokerHost text)).and
    (optional f ["mqtt_broker_port"] d.brokerPort whole)).and
    (optional f ["mqtt_username"] d.brokerUser openText)).and
    (optional f ["mqtt_password"] d.brokerPassword openText)).and
    (optional f ["mqtt_topic_prefix"] d.topicStem text)).and
    (optional f ["event_notifier"] d.notifier text)).and
    (optional f ["auto_create_db"] d.createTables flag)).and
    (optional f ["auto_run_migrations"] d.runMigrations flag)).and
    (optional f ["log_level"] d.logLevel text)).and
    (optional f ["db_pool_size"] d.poolSize whole)).and
    (optional f ["db_max_overflow"] d.poolOverflow whole)).and
    (optional f ["db_pool_recycle_sec"] d.poolRecycle whole)).and
    (optional f ["db_pool_timeout_sec"] d.poolTimeout whole)).and
    (optional f ["automation_execution_timeout_sec"] d.limit seconds)).and
    (optional f ["automation_record_missing_rules"] d.recordMissing flag)).and
    (optional f ["automation_job_max_attempts"] d.maxAttempts whole)).and
    (optional f ["create_task_max_attempts"] d.createAttempts whole)

/-- The fields of the settings that named values and the environment give; named values win. -/
def sources (named : Json.Fields) (e : Environment) : Json.Fields :=
  fieldNames.filterMap fun name =>
    match Json.Fields.get? named name with
    | some v => some (name, v)
    | none => (e.getAnyCase? name).map fun s => (name, .str s)

def read (named : Json.Fields) (e : Environment) : Checked Settings := readFields (sources named e)

/-- The settings with some fields replaced as they are, without any check. -/
def replace (s : Settings) (f : Json.Fields) : Settings :=
  let value (name : String) (old : Json) : Json := (Json.Fields.get? f name).getD old
  { databaseUrl := value "database_url" s.databaseUrl
    brokerHost := value "mqtt_broker_host" s.brokerHost
    brokerPort := value "mqtt_broker_port" s.brokerPort
    brokerUser := value "mqtt_username" s.brokerUser
    brokerPassword := value "mqtt_password" s.brokerPassword
    topicStem := value "mqtt_topic_prefix" s.topicStem
    notifier := value "event_notifier" s.notifier
    createTables := value "auto_create_db" s.createTables
    runMigrations := value "auto_run_migrations" s.runMigrations
    logLevel := value "log_level" s.logLevel
    poolSize := value "db_pool_size" s.poolSize
    poolOverflow := value "db_max_overflow" s.poolOverflow
    poolRecycle := value "db_pool_recycle_sec" s.poolRecycle
    poolTimeout := value "db_pool_timeout_sec" s.poolTimeout
    limit := value "automation_execution_timeout_sec" s.limit
    recordMissing := value "automation_record_missing_rules" s.recordMissing
    maxAttempts := value "automation_job_max_attempts" s.maxAttempts
    createAttempts := value "create_task_max_attempts" s.createAttempts }

def toFields (s : Settings) : Json.Fields :=
  [("database_url", s.databaseUrl),
    ("mqtt_broker_host", s.brokerHost),
    ("mqtt_broker_port", s.brokerPort),
    ("mqtt_username", s.brokerUser),
    ("mqtt_password", s.brokerPassword),
    ("mqtt_topic_prefix", s.topicStem),
    ("event_notifier", s.notifier),
    ("auto_create_db", s.createTables),
    ("auto_run_migrations", s.runMigrations),
    ("log_level", s.logLevel),
    ("db_pool_size", s.poolSize),
    ("db_max_overflow", s.poolOverflow),
    ("db_pool_recycle_sec", s.poolRecycle),
    ("db_pool_timeout_sec", s.poolTimeout),
    ("automation_execution_timeout_sec", s.limit),
    ("automation_record_missing_rules", s.recordMissing),
    ("automation_job_max_attempts", s.maxAttempts),
    ("create_task_max_attempts", s.createAttempts)]

/-- A database kept in a local file or in memory. -/
def isLocal (s : Settings) : Bool := "sqlite".toList.isPrefixOf s.databaseUrl.display.toList

/-- The options of the database engine; a pool is for servers only. -/
def engineOptions (s : Settings) : Json :=
  if s.isLocal then .obj [("connect_args", .obj [("check_same_thread", .bool false)])]
  else
    .obj [("pool_pre_ping", .bool true), ("pool_size", s.poolSize),
      ("max_overflow", s.poolOverflow), ("pool_recycle", s.poolRecycle),
      ("pool_timeout", s.poolTimeout)]

/-- The notifier's name as it is looked up; an empty value is the empty name. -/
def notifierName (s : Settings) : Except Fault String :=
  if !s.notifier.truthy then .ok ""
  else
    match s.notifier with
    | .str name => .ok (String.ofList (Text.lower (Text.trim name.toList)))
    | v => .error (.lacks v "strip")

/-- Whether events are published on the broker. -/
def publishesEvents (s : Settings) : Except Fault Bool := do return (← s.notifierName) == "mqtt"

def logger : String := "config"

/-- Replaces an unknown notifier by the log. -/
def checkNotifier (s : Settings) (named : String) : Settings × List Log.Record :=
  if named = "log" ∨ named = "mqtt" then (s, [])
  else
    ({ s with notifier := .str "log" },
      [Log.error logger ("EVENT_NOTIFIER=" ++ s.notifier.display ++
        " is not supported; falling back to log notifier.")])

/-- A number of attempts of at least 1. -/
def checkAttempts (name : String) (most : Json) : Json × List Log.Record :=
  match most with
  | .int n =>
    if n < 1 then
      (.int 1, [Log.warning logger (name ++ "=" ++ decimal n ++ " is below 1; using 1.")])
    else (most, [])
  | most => (most, [])

/-- The remarks on settings in production. `named` is the notifier as it was before the check. -/
def remarks (s : Settings) (named : String) : List Log.Record :=
  (if s.createTables.truthy then
    [Log.warning logger "AUTO_CREATE_DB is enabled in prod. Consider setting it to false."]
  else []) ++
  (if s.limit.truthy then []
  else
    [Log.warning logger
      "AUTOMATION_EXECUTION_TIMEOUT_SEC is disabled in prod; a stuck handler blocks its worker."])
  ++
  (if named = "log" then
    [Log.warning logger
      "EVENT_NOTIFIER=log in prod; connected clients will not receive live updates."]
  else [])

/-- Checks settings for an environment: the settings to work with, what is logged, and the error
that stops the service if there is one. -/
def check (s : Settings) (e : Environment) : Settings × List Log.Record × Option Fault :=
  let (deployment, noted) := e.deployment
  let named := (s.notifierName.toOption).getD ""
  let (s, notes1) := s.checkNotifier named
  let (maxAttempts, notes2) := checkAttempts "AUTOMATION_JOB_MAX_ATTEMPTS" s.maxAttempts
  let (createAttempts, notes3) := checkAttempts "CREATE_TASK_MAX_ATTEMPTS" s.createAttempts
  let s := { s with maxAttempts := maxAttempts, createAttempts := createAttempts }
  let notes := noted ++ notes1 ++ notes2 ++ notes3
  if deployment = Environment.production then
    if s.isLocal then
      (s, notes,
        some (.ofForeign .runtime "DATABASE_URL must point at a server database in prod."))
    else (s, notes ++ s.remarks named, none)
  else (s, notes, none)

end Settings
end TaskRules
