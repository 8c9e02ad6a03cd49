import TaskRules.Engine.World
import TaskRules.Queue.Delivery

/-!
The consumer of jobs on the broker: it subscribes to the topic of jobs whenever it is connected and
handles the messages that arrive there.
-/

namespace TaskRules.Queue

open Engine (Setup World)

/-- A call on the client that takes jobs. -/
def call (s : Setup) (c : Broker.Call) : Run World Unit := World.call s.refused .jobs c

def collaborators (s : Setup) : Collaborators World where
  execute := s.execute
  publish text := call s (.publish s.settings.jobTopic text 1)
  log := World.note

/-- Handles a message. -/
def handleIn (s : Setup) (raw : Raw) (topic : Json) : Run World Disposition :=
  handle (collaborators s) s.settings.maxAttempts raw topic

def brokerText (s : Setup) : String := s.settings.brokerText

/-- The broker has answered a connection attempt; code 0 is success. -/
def onConnect (s : Setup) (code : Json) : Run World Unit :=
  if Json.same code (.int 0) then do
    World.note (Log.info logger ("Connected to MQTT broker " ++ brokerText s ++
      ", subscribing to " ++ s.settings.jobTopic))
    call s (.subscribe s.settings.jobTopic 1)
    .change fun w => { w with connected := true }
  else
    World.note (Log.error logger ("Failed to connect to MQTT broker with code " ++ code.display))

def onDisconnect (code : Json) : Run World Unit := do
  .change fun w => { w with connected := false }
  World.note (Log.warning logger ("MQTT disconnected with reason code " ++ code.display))

/-- Creates a client, with the user's name if there is one. -/
def create (s : Setup) (client : Broker.Client) (clientId : String)
    (protocol : Option Broker.Protocol) : Run World Unit := do
  World.call s.refused client (.create clientId protocol)
  if s.settings.brokerUser.truthy then
    World.call s.refused client (.credentials s.settings.brokerUser s.settings.brokerPassword)
  World.call s.refused client (.reconnectDelay 1 10)

/-- Starts a client on the broker; a failure is logged. -/
def connect (s : Setup) (client : Broker.Client) (keepalive : Nat) (loggerName : String) :
    Run World Unit := do
  let calls : Run World Unit := do
    World.call s.refused client
      (.connect s.settings.brokerHost s.settings.brokerPort keepalive)
    World.call s.refused client .loopStart
  match ← Run.attempt calls with
  | .ok () => return ()
  | .error e =>
    World.note (Log.error loggerName ("MQTT connection failed for " ++ brokerText s ++ " (" ++
      e.text ++ ")"))

/-- Stops a client; a failure is logged. -/
def hangUp (s : Setup) (client : Broker.Client) (loggerName what : String) : Run World Unit := do
  let calls : Run World Unit := do
    World.call s.refused client .loopStop
    World.call s.refused client .disconnect
  match ← Run.attempt calls with
  | .ok () => return ()
  | .error e => World.note (Log.failure loggerName (what ++ " failed") [] e.text)

def start (s : Setup) : Run World Unit := connect s .jobs 60 logger

def stop (s : Setup) : Run World Unit := hangUp s .jobs logger "MQTT shutdown"

/-- The version of the protocol that a word asks for. -/
def protocolOf (word : String) : Broker.Protocol := if word = "v5" then .v5 else .v311

/-- Creates the client that takes jobs. `tag` tells its id from those of other processes. -/
def openClient (s : Setup) (e : Environment) (tag : String) : Run World Unit := do
  let word := String.ofList (Text.lower ((e.get? "MQTT_PROTOCOL").getD "v311").toList)
  let clientId := "linxio-automation-" ++ tag
  World.note (Log.info logger ("MQTT client_id=" ++ clientId ++ " protocol=" ++ word))
  create s .jobs clientId (some (protocolOf word))

/-- Starts the client that publishes events. -/
def startPublisher (s : Setup) : Run World Unit := connect s .events 30 Setup.publisherLogger

/-- Creates and starts the client that publishes events. -/
def openPublisher (s : Setup) (tag : String) : Run World Unit := do
  create s .events ("linxio-automation-events-" ++ tag) none
  startPublisher s

def stopPublisher (s : Setup) : Run World Unit :=
  hangUp s .events Setup.publisherLogger "MQTT event notifier shutdown"

end TaskRules.Queue
