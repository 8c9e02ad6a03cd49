import TaskRules.Json.Basic
import TaskRules.Fault

/-!
The message broker as the engine sees it: calls on a client, any of which may be refused. Two
clients are in use, one that takes jobs and one that publishes events.
-/

namespace TaskRules.Broker

/-- The versions of the broker's protocol. -/
inductive Protocol where
  | v311
  | v5
  deriving DecidableEq

inductive Call where
  | publish (topic text : String) (qos : Nat)
  | subscribe (topic : String) (qos : Nat)
  | connect (host port : Json) (keepalive : Nat)
  | loopStart
  | loopStop
  | disconnect
  /-- A new client, with the protocol when one is asked for. -/
  | create (clientId : String) (protocol : Option Protocol)
  | credentials (user password : Json)
  | reconnectDelay (least most : Nat)

/-- The name of a call. -/
def Call.name : Call → String
  | .publish .. => "publish"
  | .subscribe .. => "subscribe"
  | .connect .. => "connect_async"
  | .loopStart => "loop_start"
  | .loopStop => "loop_stop"
  | .disconnect => "disconnect"
  | .create .. => "new"
  | .credentials .. => "username_pw_set"
  | .reconnectDelay .. => "reconnect_delay_set"

/-- The number that a version of the protocol goes by. -/
def Protocol.number : Protocol → Int
  | .v311 => 4
  | .v5 => 5

/-- The version of the client interface that is asked for. -/
def clientInterface : Int := 2

/-- What a call is made with. -/
def Call.arguments : Call → List Json
  | .publish topic text qos => [.str topic, .str text, .int qos]
  | .subscribe topic qos => [.str topic, .int qos]
  | .connect host port keepalive => [host, port, .int keepalive]
  | .create clientId protocol =>
    [.int clientInterface, .str clientId, Json.ofOption (fun p => .int p.number) protocol]
  | .credentials user password => [user, password]
  | .reconnectDelay least most => [.int least, .int most]
  | .loopStart => []
  | .loopStop => []
  | .disconnect => []

def Call.toJson (c : Call) : Json := .arr (.str c.name :: c.arguments)

/-- The error of a refused call. -/
def refusal (c : Call) : Fault := .ofForeign .connection (c.name ++ " refused")

inductive Client where
  | jobs
  | events
  deriving DecidableEq

def Client.name : Client → String
  | .jobs => "jobs"
  | .events => "events"

/-- A call with the client it is made on. -/
def callJson (p : Client × Call) : Json := .arr (.str p.1.name :: .str p.2.name :: p.2.arguments)

end TaskRules.Broker
