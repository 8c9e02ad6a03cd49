import TaskRules.Log
import TaskRules.Payload
import TaskRules.Time.Timestamp

/-!
Events tell connected clients what has changed. Each goes to the topic of its project, or, for
notifications, of its user; an event without that id has no topic.
-/

namespace TaskRules

structure Event where
  /-- The kind as it was handed in; the engine's own events have a text. -/
  kind : Json
  data : Json.Fields
  /-- The payload of the trigger, where it is passed on. -/
  payload : Option Payload := none

namespace Event

def taskCreated : String := "task:created"

def taskUpdated : String := "task:updated"

def taskStatusChanged : String := "task:status_changed"

def taskAssigned : String := "task:assigned"

def commentAdded : String := "comment:added"

def notification : String := "notification"

/-- The event that values give; its data has to be an object. -/
def ofValue (kind data : Json) : Except Fault Event :=
  match data with
  | .obj fields => .ok { kind := kind, data := fields }
  | v => .error (.lacks v "get")

/-- All data, with a payload in the given form. -/
def fields (form : Payload → Json) (e : Event) : Json.Fields :=
  e.data ++
    match e.payload with
    | some payload => [("data", form payload)]
    | none => []

/-- The text of an id that is present. -/
def idText? (data : Json.Fields) (name : String) : Option String :=
  match Json.Fields.get? data name with
  | some v => if v.truthy then some v.display else none
  | none => none

/-- The topic an event is published on. -/
def topic? (stem : String) (e : Event) : Option String :=
  if e.kind.same (.str notification) then
    (idText? e.data "userId").map fun id => stem ++ "/users/" ++ id ++ "/notifications"
  else
    (idText? e.data "projectId").map fun id => stem ++ "/projects/" ++ id ++ "/events"

/-- The message that data of a kind is published as. -/
def envelopeOf (kind data : Json) (now : Moment) : Json :=
  .obj [("schema_version", .str "1.0"), ("event", kind), ("data", data),
    ("timestamp_utc", .str (now.iso ++ "Z"))]

/-- The message an event is published as. -/
def envelope (e : Event) (now : Moment) : Json :=
  envelopeOf e.kind (.obj (e.fields Payload.written)) now

def toJson (e : Event) : Json := .arr [e.kind, .obj (e.fields Payload.shown)]

def logger : String := "event_notifier"

/-- A field of the event's data, null when it is missing. -/
def field (e : Event) (name : String) : Json := (Json.Fields.get? e.data name).getD .null

/-- What is logged when an event could not be delivered. -/
def deliveryFailed (e : Event) (errorText : String) : Log.Record :=
  Log.failure logger "Event emit failed"
    [("kind", e.kind), ("task_id", e.field "taskId"), ("user_id", e.field "userId")] errorText

/-- What is logged in place of publishing, everything in order of its names. -/
def described (e : Event) : Except Fault Log.Record := do
  let data := Json.sortedFields e.data
  let fields ←
    match e.payload with
    | some payload =>
      pure (Json.insertField ("data", .obj ((← payload.sorted).spelledFields Json.sorted)) data)
    | none => pure data
  return Log.info logger ("Event " ++ e.kind.display ++ " " ++ (Json.obj fields).text)

end Event
end TaskRules
