import TaskRules.Json.Writer
import TaskRules.Store.Affinity
import TaskRules.Text.Case
import TaskRules.Text.Encoding

/-!
HTTP requests: a method, a target and a body. Bodies are sent as UTF-8 and read in the encoding that
their bytes tell.
-/

namespace TaskRules.Api

structure Request where
  method : String
  /-- A URL, or a part of one. -/
  target : String
  /-- The body, JSON text; an empty one is none. -/
  body : String := ""

namespace Request

/-- The method as it is sent. -/
def verb (r : Request) : String := String.ofList (Text.upper r.method.toList)

/-- The text of a body that writes a value. Numbers that are not finite cannot be written. -/
def bodyOf (v : Json) : Except Fault String :=
  if v.isFinite then .ok v.text
  else .error (.ofForeign .value "Out of range float values are not JSON compliant")

/-- What the service reads as the text of the body. -/
def bodyText? (r : Request) : Option String :=
  (Text.textOfBytes? (Text.utf8 r.body.toList)).map String.ofList

/-- A body that cannot be sent stops the request. -/
def check (r : Request) : Except Fault Unit :=
  if Text.isWhole r.body.toList then .ok () else .error (.notEncodable r.body.toList)

end Request
end TaskRules.Api
