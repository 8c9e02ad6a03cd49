import TaskRules.Fault

/-!
Objects in plain JSON, as they are handed to clients and sent again. Numbers that are not finite
become null. A name with a lone half has no form in plain JSON: on top each half becomes three
replacement characters, the bytes that would have written it, and inside it is an error.
-/

namespace TaskRules.Json

mutual
/-- The value with null in place of numbers that are not finite. -/
def finite : Json → Json
  | .double x => if x.isFinite then .double x else .null
  | .arr items => .arr (finiteItems items)
  | .obj fields => .obj (finiteFields fields)
  | v => v

def finiteItems : List Json → List Json
  | [] => []
  | v :: rest => v.finite :: finiteItems rest

def finiteFields : List (String × Json) → List (String × Json)
  | [] => []
  | (k, v) :: rest => (k, v.finite) :: finiteFields rest
end

mutual
/-- The first name inside a value that has a lone half. -/
def brokenName? : Json → Option String
  | .arr items => brokenNameIn? items
  | .obj fields => brokenNameUnder? fields
  | _ => none

def brokenNameIn? : List Json → Option String
  | [] => none
  | v :: rest =>
    match brokenName? v with
    | some name => some name
    | none => brokenNameIn? rest

def brokenNameUnder? : List (String × Json) → Option String
  | [] => none
  | (k, v) :: rest =>
    if Text.isWhole k.toList then
      match brokenName? v with
      | some name => some name
      | none => brokenNameUnder? rest
    else some k
end

/-- A name with replacement characters for its lone halves. -/
def readableName (name : String) : String :=
  String.ofList ((Text.points name.toList).flatMap fun n =>
    if Text.isHalf n then List.replicate 3 '\uFFFD' else Text.ofPoint n)

/-- An object in plain JSON. Of two names that become one the last value counts. -/
def plain (fields : Fields) : Except Fault Json :=
  match brokenNameIn? (fields.map (·.2)) with
  | some name => .error (.notEncodable name.toList)
  | none => .ok (.obj (Fields.ofPairs (fields.map fun p => (readableName p.1, p.2.finite))))

/-- The same of an object that may be absent. -/
def plain? : Option Fields → Except Fault Json
  | none => .ok .null
  | some fields => plain fields

end TaskRules.Json
