import TaskRules.Json.Arithmetic
import TaskRules.Json.Writer
import TaskRules.Sorting

/-!
Trigger payloads. A payload is an object; a list of pairs is read as one, whose names may then be
null, flags and numbers as well as texts, and a value that is not there is an empty one. Names that
are equal are one name, and so is a number that is none. Look-ups by text find only names that are
texts. A snapshot is what the record of a run keeps of a payload.
-/

namespace TaskRules

structure Payload where
  /-- The names, none of them a list or an object and no two equal, and their values. -/
  entries : List (Json × Json) := []

namespace Payload

def ofFields (fields : Json.Fields) : Payload := ⟨fields.map fun p => (.str p.1, p.2)⟩

/-- The fields whose names are texts. -/
def named (p : Payload) : Json.Fields :=
  p.entries.filterMap fun
    | (.str name, value) => some (name, value)
    | _ => none

/-- A value under a name: in place when an equal name is there, at the end otherwise. -/
def put (name value : Json) : List (Json × Json) → List (Json × Json)
  | [] => [(name, value)]
  | (k, v) :: rest =>
    if k.isNaN && name.isNaN || k.same name then (k, value) :: rest
    else (k, v) :: put name value rest

/-! ## Reading -/

/-- The field that the `n`th pair gives. -/
def pair (n : Nat) (v : Json) : Except Fault (Json × Json) :=
  let place := "dictionary update sequence element #" ++ decimal n
  match v.sequence? with
  | none => .error (.ofForeign .type ("cannot convert " ++ place ++ " to a sequence"))
  | some [name, value] => do return (← Fault.nameOf name, value)
  | some items =>
    .error (.ofForeign .value
      (place ++ " has length " ++ decimal items.length ++ "; 2 is required"))

/-- The fields of a list of pairs, counted from `n`. -/
def pairs : Nat → List Json → Except Fault (List (Json × Json))
  | _, [] => .ok []
  | n, v :: rest => do return (← pair n v) :: (← pairs (n + 1) rest)

/-- The payload that a value gives. -/
def read (v : Json) : Except Fault Payload :=
  if !v.truthy then .ok {}
  else
    match v with
    | .obj fields => .ok (ofFields fields)
    | v => do
      let fields ← pairs 0 (← Fault.itemsOf v)
      return ⟨fields.foldl (fun entries p => put p.1 p.2 entries) []⟩

/-- What a record keeps of a payload: the object, other values under the name `value`. -/
def snapshot : Json → Json
  | .null => .obj []
  | .obj fields => .obj fields
  | v => .obj [("value", v)]

/-! ## Writing -/

/-- A payload as an object, its names spelled as values are in messages. -/
def shown (p : Payload) : Json :=
  .obj (Json.Fields.ofPairs (p.entries.map fun e => (e.1.display, e.2)))

/-- A name as JSON text spells it. -/
def spelled : Json → String
  | .str s => s
  | v => v.text

/-- The fields with their names spelled as values are in JSON text. -/
def spelledFields (p : Payload) (form : Json → Json) : Json.Fields :=
  p.entries.map fun e => (spelled e.1, form e.2)

/-- A payload as an object, its names spelled as values are in JSON text. -/
def written (p : Payload) : Json := .obj (p.spelledFields id)

/-- Whether a name comes before another. Texts have an order, and numbers have one. -/
def nameBefore (a b : Json) : Except Fault Bool :=
  match a, b with
  | .str s, .str t => .ok (Text.before s t)
  | a, b =>
    match a.numeric?, b.numeric? with
    | some m, some n => .ok (m.lt n)
    | _, _ => .error (.unordered "<" a b)

/-- The payload in order of its names. -/
def sorted (p : Payload) : Except Fault Payload := do
  return ⟨← Sorting.sort (fun a b => nameBefore a.1 b.1) p.entries⟩

end Payload
end TaskRules
