import TaskRules.Condition.Tree
import TaskRules.Json.Literal
import TaskRules.Text.Case

/-!
The accepted forms of a condition. Null (at the top only), an empty object and an empty list always
hold; a list means all of its items. An object is read by the first of these keys that it has:
`if` (a wrapper), `op` (a group or a comparison), `field` (a comparison), `and`, `or`. Without any
of them it is a map from fields to what they must be.
-/

namespace TaskRules.Condition

/-- Why a value is not a condition. -/
inductive Fault where
  | operatorNotText (raw : Json)
  | unknownOperator (raw : String)
  | fieldNotText (field : Json)
  /-- The field has a lone half. -/
  | fieldNotUnicode (field : Json)
  | fieldEmpty
  | candidatesNotList (field : Json)
  | childrenNotList (key : String)
  | unsupportedMap (field : String) (keys : List String)
  | notObject (kind : String)

/-- Puts a name into a list in order. -/
def insertName (name : String) : List String → List String
  | [] => [name]
  | other :: rest =>
    if Text.before name other then name :: other :: rest else other :: insertName name rest

def sortNames : List String → List String
  | [] => []
  | name :: rest => insertName name (sortNames rest)

def Fault.message : Fault → String
  | .operatorNotText raw => "Condition operator must be a non-empty string, got " ++ raw.literal
  | .unknownOperator raw => "Unknown condition operator: " ++ raw
  | .fieldNotText field =>
    "Invalid condition on field " ++ field.literal ++ ": Input should be a valid string"
  | .fieldNotUnicode field =>
    "Invalid condition on field " ++ field.literal ++
      ": Input should be a valid string, unable to parse raw data as a unicode string"
  | .fieldEmpty => "Invalid condition on field '': String should have at least 1 character"
  | .candidatesNotList field =>
    "Invalid condition on field " ++ field.literal ++ ": Input should be a valid list"
  | .childrenNotList key => "'" ++ key ++ "' must be a list of conditions"
  | .unsupportedMap field keys =>
    "Unsupported legacy condition for " ++ Json.quotedText field ++ ": " ++
      Json.literal (.arr ((sortNames keys).map .str))
  | .notObject kind => "Condition must be an object, got " ++ kind

/-- An operator text as it is looked up: trimmed, in lower case, without underscores and hyphens. -/
def spelling (raw : String) : String :=
  String.ofList
    ((Text.lower (Text.trim raw.toList)).filter fun c => !(c == '_' || c == '-'))

def lookup (s : String) : List (String × Operator) → Option Operator
  | [] => none
  | (k, op) :: rest => if k = s then some op else lookup s rest

/-- The operator that a value names. -/
def operator (raw : Json) : Except Fault Operator :=
  match raw with
  | .str s =>
    if Text.blank s then .error (.operatorNotText raw)
    else
      match lookup (spelling s) Operator.spellings with
      | some op => .ok op
      | none => .error (.unknownOperator s)
  | _ => .error (.operatorNotText raw)

/-- A comparison: the field is a non-empty text, the candidates a list or absent. -/
def leaf (op : Operator) (field value candidates : Json) : Except Fault Tree :=
  match field with
  | .str s =>
    if s = "" then .error .fieldEmpty
    else if !Text.isWhole s.toList then .error (.fieldNotUnicode field)
    else
      match candidates with
      | .null => .ok (.leaf ⟨op, s, value, none⟩)
      | .arr items => .ok (.leaf ⟨op, s, value, some items⟩)
      | _ => .error (.candidatesNotList field)
  | _ => .error (.fieldNotText field)

/-- The keys of a field's requirement and what they mean; the first present one counts. -/
def mapOperators : List (String × Operator) :=
  [("equals", .equals), ("in", .isIn), ("not", .notEquals), ("contains", .contains)]

/-- What a map requires of one field. -/
def requirement (field : String) (expected : Json) : Except Fault Tree :=
  match expected with
  | .obj keys =>
    match mapOperators.findSome? fun p => (Json.Fields.get? keys p.1).map (p.2, ·) with
    | some (op, value) => leaf op (.str field) value .null
    | none => .error (.unsupportedMap field (Json.Fields.names keys))
  | value => leaf .equals (.str field) value .null

/-- The requirements of a map from fields; the keys `if` and `then` are no fields. -/
def requirements : List (String × Json) → Except Fault (List Tree)
  | [] => .ok []
  | (field, expected) :: rest =>
    if field = "if" ∨ field = "then" then requirements rest
    else do
      let first ← requirement field expected
      let others ← requirements rest
      return first :: others

/-- The kinds of group. -/
inductive Group where
  | all
  | any

def Group.of : Group → List Tree → Tree
  | .all => .all
  | .any => .any

/-- The group that an operator text names. -/
def group? (raw : Json) : Option Group :=
  match raw with
  | .str s =>
    match String.ofList (Text.lower (Text.trim s.toList)) with
    | "and" => some .all
    | "or" => some .any
    | _ => none
  | _ => none

/-- A field of an object, null when it is missing. -/
def fieldOf (fields : Json.Fields) (name : String) : Json :=
  (Json.Fields.get? fields name).getD .null

/-- The comparison that an object with `op` or `field` writes. -/
def comparison (fields : Json.Fields) (op : Operator) : Except Fault Tree :=
  leaf op (fieldOf fields "field") (fieldOf fields "value") (fieldOf fields "values")

/-- The form of an object: which of its keys decides, or that it is a map. -/
inductive Form where
  | wrapper
  | group (g : Group) (key : String)
  | comparison
  | map

def form (fields : Json.Fields) : Form :=
  if Json.Fields.has fields "if" then .wrapper
  else
    match Json.Fields.get? fields "op" with
    | some op =>
      match group? op with
      | some g => .group g "children"
      | none => .comparison
    | none =>
      if Json.Fields.has fields "field" then .comparison
      else if Json.Fields.has fields "and" then .group .all "and"
      else if Json.Fields.has fields "or" then .group .any "or"
      else .map

/-- The operator of a comparison object: `op`, or `operator`, which may be left out or null. -/
def comparisonOperator (fields : Json.Fields) : Except Fault Operator :=
  match Json.Fields.get? fields "op" with
  | some op => operator op
  | none =>
    match fieldOf fields "operator" with
    | .null => .ok .equals
    | raw => operator raw

mutual
/-- The tree of a value that is not at the top. -/
def node : Json → Except Fault Tree
  | .arr items =>
    match nodes items with
    | .ok children => .ok (.all children)
    | .error fault => .error fault
  | .obj fields =>
    match form fields with
    | .wrapper => inField "if" fields
    | .group g key =>
      match childrenField key fields with
      | .ok children => .ok (g.of children)
      | .error fault => .error fault
    | .comparison =>
      match comparisonOperator fields with
      | .ok op => comparison fields op
      | .error fault => .error fault
    | .map =>
      match requirements fields with
      | .ok children => .ok (.all children)
      | .error fault => .error fault
  | v => .error (.notObject v.typeName)

/-- The trees of a list, the first fault winning. -/
def nodes : List Json → Except Fault (List Tree)
  | [] => .ok []
  | v :: rest =>
    match node v with
    | .ok first =>
      match nodes rest with
      | .ok others => .ok (first :: others)
      | .error fault => .error fault
    | .error fault => .error fault

/-- The tree of the value under a key. -/
def inField (key : String) : List (String × Json) → Except Fault Tree
  | [] => .ok (.all [])
  | (k, v) :: rest => if k = key then node v else inField key rest

/-- The trees of the list under a key; a missing key is an empty list. -/
def childrenField (key : String) : List (String × Json) → Except Fault (List Tree)
  | [] => .ok []
  | (k, v) :: rest =>
    if k = key then
      match v with
      | .arr items => nodes items
      | _ => .error (.childrenNotList key)
    else childrenField key rest
end

/-- The tree of a condition. -/
def parse (raw : Json) : Except Fault Tree :=
  match raw with
  | .null => .ok (.all [])
  | .arr [] => .ok (.all [])
  | .obj [] => .ok (.all [])
  | v => node v

/-- The filters of a trigger: which key asks for which field. -/
def triggerFilters : List (String × String) :=
  [("taskType", "task.type"), ("priority", "task.priority"), ("projectId", "task.projectId"),
    ("assigneeId", "task.assigneeId")]

/-- The tree of a trigger's filters; a filter counts when its value is present. -/
def filterTree (config : Json.Fields) : Tree :=
  .all (triggerFilters.filterMap fun p =>
    let value := fieldOf config p.1
    if value.truthy then some (.leaf ⟨.equals, p.2, value, none⟩) else none)

end TaskRules.Condition
