import TaskRules.Json.Basic

/-!
Condition trees: comparisons of one payload field, combined by `all` and `any`.
-/

namespace TaskRules.Condition

/-- The comparisons. -/
inductive Operator where
  | equals
  | notEquals
  | isIn
  | notIn
  | contains
  | startsWith
  | endsWith
  | greater
  | atLeast
  | less
  | atMost
  | isEmpty
  | isNotEmpty
  deriving DecidableEq

/-- The canonical name. -/
def Operator.name : Operator → String
  | .equals => "equals"
  | .notEquals => "not_equals"
  | .isIn => "in"
  | .notIn => "not_in"
  | .contains => "contains"
  | .startsWith => "starts_with"
  | .endsWith => "ends_with"
  | .greater => "gt"
  | .atLeast => "gte"
  | .less => "lt"
  | .atMost => "lte"
  | .isEmpty => "is_empty"
  | .isNotEmpty => "is_not_empty"

/-- The accepted spellings, without underscores and hyphens and in lower case. -/
def Operator.spellings : List (String × Operator) :=
  [("equals", .equals), ("eq", .equals), ("==", .equals),
    ("notequals", .notEquals), ("ne", .notEquals), ("neq", .notEquals), ("!=", .notEquals),
    ("in", .isIn), ("notin", .notIn), ("contains", .contains),
    ("startswith", .startsWith), ("endswith", .endsWith),
    ("gt", .greater), (">", .greater), ("greaterthan", .greater),
    ("gte", .atLeast), (">=", .atLeast), ("greaterthanorequal", .atLeast),
    ("greaterthanorequals", .atLeast),
    ("lt", .less), ("<", .less), ("lessthan", .less),
    ("lte", .atMost), ("<=", .atMost), ("lessthanorequal", .atMost),
    ("lessthanorequals", .atMost),
    ("isempty", .isEmpty), ("empty", .isEmpty),
    ("isnotempty", .isNotEmpty), ("notempty", .isNotEmpty)]

/-- A comparison of the field at a path. `candidates` is the list for membership; without one the
value serves. -/
structure Leaf where
  operator : Operator
  field : String
  value : Json
  candidates : Option (List Json)

inductive Tree where
  | leaf (l : Leaf)
  | all (children : List Tree)
  | any (children : List Tree)

mutual
/-- The canonical JSON form of a tree. -/
def Tree.toJson : Tree → Json
  | .leaf l =>
    .obj [("op", .str l.operator.name), ("field", .str l.field), ("value", l.value),
      ("values", Json.ofOption .arr l.candidates)]
  | .all children => .obj [("op", .str "and"), ("children", .arr (toJsonItems children))]
  | .any children => .obj [("op", .str "or"), ("children", .arr (toJsonItems children))]

def toJsonItems : List Tree → List Json
  | [] => []
  | t :: rest => t.toJson :: toJsonItems rest
end

end TaskRules.Condition
