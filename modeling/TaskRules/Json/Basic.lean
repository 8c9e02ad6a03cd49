import TaskRules.Number.Double
import TaskRules.Text.Point

/-!
JSON values. Integers are exact and kept apart from doubles; an object lists its fields in order,
each name once.
-/

namespace TaskRules

inductive Json where
  | null
  | bool (b : Bool)
  | int (n : Int)
  | double (x : Double)
  | str (s : String)
  | arr (items : List Json)
  | obj (fields : List (String × Json))

namespace Json

/-- The fields of an object or of a list of them, by name. -/
abbrev Fields := List (String × Json)

/-- The value of the first field of that name. -/
def Fields.get? (fields : Fields) (name : String) : Option Json :=
  match fields with
  | [] => none
  | (k, v) :: rest => if k = name then some v else Fields.get? rest name

def Fields.has (fields : Fields) (name : String) : Bool := (Fields.get? fields name).isSome

/-- Puts a value under a name: in place when the name is there, at the end otherwise. -/
def Fields.put (fields : Fields) (name : String) (value : Json) : Fields :=
  match fields with
  | [] => [(name, value)]
  | (k, v) :: rest =>
    if k = name then (k, value) :: rest else (k, v) :: Fields.put rest name value

/-- The fields that a list of pairs leaves: the last value of a name at its first place. -/
def Fields.ofPairs (pairs : List (String × Json)) : Fields :=
  pairs.foldl (fun fields p => Fields.put fields p.1 p.2) []

def Fields.names (fields : Fields) : List String := fields.map (·.1)

/-- A field of an object; `none` for other values and missing names. -/
def get? (v : Json) (name : String) : Option Json :=
  match v with
  | .obj fields => Fields.get? fields name
  | _ => none

def isNull : Json → Bool
  | .null => true
  | _ => false

/-- Whether a value counts as present: not null, false, zero, or empty. -/
def truthy : Json → Bool
  | .null => false
  | .bool b => b
  | .int n => n != 0
  | .double x => !x.isZero
  | .str s => s != ""
  | .arr items => !items.isEmpty
  | .obj fields => !fields.isEmpty

def fields : Json → Fields
  | .obj fields => fields
  | _ => []

/-- The items of a value that is a sequence: an object's names, a text's code points. -/
def sequence? : Json → Option (List Json)
  | .arr items => some items
  | .obj fields => some ((Fields.names fields).map .str)
  | .str s => some ((Text.points s.toList).map fun n => .str (String.ofList (Text.ofPoint n)))
  | _ => none

/-- The first of two values that counts as present, or else the second. -/
def orElse (a b : Json) : Json := if a.truthy then a else b

def ofOption (f : α → Json) : Option α → Json
  | none => .null
  | some a => f a

def ofText? (s : Option String) : Json := ofOption .str s

mutual
/-- Whether everything in a value that is neither a list nor an object passes a test, and every name
as a text. -/
def every (p : Json → Bool) : Json → Bool
  | .arr items => everyItem p items
  | .obj fields => everyField p fields
  | v => p v

def everyItem (p : Json → Bool) : List Json → Bool
  | [] => true
  | v :: rest => every p v && everyItem p rest

def everyField (p : Json → Bool) : List (String × Json) → Bool
  | [] => true
  | (k, v) :: rest => p (.str k) && every p v && everyField p rest
end

/-- Whether all numbers of a value are finite. -/
def isFinite (v : Json) : Bool :=
  v.every fun
    | .double x => x.isFinite
    | _ => true

/-- Whether all texts of a value are free of halves of surrogate pairs. -/
def isUnicode (v : Json) : Bool :=
  v.every fun
    | .str s => Text.isWhole s.toList
    | _ => true

/-- The number a value stands for where flags count as 0 and 1. -/
inductive Numeric where
  | int (n : Int)
  | double (x : Double)

def numeric? : Json → Option Numeric
  | .bool b => some (.int (if b then 1 else 0))
  | .int n => some (.int n)
  | .double x => some (.double x)
  | _ => none

/-- Exact equality of numbers. -/
def Numeric.same : Numeric → Numeric → Bool
  | .int m, .int n => m == n
  | .int m, .double y => y.eqInt m
  | .double x, .int n => x.eqInt n
  | .double x, .double y => x.eq y

/-- Exact order of numbers. -/
def Numeric.le : Numeric → Numeric → Bool
  | .int m, .int n => decide (m ≤ n)
  | .int m, .double y => !y.isNaN && decide (m * Double.one ≤ y.rank)
  | .double x, .int n => !x.isNaN && decide (x.rank ≤ n * Double.one)
  | .double x, .double y => x.le y

/-- Exact strict order of numbers. -/
def Numeric.lt (m n : Numeric) : Bool := m.le n && !m.same n

/-- Whether a value is a number or flag equal to this number. -/
def sameNumber (m : Numeric) (y : Json) : Bool :=
  match y.numeric? with
  | some n => m.same n
  | none => false

def isNaN : Json → Bool
  | .double x => x.isNaN
  | _ => false

mutual
/-- Equality of values: numbers by exact value with flags as 0 and 1, lists by position, objects
by name whatever the order. What is no number equals itself only inside lists and objects. -/
def same : Json → Json → Bool
  | .null, .null => true
  | .str s, .str t => s == t
  | .arr xs, .arr ys => sameItems xs ys
  | .obj fs, .obj gs => fs.length == gs.length && sameFields fs gs
  | .bool b, y => sameNumber (.int (if b then 1 else 0)) y
  | .int m, y => sameNumber (.int m) y
  | .double x, y => sameNumber (.double x) y
  | _, _ => false

def sameItems : List Json → List Json → Bool
  | [], [] => true
  | x :: xs, y :: ys => (x.isNaN && y.isNaN || same x y) && sameItems xs ys
  | _, _ => false

/-- Every field on the left has an equal one on the right. -/
def sameFields : List (String × Json) → List (String × Json) → Bool
  | [], _ => true
  | (k, v) :: rest, gs =>
    (match Fields.get? gs k with
      | some w => v.isNaN && w.isNaN || same v w
      | none => false) && sameFields rest gs
end

end Json
end TaskRules
