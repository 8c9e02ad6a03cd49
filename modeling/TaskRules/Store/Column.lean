import TaskRules.Json.Writer
import TaskRules.Store.Affinity
import TaskRules.Time.Iso

/-!
Columns: what each kind of them keeps of the values of a row that is given as JSON, and reading rows
back. Null and missing values are the same, except in columns of JSON, which keep null. Moments are
stored without their distance from UTC.
-/

namespace TaskRules

/-- A value in a column of numbers: a number, or a text that writes none. -/
inductive Quantity where
  | int (n : Int)
  | double (x : Double)
  | text (s : String)
  deriving DecidableEq

namespace Quantity

def toJson : Quantity → Json
  | .int n => .int n
  | .double x => .double x
  | .text s => .str s

def ofJson? : Json → Option Quantity
  | .int n => some (.int n)
  | .double x => some (.double x)
  | .str s => some (.text s)
  | _ => none

/-- The order of values: numbers by size, then texts by code points. -/
def le : Quantity → Quantity → Bool
  | .text s, .text t => !Text.before t s
  | .text _, _ => false
  | _, .text _ => true
  | .int m, .int n => Json.Numeric.le (.int m) (.int n)
  | .int m, .double y => Json.Numeric.le (.int m) (.double y)
  | .double x, .int n => Json.Numeric.le (.double x) (.int n)
  | .double x, .double y => Json.Numeric.le (.double x) (.double y)

/-- The value in place of an empty one. -/
def orZero (q : Quantity) : Quantity := if q.toJson.truthy then q else .int 0

/-- A double without its fraction. -/
def wholeOf (x : Double) : Except Fault Int :=
  match x with
  | .nan => .error (.ofForeign .value "cannot convert float NaN to integer")
  | .infinite _ => .error (.ofForeign .overflow "cannot convert float infinity to integer")
  | .finite negative steps =>
    let whole : Int := (steps / Double.one : Nat)
    .ok (if negative then -whole else whole)

/-- The integer that a value stands for, without a fraction. -/
def whole : Quantity → Except Fault Int
  | .int n => .ok n
  | .double x => wholeOf x
  | .text s => (Numeral.integer s.toList).mapError .ofNumeral

end Quantity

/-- The kinds of columns. -/
inductive ColumnKind where
  | text
  | quantity
  | flag
  | moment
  | json
  deriving DecidableEq

/-- Whether a value is of a column's kind. Flags may be given as 0 and 1. Texts and numbers have no
kind that they must be of. -/
def ColumnKind.admits : ColumnKind → Json → Bool
  | .flag, .null => true
  | .flag, v => v.same (.bool true) || v.same (.bool false)
  | .moment, .null => true
  | .moment, .str _ => true
  | .moment, _ => false
  | _, _ => true

/-- What a column keeps of a value of its kind. -/
def ColumnKind.store : ColumnKind → Json → Except Fault Json
  | .text, v => Affinity.text.store v
  | .quantity, v => Affinity.number.store v
  | .flag, .null => .ok .null
  | .flag, v => .ok (.bool v.truthy)
  | .moment, v => .ok v
  | .json, .int n => .ok (Affinity.number.kept (.str (decimal n)))
  | .json, .double x =>
    .ok (if x.isFinite then Affinity.number.kept (.str (DoubleLayout.json.text x)) else .double x)
  | .json, v => .ok v

namespace Column

/-- The key that a value names in a table with a single column for its key; a list of one value
names what this value names. -/
def key? (v : Json) : Except Fault (Option String) :=
  let single (v : Json) : Except Fault (Option String) := do
    match ← Affinity.text.store (← Fault.nameOf v) with
    | .str s => return some s
    | _ => return none
  match v with
  | .arr [v] => single v
  | .arr _ => .error .badKey
  | .obj [("id", v)] => single v
  | .obj _ => .error .badKey
  | v => single v

/-! ## Reading stored rows -/

def text? (fields : Json.Fields) (name : String) : Option String :=
  match Json.Fields.get? fields name with
  | some (.str s) => some s
  | _ => none

def quantity? (fields : Json.Fields) (name : String) : Option Quantity :=
  (Json.Fields.get? fields name).bind Quantity.ofJson?

def flag? (fields : Json.Fields) (name : String) : Option Bool :=
  match Json.Fields.get? fields name with
  | some (.bool b) => some b
  | _ => none

/-- Checks the texts among fields that are given for moments of those names. -/
def checkMoments (names : List String) (fields : Json.Fields) : Except Fault Unit :=
  fields.forM fun p =>
    match p.2 with
    | .str s =>
      if names.contains p.1 then
        match Iso.read s with
        | .ok _ => .ok ()
        | .error e => .error (.ofForeign .value e.message)
      else .ok ()
    | _ => .ok ()

def timestamp? (fields : Json.Fields) (name : String) : Option Timestamp :=
  match Json.Fields.get? fields name with
  | some (.str s) => (Iso.read s).toOption
  | _ => none

/-- A stored moment: the wall clock of a timestamp. -/
def moment? (fields : Json.Fields) (name : String) : Option Moment :=
  (timestamp? fields name).map (·.wall)

def value (fields : Json.Fields) (name : String) : Json :=
  (Json.Fields.get? fields name).getD .null

def json (fields : Json.Fields) (name : String) (default : Json) : Json :=
  (Json.Fields.get? fields name).getD default

/-- The items of a list of texts; other items are left out. -/
def texts? (fields : Json.Fields) (name : String) : Option (List String) :=
  match Json.Fields.get? fields name with
  | some (.arr items) => some (items.filterMap fun
    | .str s => some s
    | _ => none)
  | _ => none

def ofMoment (m : Moment) : Json := .str m.iso

def ofMoment? (m : Option Moment) : Json := Json.ofOption ofMoment m

end Column
end TaskRules
