import TaskRules.Condition.Path
import TaskRules.Condition.Tree

/-!
Evaluating a condition tree on a payload. A comparison with a field that is missing fails, except
that a missing field is empty; flags equal flags only, texts texts only, and order compares numbers
and numeric texts as doubles. Evaluation stops at the first child that decides a group.
-/

namespace TaskRules.Condition

/-- Equality of a field and an expected value: a flag equals only a flag and a text only a text;
below the top, flags in lists and objects count as 0 and 1. -/
def strictlyEqual (actual expected : Json) : Bool :=
  match actual, expected with
  | .bool a, .bool b => a == b
  | .bool _, _ => false
  | _, .bool _ => false
  | .str s, .str t => s == t
  | .str _, _ => false
  | _, .str _ => false
  | a, b => a.same b

/-- The double that a value stands for in an order comparison: a number or a numeric text. -/
def asNumber (v : Json) : Option Double :=
  let number :=
    match v with
    | .int n => match Double.ofInt n with
      | .infinite _ => none
      | x => some x
    | .double x => some x
    | .str s => Numeral.real? (Text.trim s.toList)
    | _ => none
  number.filter fun x => !x.isNaN

/-- Whether a present value is empty. -/
def isEmptyValue : Json → Bool
  | .null => true
  | .str s => Text.blank s
  | .arr items => items.isEmpty
  | .obj fields => fields.isEmpty
  | _ => false

/-- The list that membership looks in. -/
def Leaf.members (l : Leaf) : Option (List Json) :=
  match l.candidates with
  | some items => some items
  | none =>
    match l.value with
    | .arr items => some items
    | _ => none

def comparesAs (compare : Double → Double → Bool) (actual expected : Json) : Bool :=
  match asNumber actual, asNumber expected with
  | some x, some y => compare x y
  | _, _ => false

/-- A comparison with a present value. -/
def holdsFor (l : Leaf) (actual : Json) : Bool :=
  match l.operator with
  | .equals => strictlyEqual actual l.value
  | .notEquals => !strictlyEqual actual l.value
  | .isIn =>
    match l.members with
    | some items => items.any (strictlyEqual actual)
    | none => false
  | .notIn =>
    match l.members with
    | some items => !items.any (strictlyEqual actual)
    | none => false
  | .contains =>
    match actual, l.value with
    | .str s, .str part => Text.contains part.toList s.toList
    | .str _, _ => false
    | .arr items, value => items.any (strictlyEqual · value)
    | _, _ => false
  | .startsWith =>
    match actual, l.value with
    | .str s, .str part => part.toList.isPrefixOf s.toList
    | _, _ => false
  | .endsWith =>
    match actual, l.value with
    | .str s, .str part => part.toList.isSuffixOf s.toList
    | _, _ => false
  | .greater => comparesAs (fun x y => y.lt x) actual l.value
  | .atLeast => comparesAs (fun x y => y.le x) actual l.value
  | .less => comparesAs Double.lt actual l.value
  | .atMost => comparesAs Double.le actual l.value
  | .isEmpty => isEmptyValue actual
  | .isNotEmpty => !isEmptyValue actual

/-- A comparison with what a path led to. -/
def holds (l : Leaf) : Option Json → Bool
  | some actual => holdsFor l actual
  | none => l.operator == .isEmpty

mutual
def evaluate (payload : Json) : Tree → Except NumeralFault Bool
  | .leaf l =>
    match resolve payload l.field with
    | .ok actual => .ok (holds l actual)
    | .error fault => .error fault
  | .all children => evaluateAll payload children
  | .any children => evaluateAny payload children

/-- Up to the first child that does not hold. -/
def evaluateAll (payload : Json) : List Tree → Except NumeralFault Bool
  | [] => .ok true
  | t :: rest =>
    match evaluate payload t with
    | .ok true => evaluateAll payload rest
    | .ok false => .ok false
    | .error fault => .error fault

/-- Up to the first child that holds. -/
def evaluateAny (payload : Json) : List Tree → Except NumeralFault Bool
  | [] => .ok false
  | t :: rest =>
    match evaluate payload t with
    | .ok true => .ok true
    | .ok false => evaluateAny payload rest
    | .error fault => .error fault
end

end TaskRules.Condition
