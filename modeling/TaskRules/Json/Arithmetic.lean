import TaskRules.Fault

/-!
Arithmetic of JSON numbers, in which flags count as 0 and 1. Whole numbers are exact; where a double
takes part, the other number is taken as the double nearest to it.
-/

namespace TaskRules

/-- Two values that cannot be put in order. -/
def Fault.unordered (sign : String) (a b : Json) : Fault :=
  .ofForeign .type ("'" ++ sign ++ "' not supported between instances of '" ++ a.typeName ++
    "' and '" ++ b.typeName ++ "'")

namespace Json

namespace Numeric

def toJson : Numeric → Json
  | .int n => .int n
  | .double x => .double x

def toDouble : Numeric → Except Fault Double
  | .double x => .ok x
  | .int n =>
    match Double.ofInt n with
    | .infinite _ => .error (.ofForeign .overflow "int too large to convert to float")
    | x => .ok x

def sub : Numeric → Numeric → Except Fault Numeric
  | .int m, .int n => .ok (.int (m - n))
  | m, n => do return .double ((← m.toDouble).sub (← n.toDouble))

def mul : Numeric → Numeric → Except Fault Numeric
  | .int m, .int n => .ok (.int (m * n))
  | m, n => do return .double ((← m.toDouble).mul (← n.toDouble))

end Numeric

/-- The first of two values, unless the second is larger. -/
def larger (a b : Json) : Except Fault Json :=
  match a.numeric?, b.numeric? with
  | some m, some n => .ok (if m.lt n then b else a)
  | _, _ => .error (.unordered ">" b a)

/-- The first of two values, unless the second is smaller. -/
def smaller (a b : Json) : Except Fault Json :=
  match a.numeric?, b.numeric? with
  | some m, some n => .ok (if n.lt m then b else a)
  | _, _ => .error (.unordered "<" b a)

end Json
end TaskRules
