import TaskRules.Json.Arithmetic

/-!
Readings of a clock in seconds, and the whole milliseconds between two of them.
-/

namespace TaskRules.Engine

/-- A clock's reading: a number of seconds, exact when it is whole. -/
abbrev Reading := Json.Numeric

namespace Reading

/-- A double rounded to an integer. -/
def rounded (x : Double) : Except Fault Int :=
  match x.roundInt? with
  | some n => .ok n
  | none =>
    if x.isNaN then .error (.ofForeign .value "cannot convert float NaN to integer")
    else .error (.ofForeign .overflow "cannot convert float infinity to integer")

/-- The milliseconds from one reading to another, rounded, and 0 when the clock went back. -/
def elapsedMs (started now : Reading) : Except Fault Int := do
  match ← (← now.sub started).mul (.int 1000) with
  | .int n => return max 0 n
  | .double x => return max 0 (← rounded x)

end Reading
end TaskRules.Engine
