/-!
Binary64 numbers as exact values. Every finite double is a whole number of steps of 2⁻¹⁰⁷⁴, so a
number is a sign and a count of steps, comparison is comparison of integers, and an operation is
the exact result followed by one rounding (`roundSteps`): to 53 significant bits, a half going to
the even neighbour.
-/

namespace TaskRules

/-- A binary64 number; a finite one is `steps · 2⁻¹⁰⁷⁴`, and zero keeps its sign. -/
inductive Double where
  | nan
  | infinite (negative : Bool)
  | finite (negative : Bool) (steps : Nat)
  deriving DecidableEq

namespace Double

/-- How many steps make one. -/
def one : Nat := Nat.pow 2 1074

/-- The first count of steps that is too large for a finite number. -/
def limit : Nat := Nat.pow 2 2098

/-- `num / den` to the nearest whole number, a half going to the even one. -/
def nearest (num den : Nat) : Nat :=
  let q := num / den
  let r := 2 * (num % den)
  if r < den then q
  else if den < r then q + 1
  else if q % 2 = 0 then q else q + 1

/-- The representable count of steps nearest to `num / den`: 53 bits are kept. -/
def roundSteps (num den : Nat) : Nat :=
  let whole := num / den
  if whole < Nat.pow 2 53 then nearest num den
  else
    let unit := Nat.pow 2 (whole.log2 - 52)
    nearest num (den * unit) * unit

/-- The double nearest to `num / den` steps; past the largest one it is infinite. -/
def ofSteps (negative : Bool) (num den : Nat) : Double :=
  let steps := roundSteps num den
  if steps < limit then .finite negative steps else .infinite negative

/-- The double nearest to `digits · 10 ^ exponent`. Exponents far outside the range are settled
by the count of digits, before any power is taken. -/
def ofDecimal (negative : Bool) (digits : Nat) (exponent : Int) : Double :=
  if digits = 0 then .finite negative 0
  else
    let magnitude : Int := (Nat.toDigits 10 digits).length + exponent
    if magnitude > 310 then .infinite negative
    else if magnitude < -330 then .finite negative 0
    else if exponent ≥ 0 then ofSteps negative (digits * Nat.pow 10 exponent.toNat * one) 1
    else ofSteps negative (digits * one) (Nat.pow 10 (-exponent).toNat)

def ofInt (n : Int) : Double :=
  ofSteps (decide (n < 0)) (n.natAbs * one) 1

/-- The signed count of steps of a finite number. -/
def steps? : Double → Option Int
  | .finite true n => some (-(n : Int))
  | .finite false n => some n
  | _ => none

def isNaN : Double → Bool
  | .nan => true
  | _ => false

def isFinite : Double → Bool
  | .finite .. => true
  | _ => false

def isZero : Double → Bool
  | .finite _ 0 => true
  | _ => false

def isNegative : Double → Bool
  | .nan => false
  | .infinite s => s
  | .finite s _ => s

/-- A rank that orders all numbers but `nan`: infinities lie outside every finite count. -/
def rank : Double → Int
  | .nan => 0
  | .infinite true => -(limit : Int)
  | .infinite false => limit
  | .finite true n => -(n : Int)
  | .finite false n => n

/-- `nan` is below nothing and above nothing. -/
def lt (x y : Double) : Bool := !x.isNaN && !y.isNaN && decide (x.rank < y.rank)

def le (x y : Double) : Bool := !x.isNaN && !y.isNaN && decide (x.rank ≤ y.rank)

/-- Equality of values: the zeros agree and `nan` differs from itself. -/
def eq (x y : Double) : Bool := !x.isNaN && !y.isNaN && decide (x.rank = y.rank)

/-- Whether the number is exactly this integer. -/
def eqInt (x : Double) (n : Int) : Bool :=
  x.steps? == some (n * one)

def neg : Double → Double
  | .nan => .nan
  | .infinite s => .infinite (!s)
  | .finite s n => .finite (!s) n

/-- The double nearest to a signed number of steps `num / den`; `zero` gives the sign of a zero. -/
def ofSigned (num : Int) (den : Nat) (zero : Bool) : Double :=
  ofSteps (if num = 0 then zero else decide (num < 0)) num.natAbs den

def add : Double → Double → Double
  | .nan, _ => .nan
  | _, .nan => .nan
  | .infinite s, .infinite t => if s = t then .infinite s else .nan
  | .infinite s, _ => .infinite s
  | _, .infinite t => .infinite t
  | x@(.finite s _), y@(.finite t _) => ofSigned (x.rank + y.rank) 1 (s && t)

def sub (x y : Double) : Double := x.add y.neg

def mul : Double → Double → Double
  | .nan, _ => .nan
  | _, .nan => .nan
  | .infinite s, y => if y.isZero then .nan else .infinite (s != y.isNegative)
  | x, .infinite t => if x.isZero then .nan else .infinite (x.isNegative != t)
  | x@(.finite s _), y@(.finite t _) => ofSigned (x.rank * y.rank) one (s != t)

def div : Double → Double → Double
  | .nan, _ => .nan
  | _, .nan => .nan
  | .infinite _, .infinite _ => .nan
  | .infinite s, y => .infinite (s != y.isNegative)
  | x, .infinite t => .finite (x.isNegative != t) 0
  | .finite s m, .finite t n =>
    if n = 0 then if m = 0 then .nan else .infinite (s != t)
    else ofSteps (s != t) (m * one) n

/-- The value as an integer, when it is one. -/
def toInt? (x : Double) : Option Int :=
  match x.steps? with
  | some n => if n % one = 0 then some (n / one) else none
  | none => none

/-- The integer nearest to a finite number, a half going to the even one. -/
def roundInt? : Double → Option Int
  | .finite true n => some (-(nearest n one : Int))
  | .finite false n => some (nearest n one)
  | _ => none

end Double
end TaskRules
