import TaskRules.Number.Double

/-!
Binary numbers with 64 significant bits. They have no sign, and their exponents no bounds. An
operation is the exact result followed by one rounding, a half going to the even neighbour.
-/

namespace TaskRules

/-- The number `significand · 2 ^ exponent`. -/
structure Extended where
  significand : Nat
  exponent : Int

namespace Extended

/-- The bits that are kept of a significand. -/
def bits : Nat := 64

/-- The number nearest to `num / den · 2 ^ exponent`. -/
def round (num den : Nat) (exponent : Int) : Extended :=
  if num = 0 then ⟨0, 0⟩
  else
    -- the quotient gets more bits than are kept
    let up := bits + 2 + den.log2 - num.log2
    let num := num * Nat.pow 2 up
    let down := (num / den).log2 - (bits - 1)
    ⟨Double.nearest num (den * Nat.pow 2 down), exponent - up + down⟩

def ofNat (n : Nat) : Extended := round n 1 0

/-- A count of steps of a double, which has fewer bits than are kept. -/
def ofSteps (steps : Nat) : Extended := ⟨steps, -1074⟩

/-- The size of a finite double. -/
def ofDouble : Double → Extended
  | .finite _ steps => ofSteps steps
  | _ => ⟨0, 0⟩

/-- The significand at a lower exponent. -/
def lowered (x : Extended) (exponent : Int) : Nat :=
  x.significand * Nat.pow 2 (x.exponent - exponent).toNat

def le (x y : Extended) : Bool :=
  let e := min x.exponent y.exponent
  decide (x.lowered e ≤ y.lowered e)

def add (x y : Extended) : Extended :=
  let e := min x.exponent y.exponent
  round (x.lowered e + y.lowered e) 1 e

/-- The difference to a number that is not larger. -/
def sub (x y : Extended) : Extended :=
  let e := min x.exponent y.exponent
  round (x.lowered e - y.lowered e) 1 e

def mul (x y : Extended) : Extended :=
  round (x.significand * y.significand) 1 (x.exponent + y.exponent)

def div (x y : Extended) : Extended :=
  round x.significand y.significand (x.exponent - y.exponent)

/-- The number without its fraction. -/
def floor (x : Extended) : Nat :=
  if x.exponent ≥ 0 then x.lowered 0 else x.significand / Nat.pow 2 (-x.exponent).toNat

/-- The double nearest to the number. -/
def toDouble (negative : Bool) (x : Extended) : Double :=
  let e := x.exponent + 1074
  if e ≥ 0 then .ofSteps negative (x.significand * Nat.pow 2 e.toNat) 1
  else .ofSteps negative x.significand (Nat.pow 2 (-e).toNat)

/-- `result · base ^ power` by repeated squaring of the base. -/
def timesPower (result base : Extended) (power : Nat) : Extended :=
  let result := if power % 2 = 1 then result.mul base else result
  if power / 2 = 0 then result else timesPower result (base.mul base) (power / 2)
  termination_by power
  decreasing_by omega

/-- A power of ten, rounded at each step towards it. -/
def tenTo (power : Nat) : Extended := timesPower (ofNat 1) (ofNat 10) power

end Extended
end TaskRules
