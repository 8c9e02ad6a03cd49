import TaskRules.Number.Double

/-!
The shortest decimal that reads back as a double. The reals that round to a double form an interval,
its ends included when the significand is even; for 1, 2, … 17 digits the two points of that decimal
grid next to the value are tried, the first grid with a point inside wins, and of two points the
nearer.
-/

namespace TaskRules.Double

/-- A positive decimal `0.d₁d₂… · 10 ^ (exponent + 1)`, that is `d₁.d₂… · 10 ^ exponent`. -/
structure Scientific where
  digits : List Char
  exponent : Int

/-- The rounding interval of `steps`, in quarter steps, and whether its ends belong to it. -/
def interval (steps : Nat) : Nat × Nat × Bool :=
  let unit := if steps < Nat.pow 2 53 then 1 else Nat.pow 2 (steps.log2 - 52)
  let below := if unit > 1 ∧ steps = unit * Nat.pow 2 52 then unit else 2 * unit
  (4 * steps - below, 4 * steps + 2 * unit, steps / unit % 2 == 0)

/-- `10 ^ e ≤ steps / one`. -/
def reaches (steps : Nat) (e : Int) : Bool :=
  if e ≥ 0 then decide (Nat.pow 10 e.toNat * one ≤ steps)
  else decide (one ≤ steps * Nat.pow 10 (-e).toNat)

/-- The power of ten of the leading digit. The binary length gives it up to one. -/
def leadingPower (steps : Nat) : Int :=
  let guess : Int := ((steps.log2 : Int) - 1074) * 30103 / 100000
  if reaches steps (guess + 1) then guess + 1
  else if reaches steps guess then guess
  else guess - 1

/-- The point of the grid of `count` digits inside the interval that is nearest to the value, as
a multiple of the grid's spacing. -/
def gridPoint? (steps : Nat) (power : Int) (count : Nat) : Option Nat :=
  let spacing : Int := power - (count : Int) + 1
  let up := if spacing ≥ 0 then Nat.pow 10 spacing.toNat * one else one
  let down := if spacing ≥ 0 then 1 else Nat.pow 10 (-spacing).toNat
  -- a grid point `c` has the value `c * up` where the double has `steps * down`
  let value := steps * down
  let (low, high, closed) := interval steps
  let inside (c : Nat) : Bool :=
    let v := 4 * (c * up)
    if closed then decide (low * down ≤ v) && decide (v ≤ high * down)
    else decide (low * down < v) && decide (v < high * down)
  let c := value / up
  let lowIn := inside c && c != 0
  let highIn := inside (c + 1)
  if lowIn && highIn then
    let gap := value - c * up
    let rest := (c + 1) * up - value
    if gap < rest then some c
    else if rest < gap then some (c + 1)
    else if c % 2 = 0 then some c else some (c + 1)
  else if lowIn then some c
  else if highIn then some (c + 1)
  else none

/-- Tries `fuel` grids, starting with `count` digits. -/
def firstGrid (steps : Nat) (power : Int) : Nat → Nat → Nat × Nat
  | 0, count => (steps, count)
  | fuel + 1, count =>
    match gridPoint? steps power count with
    | some c => (c, count)
    | none => firstGrid steps power fuel (count + 1)

/-- The decimal of a point `c` of the grid of `count` digits, without zeros at its end. -/
def Scientific.ofGrid (power : Int) (count c : Nat) : Scientific :=
  let digits := Nat.toDigits 10 c
  -- rounding up to the next power of ten adds a digit
  let power := power + ((digits.length : Int) - count)
  ⟨(digits.reverse.dropWhile (· == '0')).reverse, power⟩

/-- The shortest decimal of a positive finite double. -/
def shortest (steps : Nat) : Scientific :=
  let power := leadingPower steps
  let (c, count) := firstGrid steps power 17 1
  .ofGrid power count c

end TaskRules.Double
