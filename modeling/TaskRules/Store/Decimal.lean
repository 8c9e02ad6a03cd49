import TaskRules.Number.Extended
import TaskRules.Number.Numeral

/-!
Decimals in columns. What a text writes is gathered into a whole number of 63 bits and a power of
ten, and the two are put together with 64 significant bits before the result becomes a double; so it
is not always the double nearest to the text. A double is written with fifteen digits, which are
taken off one by one from a number of 64 bits.
-/

namespace TaskRules.Decimal

/-! ## Reading -/

/-- The whole number `digits · 10 ^ power`, or a part of it. -/
structure Gathered where
  digits : Nat := 0
  power : Int := 0

/-- From here on no digit is added. -/
def full : Nat := 922337203685477579

/-- Adds a digit before the point. One that does not fit counts as a zero. -/
def Gathered.addWhole (g : Gathered) (digit : Nat) : Gathered :=
  if g.digits < full then { g with digits := 10 * g.digits + digit }
  else { g with power := g.power + 1 }

/-- Adds a digit after the point. One that does not fit is left out. -/
def Gathered.addPlace (g : Gathered) (digit : Nat) : Gathered :=
  if g.digits < full then ⟨10 * g.digits + digit, g.power - 1⟩ else g

/-- Takes powers of ten into the digits while they fit, and zeros at the end of the digits into a
negative power. -/
def Gathered.balanced : Nat → Gathered → Gathered
  | 0, g => g
  | fuel + 1, g =>
    if 0 < g.power then
      if g.digits ≤ full then balanced fuel ⟨10 * g.digits, g.power - 1⟩ else g
    else if g.power < 0 then
      if g.digits % 10 = 0 then balanced fuel ⟨g.digits / 10, g.power + 1⟩ else g
    else g

/-- The power of ten that a double can hold beside a digit. -/
def largestPower : Nat := 308

/-- What is farther from one than this is zero or infinite. -/
def farPower : Nat := 342

/-- The double that the digits and the power of ten make. -/
def Gathered.toDouble (negative : Bool) (g : Gathered) : Double :=
  if g.digits = 0 then .finite negative 0
  else
    let g := g.balanced 20
    let n := Extended.ofNat g.digits
    let distance := g.power.natAbs
    let beyond := distance - largestPower
    let last := Double.ofDecimal false 1 largestPower
    if g.power = 0 then n.toDouble negative
    else if distance < largestPower then
      (if 0 < g.power then n.mul (.tenTo distance) else n.div (.tenTo distance)).toDouble negative
    else if distance < farPower then
      if 0 < g.power then ((n.mul (.tenTo beyond)).toDouble negative).mul last
      else ((n.div (.tenTo beyond)).toDouble negative).div last
    else if 0 < g.power then .infinite negative
    else .finite negative 0

/-- The largest exponent that is told apart from larger ones. -/
def exponentCap : Nat := 10000

/-- The exponent that digits write. -/
def exponentOf (digits : List Nat) : Nat :=
  digits.foldl (fun e d => if e < exponentCap then 10 * e + d else exponentCap) 0

/-- The values of the ASCII digits at the start, and the rest. -/
def asciiDigits (cs : List Char) : List Nat × List Char :=
  ((cs.takeWhile Char.isDigit).map fun c => c.toNat - 48, cs.dropWhile Char.isDigit)

/-- What follows the digits of a number: nothing, or an exponent. -/
def exponent? : List Char → Option Int
  | [] => some 0
  | c :: rest =>
    let (negative, body) := Numeral.sign rest
    let (digits, tail) := asciiDigits body
    if (c = 'e' ∨ c = 'E') ∧ !digits.isEmpty ∧ tail.isEmpty then
      let e : Int := exponentOf digits
      some (if negative then -e else e)
    else none

/-- The double that a text writes in full. -/
def read? (cs : List Char) : Option Double :=
  let (negative, body) := Numeral.sign cs
  let (whole, rest) := asciiDigits body
  let (places, rest) :=
    match rest with
    | '.' :: rest => asciiDigits rest
    | _ => ([], rest)
  if whole.isEmpty && places.isEmpty then none
  else
    (exponent? rest).map fun e =>
      let g := places.foldl Gathered.addPlace (whole.foldl Gathered.addWhole {})
      { g with power := g.power + e }.toDouble negative

/-! ## Writing -/

/-- Multiplies a scale by a unit while the number reaches the product. Gives how often, too. -/
def scaleUp (x unit : Extended) : Nat → Extended × Nat → Extended × Nat
  | 0, p => p
  | fuel + 1, (scale, count) =>
    if (unit.mul scale).le x then scaleUp x unit fuel (scale.mul unit, count + 1)
    else (scale, count)

/-- Multiplies a number by a unit while it is below a bound. Gives how often, too. -/
def growTo (bound unit : Extended) : Nat → Extended × Nat → Extended × Nat
  | 0, p => p
  | fuel + 1, (x, count) =>
    if bound.le x then (x, count) else growTo bound unit fuel (x.mul unit, count + 1)

/-- A positive number as one from 1 to 10 and a power of ten. -/
def normalized (x : Extended) : Extended × Int :=
  let hundred := Extended.ofDouble (.ofDecimal false 1 100)
  let (scale, a) := scaleUp x hundred 4 (.ofNat 1, 0)
  let (scale, b) := scaleUp x (.ofNat 10000000000) 12 (scale, 0)
  let (scale, c) := scaleUp x (.ofNat 10) 12 (scale, 0)
  let least := Extended.ofDouble (.ofDecimal false 1 (-8))
  let (x, d) := growTo least (.ofNat 100000000) 45 (x.div scale, 0)
  let (x, e) := growTo (.ofNat 1) (.ofNat 10) 12 (x, 0)
  (x, 100 * a + 10 * b + c - 8 * d - e)

/-- Half of the last of fifteen digits. -/
def rounder : Extended :=
  .ofDouble ((Double.ofDecimal false 5 (-5)).mul (.ofDecimal false 1 (-10)))

/-- The first digits of a number below ten. -/
def digits : Nat → Extended → List Char
  | 0, _ => []
  | count + 1, x =>
    let digit := x.floor
    Char.ofNat (48 + digit) :: digits count ((x.sub (.ofNat digit)).mul (.ofNat 10))

/-- The number of digits that are written. -/
def places : Nat := 15

/-- The decimal of a positive count of steps. -/
def scientific (steps : Nat) : Double.Scientific :=
  let (x, power) := normalized (.ofSteps steps)
  let x := x.add rounder
  let (x, power) :=
    if (Extended.ofNat 10).le x then (x.mul (.ofDouble (.ofDecimal false 1 (-1))), power + 1)
    else (x, power)
  ⟨((digits places x).reverse.dropWhile (· == '0')).reverse, power⟩

/-- The text of a number in a column. -/
def text : Double → String
  | .nan => ""
  | .infinite negative => if negative then "-Inf" else "Inf"
  | .finite _ 0 => "0.0"
  | .finite negative steps =>
    let body := DoubleLayout.column.scientificText (scientific steps)
    String.ofList (if negative then '-' :: body else body)

end TaskRules.Decimal
