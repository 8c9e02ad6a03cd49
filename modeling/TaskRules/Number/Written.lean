import TaskRules.Number.Shortest

/-!
How numbers are written: integers in plain decimal, doubles positionally for small exponents and
otherwise with a signed exponent of at least two digits. Messages and JSON text take the shortest
digits.
-/

namespace TaskRules

/-- Choices of a layout for doubles. -/
structure DoubleLayout where
  leastPositional : Int
  mostPositional : Int
  exponentWidth : Nat
  nan : String
  infinity : String
  /-- Whether a single digit before an exponent is followed by a point and a zero. -/
  alwaysPointed : Bool := false

namespace DoubleLayout

/-- The layout of messages. -/
def plain : DoubleLayout :=
  { leastPositional := -4
    mostPositional := 15
    exponentWidth := 2
    nan := "nan"
    infinity := "inf" }

/-- The layout of JSON text, which spells out the values that JSON itself lacks. -/
def json : DoubleLayout := { plain with nan := "NaN", infinity := "Infinity" }

/-- The layout of columns of text, which have a point always. -/
def column : DoubleLayout := { plain with mostPositional := 14, alwaysPointed := true }

def exponentText (layout : DoubleLayout) (e : Int) : List Char :=
  let digits := Nat.toDigits 10 e.natAbs
  let padded := List.replicate (layout.exponentWidth - digits.length) '0' ++ digits
  'e' :: (if e < 0 then '-' else '+') :: padded

/-- The text of a positive decimal. -/
def scientificText (layout : DoubleLayout) (d : Double.Scientific) : List Char :=
  let e := d.exponent
  if layout.leastPositional ≤ e ∧ e ≤ layout.mostPositional then
    if e < 0 then
      '0' :: '.' :: (List.replicate ((-e).toNat - 1) '0' ++ d.digits)
    else
      let point := e.toNat + 1
      let whole := d.digits.take point
      let fraction := d.digits.drop point
      whole ++ List.replicate (point - whole.length) '0' ++
        '.' :: (if fraction.isEmpty then ['0'] else fraction)
  else
    match d.digits with
    | [] => []
    | [c] => c :: ((if layout.alwaysPointed then ['.', '0'] else []) ++ layout.exponentText e)
    | c :: rest => c :: '.' :: (rest ++ layout.exponentText e)

def text (layout : DoubleLayout) : Double → String
  | .nan => layout.nan
  | .infinite s => if s then "-" ++ layout.infinity else layout.infinity
  | .finite s 0 => if s then "-0.0" else "0.0"
  | .finite s n =>
    let body := layout.scientificText (Double.shortest n)
    String.ofList (if s then '-' :: body else body)

end DoubleLayout

/-- An integer in decimal, with a minus sign when negative. -/
def decimal (n : Int) : String :=
  String.ofList ((if n < 0 then ['-'] else []) ++ Nat.toDigits 10 n.natAbs)

end TaskRules
