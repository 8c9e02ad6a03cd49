import TaskRules.Fault
import TaskRules.Number.Word
import TaskRules.Store.Decimal

/-!
What columns keep of the values that are handed to them. A statement hands over null, texts,
integers of 64 bits and doubles; a flag goes as 1 or 0, and lists and objects cannot be handed over.
A column of text turns numbers into text. A column of numbers turns a text that writes a number in
full into that number, and a double without a fraction into an integer; it keeps any other text.
-/

namespace TaskRules

/-- What a column makes of values of other types. -/
inductive Affinity where
  | text
  | number
  deriving DecidableEq

namespace Affinity

/-- A double in a column of numbers: an integer where it is one strictly inside 64 bits. -/
def keptDouble (x : Double) : Json :=
  match x.toInt? with
  | some n =>
    if decide (Word.smallest < n) && decide (n < Word.largest) then .int n else .double x
  | none => if x.isNaN then .null else .double x

/-- The blanks that may stand around a number in a text. -/
def isSpace (c : Char) : Bool := c = ' ' || (decide (0x09 ≤ c.toNat) && decide (c.toNat ≤ 0x0D))

/-- A numeral of plain digits, perhaps signed. -/
def isWhole (cs : List Char) : Bool :=
  let digits := (Numeral.sign cs).2
  !digits.isEmpty && digits.all Char.isDigit

/-- The number that a text writes in full: plain digits with a sign, a point or an exponent. -/
def numberIn? (s : String) : Option Json :=
  let cs := ((s.toList.dropWhile isSpace).reverse.dropWhile isSpace).reverse
  if isWhole cs then
    let (negative, digits) := Numeral.sign cs
    let n := Numeral.natOf (digits.filterMap Text.decimalValue?)
    let signed : Int := if negative then -n else n
    if Word.fits signed then some (.int signed) else (Decimal.read? cs).map keptDouble
  else (Decimal.read? cs).map keptDouble

/-- What a column keeps of a value that can be handed over. -/
def kept : Affinity → Json → Json
  | .text, .bool b => .str (if b then "1" else "0")
  | .text, .int n => .str (decimal n)
  | .text, .double x => if x.isNaN then .null else .str (Decimal.text x)
  | .number, .bool b => .int (if b then 1 else 0)
  | .number, .double x => keptDouble x
  | .number, .str s => (numberIn? s).getD (.str s)
  | _, v => v

end Affinity

/-- The error of an integer beyond 64 bits. -/
def Fault.notStorable : Fault :=
  .ofForeign .overflow "Python int too large to convert to SQLite INTEGER"

/-- A value that a statement can hand to the database. -/
def handedOver (v : Json) : Except Fault Json :=
  match v with
  | .str s => if Text.isWhole s.toList then .ok v else .error (.notEncodable s.toList)
  | .int n => if Word.fits n then .ok v else .error .notStorable
  | .arr _ => .error .unbindable
  | .obj _ => .error .unbindable
  | v => .ok v

/-- What a column keeps of a value. -/
def Affinity.store (a : Affinity) (v : Json) : Except Fault Json := (handedOver v).map a.kept

end TaskRules
