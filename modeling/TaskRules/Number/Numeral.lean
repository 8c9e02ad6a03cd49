import TaskRules.Number.Double
import TaskRules.Number.Written
import TaskRules.Text.Digit
import TaskRules.Text.Quoted

/-!
Reading numbers from text. Decimal digits of every script count, single underscores may stand
between digits, blanks around the numeral are ignored; integers are read up to `longestNumeral`
digits.
-/

namespace TaskRules

/-- Why a text is not an integer. -/
inductive NumeralFault where
  | malformed (text : String)
  | tooManyDigits (count : Nat)
  deriving DecidableEq

/-- The longest integer numeral that is read, in digits. -/
def longestNumeral : Nat := 4300

/-- The longest quotation of a malformed numeral in a message. -/
def longestQuotation : Nat := 200

def NumeralFault.message : NumeralFault → String
  | .malformed text =>
    "invalid literal for int() with base 10: " ++
      String.ofList ((Text.quoted text.toList).take longestQuotation)
  | .tooManyDigits count =>
    "Exceeds the limit (" ++ decimal longestNumeral ++
      " digits) for integer string conversion: value has " ++ decimal count ++
      " digits; use sys.set_int_max_str_digits() to increase the limit"

namespace Numeral

/-- Blanks that may surround a numeral: all but the four separators U+001C to U+001F. -/
def isPadding (c : Char) : Bool :=
  Text.isBlank c && !(decide (0x1C ≤ c.toNat) && decide (c.toNat ≤ 0x1F))

def unpad (cs : List Char) : List Char :=
  ((cs.dropWhile isPadding).reverse.dropWhile isPadding).reverse

/-- A sign, if one stands first, and the rest. -/
def sign (cs : List Char) : Bool × List Char :=
  match cs with
  | '-' :: rest => (true, rest)
  | '+' :: rest => (false, rest)
  | _ => (false, cs)

/-- The values of the digits that follow a digit, a single underscore before any of them passed
over, and the rest. -/
def moreDigits : List Char → List Nat × List Char
  | [] => ([], [])
  | '_' :: c :: rest =>
    match Text.decimalValue? c with
    | some d =>
      let more := moreDigits rest
      (d :: more.1, more.2)
    | none => ([], '_' :: c :: rest)
  | c :: rest =>
    match Text.decimalValue? c with
    | some d =>
      let more := moreDigits rest
      (d :: more.1, more.2)
    | none => ([], c :: rest)

/-- The values of the digits at the start, and the rest. -/
def digits (cs : List Char) : List Nat × List Char :=
  match cs with
  | '_' :: _ => ([], cs)
  | _ => moreDigits cs

def natOf (ds : List Nat) : Nat := ds.foldl (fun n d => 10 * n + d) 0

/-- The integer that a text writes. Too many digits are noticed before what follows them, unless
that is an underscore. -/
def integer (text : List Char) : Except NumeralFault Int :=
  let (negative, body) := sign (unpad text)
  let (ds, tail) := digits body
  if ds.length > longestNumeral && tail.head? != some '_' then .error (.tooManyDigits ds.length)
  else if ds.isEmpty || !tail.isEmpty then .error (.malformed (String.ofList text))
  else .ok (if negative then -(natOf ds : Int) else natOf ds)

/-- Words for numbers that have no digits, in lower case. -/
def special? (cs : List Char) : Option (Bool → Double) :=
  match String.ofList (cs.map Char.toLower) with
  | "inf" => some .infinite
  | "infinity" => some .infinite
  | "nan" => some fun _ => .nan
  | _ => none

/-- The digits after a point. -/
def places (cs : List Char) : List Nat × List Char :=
  match cs with
  | '.' :: rest => digits rest
  | _ => ([], cs)

/-- An exponent of ten, if one follows; `none` when its digits are missing. -/
def exponent (cs : List Char) : Option (Int × List Char) :=
  match cs with
  | [] => some (0, [])
  | c :: rest =>
    if c = 'e' ∨ c = 'E' then
      let (negative, body) := sign rest
      let (ds, tail) := digits body
      if ds.isEmpty then none
      else some (if negative then -(natOf ds : Int) else natOf ds, tail)
    else some (0, cs)

/-- The double that a text writes, rounded to nearest. -/
def real? (text : List Char) : Option Double :=
  let (negative, body) := sign (unpad text)
  match special? body with
  | some word => some (word negative)
  | none =>
    let (whole, rest) := digits body
    let (fraction, rest) := places rest
    if whole.isEmpty && fraction.isEmpty then none
    else
      match exponent rest with
      | some (e, []) =>
        some (.ofDecimal negative (natOf (whole ++ fraction)) (e - fraction.length))
      | _ => none

end Numeral
end TaskRules
