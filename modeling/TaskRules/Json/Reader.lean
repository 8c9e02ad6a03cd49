import TaskRules.Json.Basic
import TaskRules.Text.Hex

/-!
Reading JSON text. Besides standard JSON the words `NaN`, `Infinity` and `-Infinity` are numbers.
A number with a fraction or an exponent is a double, any other an exact integer of at most
`maxDigits` digits. A fault in the text is reported with the number of characters left at it.
-/

namespace TaskRules.Json

inductive ReadFault where
  /-- The text is not JSON; so many characters are left from the fault on. -/
  | malformed (left : Nat)
  /-- An integer has too many digits. -/
  | tooManyDigits (count : Nat)
  deriving DecidableEq

/-- The longest integer that is read, in digits. -/
def maxDigits : Nat := 4300

def isSpace (c : Char) : Bool := c = ' ' || c = '\t' || c = '\n' || c = '\r'

def skipSpace (cs : List Char) : List Char := cs.dropWhile isSpace

def isAsciiDigit (c : Char) : Bool := decide ('0' ≤ c) && decide (c ≤ '9')

/-- The number that ASCII digits write. -/
def natOf (digits : List Char) : Nat :=
  digits.foldl (fun n c => 10 * n + (c.toNat - 48)) 0

/-- The unit of four hexadecimal digits. -/
def unitOf? (a b c d : Char) : Option Nat := do
  let a ← Text.hexValue? a
  let b ← Text.hexValue? b
  let c ← Text.hexValue? c
  let d ← Text.hexValue? d
  return ((a * 16 + b) * 16 + c) * 16 + d

def shortEscape? (c : Char) : Option Char :=
  match c with
  | '"' => some '"'
  | '\\' => some '\\'
  | '/' => some '/'
  | 'b' => some '\x08'
  | 'f' => some '\x0c'
  | 'n' => some '\n'
  | 'r' => some '\r'
  | 't' => some '\t'
  | _ => none

/-- The units of a string, up to and without its closing quote: those of escapes and, in between,
the characters of the text. `start` is what was left at the opening quote. -/
def stringUnits (start : Nat) : List Char → List Nat → Except ReadFault (List Nat × List Char)
  | [], _ => .error (.malformed start)
  | '"' :: rest, acc => .ok (acc.reverse, rest)
  | '\\' :: 'u' :: a :: b :: c :: d :: rest, acc =>
    match unitOf? a b c d with
    | some n =>
      if rest.isEmpty then .error (.malformed (rest.length + 5))
      else stringUnits start rest (n :: acc)
    | none => .error (.malformed (rest.length + 5))
  | '\\' :: 'u' :: rest, _ => .error (.malformed (rest.length + 1))
  | '\\' :: c :: rest, acc =>
    match shortEscape? c with
    | some e => stringUnits start rest (e.toNat :: acc)
    | none => .error (.malformed (rest.length + 2))
  | ['\\'], _ => .error (.malformed start)
  | c :: rest, acc =>
    if c.toNat < 0x20 then .error (.malformed (rest.length + 1))
    else stringUnits start rest (c.toNat :: acc)

/-- A string whose opening quote has been read. -/
def readString (cs : List Char) : Except ReadFault (String × List Char) := do
  let (units, rest) ← stringUnits (cs.length + 1) cs []
  return (String.ofList (Text.ofUnits units), rest)

/-- The digits of a fraction, if one follows. -/
def fraction (cs : List Char) : List Char × List Char :=
  match cs with
  | '.' :: rest =>
    let digits := rest.takeWhile isAsciiDigit
    if digits.isEmpty then ([], cs) else (digits, rest.dropWhile isAsciiDigit)
  | _ => ([], cs)

/-- The power of ten of an exponent, if one follows. -/
def exponent? (cs : List Char) : Option Int × List Char :=
  match cs with
  | c :: rest =>
    if c = 'e' ∨ c = 'E' then
      let (negative, body) :=
        match rest with
        | '-' :: r => (true, r)
        | '+' :: r => (false, r)
        | r => (false, r)
      let digits := body.takeWhile isAsciiDigit
      if digits.isEmpty then (none, cs)
      else
        let n : Int := natOf digits
        (some (if negative then -n else n), body.dropWhile isAsciiDigit)
    else (none, cs)
  | [] => (none, cs)

def readNumber (cs : List Char) : Except ReadFault (Json × List Char) :=
  let (negative, body) :=
    match cs with
    | '-' :: r => (true, r)
    | r => (false, r)
  let whole :=
    match body with
    | '0' :: _ => ['0']
    | r => r.takeWhile isAsciiDigit
  if whole.isEmpty then .error (.malformed cs.length)
  else
    let (places, rest) := fraction (body.drop whole.length)
    let (power, rest) := exponent? rest
    if places.isEmpty && power.isNone then
      if whole.length > maxDigits then .error (.tooManyDigits whole.length)
      else
        let n : Int := natOf whole
        .ok (.int (if negative then -n else n), rest)
    else
      let digits := natOf (whole ++ places)
      .ok (.double (.ofDecimal negative digits (power.getD 0 - places.length)), rest)

mutual
/-- Reads one value; `fuel` bounds the steps and exceeds the length of the text. -/
def readValue : Nat → List Char → Except ReadFault (Json × List Char)
  | 0, cs => .error (.malformed cs.length)
  | fuel + 1, cs =>
    match cs with
    | '"' :: rest => do
      let (s, rest) ← readString rest
      return (.str s, rest)
    | '\x7b' :: rest =>
      match skipSpace rest with
      | '\x7d' :: rest => .ok (.obj [], rest)
      | rest => readFields fuel rest []
    | '[' :: rest =>
      match skipSpace rest with
      | ']' :: rest => .ok (.arr [], rest)
      | rest => readItems fuel rest []
    | 'n' :: 'u' :: 'l' :: 'l' :: rest => .ok (.null, rest)
    | 't' :: 'r' :: 'u' :: 'e' :: rest => .ok (.bool true, rest)
    | 'f' :: 'a' :: 'l' :: 's' :: 'e' :: rest => .ok (.bool false, rest)
    | 'N' :: 'a' :: 'N' :: rest => .ok (.double .nan, rest)
    | 'I' :: 'n' :: 'f' :: 'i' :: 'n' :: 'i' :: 't' :: 'y' :: rest =>
      .ok (.double (.infinite false), rest)
    | '-' :: 'I' :: 'n' :: 'f' :: 'i' :: 'n' :: 'i' :: 't' :: 'y' :: rest =>
      .ok (.double (.infinite true), rest)
    | cs => readNumber cs

/-- The items from the next one to the closing bracket. -/
def readItems : Nat → List Char → List Json → Except ReadFault (Json × List Char)
  | 0, cs, _ => .error (.malformed cs.length)
  | fuel + 1, cs, acc => do
    let (v, rest) ← readValue fuel cs
    match skipSpace rest with
    | ']' :: rest => return (.arr (v :: acc).reverse, rest)
    | ',' :: rest => readItems fuel (skipSpace rest) (v :: acc)
    | rest => .error (.malformed rest.length)

/-- The fields from the next one to the closing brace. -/
def readFields : Nat → List Char → List (String × Json) → Except ReadFault (Json × List Char)
  | 0, cs, _ => .error (.malformed cs.length)
  | fuel + 1, cs, acc =>
    match cs with
    | '"' :: rest => do
      let (name, rest) ← readString rest
      match skipSpace rest with
      | ':' :: rest =>
        let (v, rest) ← readValue fuel (skipSpace rest)
        match skipSpace rest with
        | '\x7d' :: rest => return (.obj (Fields.ofPairs ((name, v) :: acc).reverse), rest)
        | ',' :: rest => readFields fuel (skipSpace rest) ((name, v) :: acc)
        | rest => .error (.malformed rest.length)
      | rest => .error (.malformed rest.length)
    | cs => .error (.malformed cs.length)
end

/-- The value that a whole text writes. -/
def read (text : String) : Except ReadFault Json := do
  let cs := text.toList
  if cs.head? = some '\uFEFF' then throw (.malformed cs.length)
  let (v, rest) ← readValue (2 * cs.length + 2) (skipSpace cs)
  let rest := skipSpace rest
  if rest.isEmpty then return v else throw (.malformed rest.length)

/-- The number of code points before a fault. -/
def ReadFault.position (text : String) : ReadFault → Nat
  | .malformed left =>
    let cs := text.toList
    Text.size (cs.take (cs.length - left))
  | .tooManyDigits _ => 0

end TaskRules.Json
