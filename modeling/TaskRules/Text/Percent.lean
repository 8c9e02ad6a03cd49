import TaskRules.Text.Blank
import TaskRules.Text.Hex
import TaskRules.Text.Point

/-!
Percent-encoding. Encoding writes the UTF-8 bytes of a character as percent signs with two
hexadecimal digits; decoding takes these back to bytes and reads them as UTF-8, where each longest
start of a character that does not go on becomes one replacement character.
-/

namespace TaskRules.Text

/-! ## UTF-8 -/

/-- Reads `count` further bytes of a character, the first of them between `low` and `high`. Gives
how many fit, and the code point when all do. -/
def furtherBytes : (count low high code : Nat) → List UInt8 → Nat × Option Nat
  | 0, _, _, code, _ => (0, some code)
  | _ + 1, _, _, _, [] => (0, none)
  | count + 1, low, high, code, b :: rest =>
    if low ≤ b.toNat ∧ b.toNat ≤ high then
      let (fitting, result) := furtherBytes count 0x80 0xBF (64 * code + b.toNat % 64) rest
      (fitting + 1, result)
    else (0, none)

/-- The character that starts with a byte, or `none`, and how many further bytes belong to it. -/
def characterAt (b : UInt8) (rest : List UInt8) : Nat × Option Nat :=
  let n := b.toNat
  if n < 0x80 then (0, some n)
  else if n < 0xC2 then (0, none)
  else if n < 0xE0 then furtherBytes 1 0x80 0xBF (n % 32) rest
  else if n < 0xF0 then
    furtherBytes 2 (if n = 0xE0 then 0xA0 else 0x80) (if n = 0xED then 0x9F else 0xBF) (n % 16) rest
  else if n < 0xF5 then
    furtherBytes 3 (if n = 0xF0 then 0x90 else 0x80) (if n = 0xF4 then 0x8F else 0xBF) (n % 8) rest
  else (0, none)

/-- The text of bytes, with replacement characters for what is not UTF-8. -/
def readable : List UInt8 → List Char
  | [] => []
  | b :: rest =>
    let (further, code) := characterAt b rest
    (match code with
      | some n => ofPoint n
      | none => ['\uFFFD']) ++ readable (rest.drop further)
  termination_by bytes => bytes.length
  decreasing_by simp only [List.length_drop, List.length_cons]; omega

/-! ## Percent signs -/

/-- The bytes that a percent-encoded text stands for. A percent sign without two hexadecimal digits
stands for itself. -/
def unescaped : List UInt8 → List UInt8
  | [] => []
  | 0x25 :: a :: b :: rest =>
    match hexValue? (Char.ofNat a.toNat), hexValue? (Char.ofNat b.toNat) with
    | some x, some y => UInt8.ofNat (16 * x + y) :: unescaped rest
    | _, _ => 0x25 :: unescaped (a :: b :: rest)
  | c :: rest => c :: unescaped rest
  termination_by bytes => bytes.length

/-- The text that a percent-encoded one stands for. -/
def decoded (cs : List Char) : List Char := readable (unescaped (utf8 cs))

/-- The same in a query, where a plus sign stands for a blank. -/
def decodedQuery (cs : List Char) : List Char :=
  decoded (cs.map fun c => if c = '+' then ' ' else c)

/-- The fields of a query, cut at its ampersands and at the first equals sign of each; empty ones
are left out. -/
def queryFields (cs : List Char) : List (List Char × List Char) :=
  ((splitAt '&' cs).filter fun p => !p.isEmpty).map fun p =>
    (decodedQuery (p.takeWhile (· != '=')), decodedQuery ((p.dropWhile (· != '=')).drop 1))

/-- The characters that encoding leaves alone. -/
def isUnreserved (c : Char) : Bool := c.isAlphanum || "_.-~".toList.contains c

def upperHex (n : Nat) : List Char := (hex 2 n).map Char.toUpper

/-- A text with all but unreserved and `safe` characters encoded. -/
def encoded (safe : List Char) (cs : List Char) : List Char :=
  (points cs).flatMap fun n =>
    let c := Char.ofNat n
    if isUnreserved c || safe.contains c then [c]
    else (utf8 (ofPoint n)).flatMap fun b => '%' :: upperHex b.toNat

/-- A text in a query: a blank is a plus sign. -/
def encodedQuery (cs : List Char) : List Char :=
  (encoded [' '] cs).map fun c => if c = ' ' then '+' else c

end TaskRules.Text
