import TaskRules.Text.Point

/-!
Texts as bytes in one of the encodings of Unicode. The first bytes tell which: a text that starts
with two ASCII characters has zeros among them where its units are wider than a byte, and a mark may
say that the text is UTF-8. Bytes may write halves of surrogate pairs that stand alone, but not in
UTF-8.
-/

namespace TaskRules.Text

/-- How characters are written as bytes. -/
inductive Encoding where
  | utf8
  | utf16 (highFirst : Bool)
  | utf32 (highFirst : Bool)
  deriving DecidableEq

namespace Encoding

/-- The encoding that the first bytes tell, of a text without a mark. -/
def ofBytes : List UInt8 → Encoding
  | [a, b] => if a = 0 then .utf16 true else if b = 0 then .utf16 false else .utf8
  | a :: b :: c :: d :: _ =>
    if a = 0 then if b = 0 then .utf32 true else .utf16 true
    else if b = 0 then if c = 0 ∧ d = 0 then .utf32 false else .utf16 false
    else .utf8
  | _ => .utf8

/-- The number that two bytes write. -/
def pair (highFirst : Bool) (a b : UInt8) : Nat :=
  if highFirst then 256 * a.toNat + b.toNat else 256 * b.toNat + a.toNat

/-- The units of two bytes each. -/
def units? (highFirst : Bool) : List UInt8 → Option (List Nat)
  | [] => some []
  | [_] => none
  | a :: b :: rest => (units? highFirst rest).map (pair highFirst a b :: ·)

/-- The code points of four bytes each. -/
def points? (highFirst : Bool) : List UInt8 → Option (List Nat)
  | [] => some []
  | a :: b :: c :: d :: rest =>
    let n :=
      if highFirst then 65536 * pair true a b + pair true c d
      else 65536 * pair false c d + pair false a b
    if n < 0x110000 then (points? highFirst rest).map (n :: ·) else none
  | _ => none

/-- The text that bytes write. -/
def text? (bytes : List UInt8) : Encoding → Option (List Char)
  | .utf8 => ofUtf8? bytes
  | .utf16 highFirst => (units? highFirst bytes).map ofUnits
  | .utf32 highFirst => (points? highFirst bytes).map ofPoints

end Encoding

/-- The text that bytes write in the encoding that their start tells. -/
def textOfBytes? : List UInt8 → Option (List Char)
  | 0xEF :: 0xBB :: 0xBF :: rest => Encoding.utf8.text? rest
  | bytes => (Encoding.ofBytes bytes).text? bytes

end TaskRules.Text
