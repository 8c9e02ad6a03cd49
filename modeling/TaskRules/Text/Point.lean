/-!
Texts as code points. Two halves of a surrogate pair, in order, make one character of the higher
planes; a half that stands alone is a code point without being a character, and a text may hold it.
A string holds characters only, so it writes some code points as two of them: the 2048 halves, and
the 2052 characters that such pairs are made of. A pair is one of 2 leads before one of 2050 trails,
and there are just as many pairs as code points to write. No lead is a trail, so one text stands
within another exactly when its string stands within the other's, and they are cut alike at any
character that takes no part in pairs.
-/

namespace TaskRules.Text

def isHalf (n : Nat) : Bool := decide (0xD800 ≤ n) && decide (n < 0xE000)

/-- The first of the characters that pairs are made of, which are private ones. -/
def firstTrail : Nat := 0x10D800

def trailCount : Nat := 2050

def leadCount : Nat := 2

/-- The first lead; the leads follow the trails. -/
def firstLead : Nat := firstTrail + trailCount

def halfCount : Nat := 2048

/-- The place of a code point among those that are written as pairs. -/
def pairPlace? (n : Nat) : Option Nat :=
  if isHalf n then some (n - 0xD800)
  else if firstTrail ≤ n ∧ n < firstLead + leadCount then some (halfCount + (n - firstTrail))
  else none

/-- The code point at a place among those that are written as pairs. -/
def pointAt (place : Nat) : Nat :=
  if place < halfCount then 0xD800 + place else firstTrail + (place - halfCount)

/-- The characters that write a code point. -/
def ofPoint (n : Nat) : List Char :=
  match pairPlace? n with
  | some place =>
    [Char.ofNat (firstLead + place / trailCount), Char.ofNat (firstTrail + place % trailCount)]
  | none => [Char.ofNat n]

/-- The code point that two characters write together, if they are a pair. -/
def pairPoint? (a b : Char) : Option Nat :=
  if firstLead ≤ a.toNat ∧ a.toNat < firstLead + leadCount ∧
      firstTrail ≤ b.toNat ∧ b.toNat < firstLead then
    some (pointAt ((a.toNat - firstLead) * trailCount + (b.toNat - firstTrail)))
  else none

/-- The code points of a text. -/
def points : List Char → List Nat
  | [] => []
  | [c] => [c.toNat]
  | a :: b :: rest =>
    match pairPoint? a b with
    | some n => n :: points rest
    | none => a.toNat :: points (b :: rest)

/-- The text of code points. -/
def ofPoints (ns : List Nat) : List Char := ns.flatMap ofPoint

/-- The text of characters, each of which is a code point. -/
def ofChars (cs : List Char) : List Char := ofPoints (cs.map Char.toNat)

/-- The number of code points of a text. -/
def size (cs : List Char) : Nat := (points cs).length

/-- Whether a text is made of characters alone, with no lone half among them. -/
def isWhole (cs : List Char) : Bool := (points cs).all (!isHalf ·)

/-- The order of texts, that of their code points. -/
def before (s t : String) : Bool := decide (points s.toList < points t.toList)

/-- The characters that units write: units of 16 bits from escapes, of which two halves in order are
one character, and characters as they are. -/
def ofUnits : List Nat → List Char
  | [] => []
  | [n] => ofUnit n
  | h :: l :: rest =>
    if 0xD800 ≤ h ∧ h < 0xDC00 ∧ 0xDC00 ≤ l ∧ l < 0xE000 then
      ofPoint (0x10000 + (h - 0xD800) * 0x400 + (l - 0xDC00)) ++ ofUnits rest
    else ofUnit h ++ ofUnits (l :: rest)
where
  /-- The characters of a unit that is not part of a character. -/
  ofUnit (n : Nat) : List Char := if isHalf n then ofPoint n else [Char.ofNat n]

/-- The bytes of a text in UTF-8, which has none for a lone half. -/
def utf8 (cs : List Char) : List UInt8 :=
  (String.ofList ((points cs).map Char.ofNat)).toUTF8.toList

/-- The text of bytes in UTF-8. -/
def ofUtf8? (bytes : List UInt8) : Option (List Char) :=
  (String.fromUTF8? ⟨bytes.toArray⟩).map fun s => ofChars s.toList

end TaskRules.Text
