import TaskRules.Json.Basic
import TaskRules.Number.Written
import TaskRules.Text.Point
import TaskRules.Text.Hex

/-!
JSON text. Items are separated by a comma and a space, names from values by a colon and a space;
every character outside U+0020 … U+007E is escaped, beyond the first plane as a pair of halves.
-/

namespace TaskRules.Json

def unitEscape (n : Nat) : List Char := '\\' :: 'u' :: Text.hex 4 n

def escapedChar (c : Char) : List Char :=
  if c = '"' ∨ c = '\\' then ['\\', c]
  else if c = '\n' then ['\\', 'n']
  else if c = '\r' then ['\\', 'r']
  else if c = '\t' then ['\\', 't']
  else if c = '\x08' then ['\\', 'b']
  else if c = '\x0c' then ['\\', 'f']
  else if 0x20 ≤ c.toNat ∧ c.toNat ≤ 0x7E then [c]
  else if c.toNat < 0x10000 then unitEscape c.toNat
  else
    let n := c.toNat - 0x10000
    unitEscape (0xD800 + n / 0x400) ++ unitEscape (0xDC00 + n % 0x400)

/-- A code point of a string; a lone half is escaped. -/
def escapedPoint (n : Nat) : List Char :=
  if Text.isHalf n then unitEscape n else escapedChar (Char.ofNat n)

/-- A text as a JSON string. -/
def stringText (s : String) : String :=
  String.ofList ('"' :: ((Text.points s.toList).flatMap escapedPoint ++ ['"']))

mutual
def text : Json → String
  | .null => "null"
  | .bool b => if b then "true" else "false"
  | .int n => decimal n
  | .double x => DoubleLayout.json.text x
  | .str s => stringText s
  | .arr items => "[" ++ itemsText items ++ "]"
  | .obj fields => "\x7b" ++ fieldsText fields ++ "\x7d"

def itemsText : List Json → String
  | [] => ""
  | v :: rest => text v ++ itemsTail rest

def itemsTail : List Json → String
  | [] => ""
  | v :: rest => ", " ++ text v ++ itemsTail rest

def fieldsText : List (String × Json) → String
  | [] => ""
  | (k, v) :: rest => stringText k ++ ": " ++ text v ++ fieldsTail rest

def fieldsTail : List (String × Json) → String
  | [] => ""
  | (k, v) :: rest => ", " ++ stringText k ++ ": " ++ text v ++ fieldsTail rest
end

/-- Puts a field into a list that is in order of names. -/
def insertField (field : String × Json) : Fields → Fields
  | [] => [field]
  | other :: rest =>
    if Text.before field.1 other.1 then field :: other :: rest
    else other :: insertField field rest

mutual
/-- The same value with every object's fields in order of names. -/
def sorted : Json → Json
  | .arr items => .arr (sortedItems items)
  | .obj fields => .obj (sortedFields fields)
  | v => v

def sortedItems : List Json → List Json
  | [] => []
  | v :: rest => sorted v :: sortedItems rest

def sortedFields : List (String × Json) → List (String × Json)
  | [] => []
  | (k, v) :: rest => insertField (k, sorted v) (sortedFields rest)
end

end TaskRules.Json
