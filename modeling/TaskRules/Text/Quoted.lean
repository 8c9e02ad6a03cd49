import TaskRules.Text.Point
import TaskRules.Text.Hex
import TaskRules.Text.Printable

/-!
Quoted texts in messages. Single quotes enclose a text, or double quotes when it holds a single
one and no double one; the enclosing quote, the backslash and unprintable characters are escaped.
-/

namespace TaskRules.Text

/-- The quote that encloses a text. -/
def quoteFor (cs : List Char) : Char :=
  if cs.contains '\'' && !cs.contains '"' then '"' else '\''

def quotedChar (quote c : Char) : List Char :=
  if c = quote ∨ c = '\\' then ['\\', c]
  else if c = '\n' then ['\\', 'n']
  else if c = '\r' then ['\\', 'r']
  else if c = '\t' then ['\\', 't']
  else if isPrintable c then [c]
  else if c.toNat < 0x100 then '\\' :: 'x' :: hex 2 c.toNat
  else if c.toNat < 0x10000 then '\\' :: 'u' :: hex 4 c.toNat
  else '\\' :: 'U' :: hex 8 c.toNat

/-- A code point inside quotes; a lone half is escaped. -/
def quotedPoint (quote : Char) (n : Nat) : List Char :=
  if isHalf n then '\\' :: 'u' :: hex 4 n else quotedChar quote (Char.ofNat n)

def quoted (cs : List Char) : List Char :=
  let quote := quoteFor cs
  quote :: ((points cs).flatMap (quotedPoint quote) ++ [quote])

end TaskRules.Text
