import TaskRules.Json.Basic
import TaskRules.Number.Numeral

/-!
Dotted paths into a payload. A segment names a field of an object or, written in digits, a
position of a list; a path that leads nowhere is `none`. Only a segment of digits that do not form
a numeral, or of too many digits, is a fault.
-/

namespace TaskRules.Condition

/-- The segments of a path: the text between its dots. -/
def segments (path : String) : List String :=
  (Text.splitAt '.' path.toList).map String.ofList

/-- One hop from a value. -/
def hop (v : Json) (segment : String) : Except NumeralFault (Option Json) :=
  match v with
  | .obj fields => .ok (Json.Fields.get? fields segment)
  | .arr items =>
    if Text.allDigits segment.toList then
      match Numeral.integer segment.toList with
      | .ok n => .ok items[n.toNat]?
      | .error fault => .error fault
    else .ok none
  | _ => .ok none

/-- Hops along the segments; the first hop that leads nowhere ends the walk. -/
def walk (v : Json) : List String → Except NumeralFault (Option Json)
  | [] => .ok (some v)
  | segment :: rest =>
    match hop v segment with
    | .ok (some w) => walk w rest
    | .ok none => .ok none
    | .error fault => .error fault

/-- The value that a path leads to. -/
def resolve (payload : Json) (path : String) : Except NumeralFault (Option Json) :=
  walk payload (segments path)

end TaskRules.Condition
