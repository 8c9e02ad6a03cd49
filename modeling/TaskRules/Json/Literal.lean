import TaskRules.Json.Basic
import TaskRules.Number.Written
import TaskRules.Text.Quoted

/-!
Values inside messages. A text shows as it is; every other value, and a text inside a list or an
object, shows as a literal: `None`, `True`, `1.0`, `['a', 1]`, quoted texts.
-/

namespace TaskRules.Json

def quotedText (s : String) : String := String.ofList (Text.quoted s.toList)

mutual
/-- The literal of a value. -/
def literal : Json → String
  | .null => "None"
  | .bool b => if b then "True" else "False"
  | .int n => decimal n
  | .double x => DoubleLayout.plain.text x
  | .str s => quotedText s
  | .arr items => "[" ++ itemLiterals items ++ "]"
  | .obj fields => "\x7b" ++ fieldLiterals fields ++ "\x7d"

def itemLiterals : List Json → String
  | [] => ""
  | v :: rest => literal v ++ itemLiteralsTail rest

def itemLiteralsTail : List Json → String
  | [] => ""
  | v :: rest => ", " ++ literal v ++ itemLiteralsTail rest

def fieldLiterals : List (String × Json) → String
  | [] => ""
  | (k, v) :: rest => quotedText k ++ ": " ++ literal v ++ fieldLiteralsTail rest

def fieldLiteralsTail : List (String × Json) → String
  | [] => ""
  | (k, v) :: rest => ", " ++ quotedText k ++ ": " ++ literal v ++ fieldLiteralsTail rest
end

/-- A value in a message: a text as it is, all else as a literal. -/
def display : Json → String
  | .str s => s
  | v => literal v

/-- The name of a value's type in messages. -/
def typeName : Json → String
  | .null => "NoneType"
  | .bool _ => "bool"
  | .int _ => "int"
  | .double _ => "float"
  | .str _ => "str"
  | .arr _ => "list"
  | .obj _ => "dict"

end TaskRules.Json
