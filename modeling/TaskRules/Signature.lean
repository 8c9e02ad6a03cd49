import TaskRules.Fault

/-!
What things are made from: values that have to be given, values that may be, and options that are
only given by name. Values that do not fit are refused, by the first of what is wrong with them: a
name that is not known or given twice, too many values, a value that is missing.
-/

namespace TaskRules

/-- What something is made from, or called with. -/
structure Signature where
  name : String
  call : String := "__init__"
  required : List String
  further : List String := []
  /-- What is given by name only. -/
  options : List String := []

namespace Signature

def refused (s : Signature) (rest : String) : Fault :=
  .ofForeign .type (s.name ++ "." ++ s.call ++ "() " ++ rest)

/-- The names of values in their order. -/
def places (s : Signature) : List String := s.required ++ s.further

/-- One name, two names, or more of them. -/
def listed : List String → String
  | [] => ""
  | [a] => a
  | [a, b] => a ++ " and " ++ b
  | [a, b, c] => a ++ ", " ++ b ++ ", and " ++ c
  | a :: rest => a ++ ", " ++ listed rest

def plural (n : Nat) : String := if n = 1 then "" else "s"

/-- Checks the values that are given by name, when the first `taken` have been given already. -/
def checkNamed (s : Signature) (taken : Nat) : Json.Fields → Except Fault Unit
  | [] => .ok ()
  | (name, _) :: rest =>
    if ("self" :: s.places.take taken).contains name then
      .error (s.refused ("got multiple values for argument '" ++ name ++ "'"))
    else if s.places.contains name || s.options.contains name then s.checkNamed taken rest
    else .error (s.refused ("got an unexpected keyword argument '" ++ name ++ "'"))

/-- Checks that no more values are given than there are places for. -/
def checkCount (s : Signature) (given options : Nat) : Except Fault Unit :=
  let most := s.places.length + 1
  if given < most then .ok ()
  else
    .error (s.refused ("takes " ++ decimal most ++ " positional argument" ++ plural most ++
      " but " ++ decimal (given + 1) ++
      (if options = 0 then ""
      else " positional argument" ++ plural (given + 1) ++ " (and " ++ decimal options ++
        " keyword-only argument" ++ plural options ++ ")") ++
      " were given"))

/-- Checks that all required values are there. -/
def checkMissing (s : Signature) (found : Json.Fields) : Except Fault Unit :=
  match s.required.filter fun name => !Json.Fields.has found name with
  | [] => .ok ()
  | missing =>
    .error (s.refused ("missing " ++ decimal missing.length ++ " required positional argument" ++
      plural missing.length ++ ": " ++ listed (missing.map fun name => "'" ++ name ++ "'")))

/-- The values by name. -/
def bind (s : Signature) (values : List Json) (named : Json.Fields) : Except Fault Json.Fields := do
  s.checkNamed values.length named
  s.checkCount values.length (named.countP fun p => s.options.contains p.1)
  let found := s.places.zip values ++ named
  s.checkMissing found
  return found

end Signature
end TaskRules
