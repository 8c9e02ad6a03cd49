import TaskRules.Fault
import TaskRules.Text.Case

/-!
Named options whose values may refer to each other: in a value, `%%` stands for a percent sign and
`%(name)s` for the value of another option. A value with any other percent sign cannot be set.
-/

namespace TaskRules.Migration

/-- Options by name. -/
abbrev Options := List (String × String)

namespace Options

/-- The name of a reference that a text starts with, after its percent sign, and the rest. -/
def reference? : List Char → Option (List Char × List Char)
  | '(' :: rest =>
    let name := rest.takeWhile (· != ')')
    match rest.dropWhile (· != ')') with
    | ')' :: 's' :: rest => if name.isEmpty then none else some (name, rest)
    | _ => none
  | _ => none

/-- A text without its doubled percent signs. -/
def withoutDoubled : List Char → List Char
  | '%' :: '%' :: rest => withoutDoubled rest
  | c :: rest => c :: withoutDoubled rest
  | [] => []

/-- A text without its references. `fuel` bounds its length. -/
def withoutReferences : Nat → List Char → List Char
  | 0, cs => cs
  | _, [] => []
  | fuel + 1, c :: rest =>
    if c = '%' then
      match reference? rest with
      | some (_, rest) => withoutReferences fuel rest
      | none => c :: withoutReferences fuel rest
    else c :: withoutReferences fuel rest

/-- A value that can be set. -/
def check (value : String) : Except Fault Unit :=
  let plain := withoutDoubled value.toList
  let rest := withoutReferences plain.length plain
  if rest.contains '%' then
    .error (.ofForeign .value ("invalid interpolation syntax in " ++ Json.quotedText value ++
      " at position " ++ decimal (Text.size (rest.takeWhile (· != '%')))))
  else .ok ()

/-- The value of an option as it was set. -/
def raw? (o : Options) (name : String) : Option String := (List.find? (·.1 == name) o).map (·.2)

/-- Sets an option. -/
def set (o : Options) (name : String) (value : Json) : Except Fault Options :=
  match value with
  | .str s => do
    check s
    return (name, s) :: List.filter (·.1 != name) o
  | _ => .error (.ofForeign .type "option values must be strings")

/-- How deep references may lie within each other. -/
def mostSteps : Nat := 10

/-- A value with its references replaced, at a depth of at most ten. `left` counts down the depth,
`fuel` the text. -/
def expand (o : Options) (name raw : String) : Nat → Nat → List Char → Except Fault (List Char)
  | 0, _, _ =>
    .error (.ofForeign .endlessOption ("Recursion limit exceeded in value substitution: option " ++
      Json.quotedText name ++ " in section 'alembic' contains an interpolation key which cannot " ++
      "be substituted in " ++ decimal mostSteps ++ " steps. Raw value: " ++ Json.quotedText raw))
  | _, 0, _ => .ok []
  | _, _, [] => .ok []
  | left + 1, fuel + 1, '%' :: '%' :: rest => do
    return '%' :: (← expand o name raw (left + 1) fuel rest)
  | left + 1, fuel + 1, '%' :: rest =>
    match reference? rest with
    | none =>
      .error (.ofForeign .optionSyntax ("bad interpolation variable reference " ++
        Json.quotedText (String.ofList ('%' :: rest))))
    | some (key, rest) =>
      let key := String.ofList (Text.lower key)
      match o.raw? key with
      | none =>
        .error (.ofForeign .missingOption ("Bad value substitution: option " ++
          Json.quotedText name ++ " in section 'alembic' contains an interpolation key " ++
          Json.quotedText key ++ " which is not a valid option name. Raw value: " ++
          Json.quotedText raw))
      | some value => do
        let value ← expand o name raw left value.length value.toList
        return value ++ (← expand o name raw (left + 1) fuel rest)
  | left + 1, fuel + 1, c :: rest => do
    return c :: (← expand o name raw (left + 1) fuel rest)
  termination_by left fuel _ => (left, fuel)

/-- The value of an option, with its references replaced; an option that is not there is empty. -/
def get (o : Options) (name : String) : Except Fault String :=
  match o.raw? name with
  | none => .ok ""
  | some raw => (expand o name raw mostSteps raw.length raw.toList).map String.ofList

end Options
end TaskRules.Migration
