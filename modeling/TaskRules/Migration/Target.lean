import TaskRules.Migration.Identifier
import TaskRules.Text.Alphanumeric
import TaskRules.Text.Digit

/-!
Where a migration leads. A target is an identifier, or a number of steps from the current revision
or from an identifier. A step off the chain is refused.
-/

namespace TaskRules.Migration

/-- A target given in steps. -/
structure Relative where
  /-- The branch to stay in, if one is named before an `@`. -/
  label : Option String
  /-- The identifier to count from; the current revision if there is none. -/
  origin : Option String
  /-- The steps as they are written, with their sign. -/
  written : String
  steps : Int

namespace Relative

/-- A sign and at least one digit at the start of a text. -/
def stepsOf? : List Char → Option (List Char × Int)
  | sign :: rest =>
    let digits := rest.takeWhile fun c => (Text.decimalValue? c).isSome
    if digits.isEmpty then none
    else
      let n := Numeral.natOf (digits.filterMap Text.decimalValue?)
      if sign = '+' then some (sign :: digits, n)
      else if sign = '-' then some (sign :: digits, -(n : Int))
      else none
  | [] => none

/-- A word or nothing, and then steps; what follows them is not looked at. -/
def unlabelled? (label : Option String) (cs : List Char) : Option Relative :=
  let name := cs.takeWhile Text.isWordChar
  (stepsOf? (cs.dropWhile Text.isWordChar)).map fun p =>
    ⟨label, if name.isEmpty then none else some (String.ofList name), String.ofList p.1, p.2⟩

/-- A label of one line, as short as possible, an `@` and then steps; `before` is the label so far,
the last character first. -/
def labelled? (before : List Char) : List Char → Option Relative
  | [] => none
  | c :: rest =>
    let found :=
      if c = '@' ∧ !before.isEmpty then
        unlabelled? (some (String.ofList before.reverse)) rest
      else none
    match found with
    | some r => some r
    | none => if c = '\n' then none else labelled? (c :: before) rest

/-- The target that a text gives in steps, if it does. -/
def read? (text : String) : Option Relative :=
  (labelled? [] text.toList).or (unlabelled? none text.toList)

/-- The number of steps has to be one that can be read. -/
def check (r : Relative) : Except Fault Unit :=
  match Numeral.integer r.written.toList with
  | .ok _ => .ok ()
  | .error fault => .error (.ofNumeral fault)

/-- The steps cannot be made; `written` is how they are named. -/
def notEnough (r : Relative) (written : String) : Fault :=
  .migration ("Relative revision " ++ written ++ " didn't produce " ++ decimal r.steps.natAbs ++
    " migrations")

end Relative

/-- Checks the branch of a walk up: where it can make a step, its label has to name a branch. -/
def checkWalk (start : Spot) (steps : Int) (label : Option String) : Except Fault Unit :=
  match label with
  | none => .ok ()
  | some label =>
    if 0 < steps then
      match start with
      | .revision n => checkLineage (if n < head then [.ok (.revision (n + 1))] else []) label
      | _ => checkLineage [.ok (.revision 1)] label
    else .ok ()

/-- A walk in a branch. -/
def walkIn (start : Spot) (steps : Int) (label : Option String) : Except Fault Spot := do
  checkWalk start steps label
  start.walk steps

/-- An identifier in the branch of a label. -/
def labelledText (label : Option String) (name : String) : String :=
  match label with
  | some label => label ++ "@" ++ name
  | none => name

/-- The revisions a database is at, as starting points for a walk up in a branch. -/
def startsIn (current : List String) (label : String) : Except Fault (List Spot) := do
  let starts ← allSpots current
  checkLineage (starts.map (·.member)) label
  return starts.map fun s => if s = .foot then .base else s

/-- The spot that an upgrade walks up from. -/
def upgradeStart (current : List String) (label : Option String) : Except Fault Spot := do
  let starts ←
    match label with
    | some label => (← startsIn current label).mapM fun s => pure (pure s)
    | none => pure (current.map spot)
  match starts with
  | [] => return .base
  | [start] => start
  | _ => throw (.migration "Ambiguous upgrade from multiple current revisions")

/-- The spots that an upgrade leads to. -/
def upgradeTarget (current : List String) (text : String) : Except Fault (List Spot) :=
  match Relative.read? text with
  | none => spots text
  | some r => do
    r.check
    if 0 < r.steps then
      match r.origin with
      | none =>
        match ← walkIn (← upgradeStart current r.label) r.steps r.label with
        | .base => throw (r.notEnough r.written)
        | target => return [target]
      | some name => return [← walkIn (← spot name) r.steps r.label]
    else
      match r.origin with
      | none => throw (r.notEnough (decimal r.steps))
      | some name => return [← (← spot (labelledText r.label name)).walk r.steps]

/-- The identifier that a downgrade counts down from. -/
def downgradeStart (current : List String) (r : Relative) : Except Fault String :=
  match r.origin, r.label with
  | some name, label => .ok (labelledText label name)
  | none, none =>
    match current with
    | [] => .error (r.notEnough r.written)
    | id :: _ => .ok (labelledText (some id) id)
  | none, some label => do
    checkLineage (current.map fun id => (find id).map .revision) label
    match current with
    | [id] => return labelledText (some label) id
    | _ => throw unexpected

/-- The spot that a downgrade leads to. -/
def downgradeTarget (current : List String) (text : String) : Except Fault Spot :=
  match Relative.read? text with
  | none =>
    let name := (text.toList.reverse.takeWhile (· != '@')).reverse
    spot (String.ofList name)
  | some r =>
    let tooFar : Fault :=
      if r.origin.isNone then r.notEnough r.written else .migration "Walked too far"
    let target : Except Fault Spot :=
      if 0 ≤ r.steps then
        match r.origin with
        | none => .error tooFar
        | some name => do walkIn (← spot name) r.steps r.label
      else do (← spot (← downgradeStart current r)).walk r.steps
    r.check.bind fun _ => target.bind fun
      | .base => .error tooFar
      | .foot => .ok .base
      | s => .ok s

/-! ## Plans: the revisions that a command carries out or takes back -/

/-- Checks that none of the revisions lies below another one of them. -/
def checkApart (numbers : List Nat) : Except Fault Unit :=
  numbers.forM fun n =>
    match numbers.find? (· < n) with
    | some m => .error (.migration ("Requested revision " ++ (idAt? n).getD "" ++
        " overlaps with other requested revisions " ++ (idAt? m).getD ""))
    | none => .ok ()

/-- The revisions from above one up to another, the lowest first. -/
def between (low high : Nat) : List Nat := (List.range high).drop low |>.map (· + 1)

/-- The largest of the numbers, or zero. -/
def highest (numbers : List Nat) : Nat := numbers.foldl max 0

def targetNotText : Fault := .ofForeign .assertion "Expected downgrade target in string form"

/-- The revisions of an upgrade, the lowest first. -/
def upgradePlan (current : List String) (text : String) : Except Fault (List Nat) := do
  let targets ← (← upgradeTarget current text).mapM (·.number)
  let places ← allSpots current
  if places.head? = some .base then throw targetNotText
  let numbers ← places.mapM (·.number)
  checkApart numbers
  return between (highest numbers) (highest targets)

/-- The revisions of a downgrade, the highest first. A target that is not below is refused, unless
the database is at it. -/
def downgradePlan (current : List String) (text : String) : Except Fault (List Nat) := do
  let target ← downgradeTarget current text
  let numbers ← (← allSpots current).mapM (·.number)
  let low :=
    match target with
    | .revision n => n
    | _ => 0
  let plan := (between low (highest numbers)).reverse
  if low != 0 && plan.isEmpty && !numbers.contains low then
    throw (.migration ("Destination " ++ text ++
      " is not a valid downgrade target from current head(s)"))
  return plan

end TaskRules.Migration
