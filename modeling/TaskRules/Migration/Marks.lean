import TaskRules.Migration.Target

/-!
The marks of a database: the revisions that it is at, in the order they were entered. Carrying a
revision out or taking it back, and marking a database by hand, change them one at a time.
-/

namespace TaskRules.Migration

/-- The revisions that a database is at. -/
abbrev Marks := List String

/-- A change of one mark. -/
inductive MarkChange where
  | insert (id : String)
  | delete (id : String)
  | move (old new : String)

namespace Marks

/-- A mark that is to be taken away or moved is not there. -/
def missing (id : String) : Fault := .ofForeign .key id

def apply (marks : Marks) : MarkChange → Except Fault Marks
  | .insert id => if marks.contains id then .error unexpected else .ok (marks ++ [id])
  | .delete id => if marks.contains id then .ok (marks.filter (· != id)) else .error (missing id)
  | .move old new =>
    if marks.contains new then .error unexpected
    else if marks.contains old then .ok (marks.map fun id => if id == old then new else id)
    else .error (missing old)

def applyAll (marks : Marks) (changes : List MarkChange) : Except Fault Marks :=
  changes.foldlM apply marks

/-- The id of a revision. -/
def idOf (number : Nat) : String := (idAt? number).getD ""

/-- The change when a revision has been carried out. -/
def afterUpgrade (marks : Marks) (number : Nat) : MarkChange :=
  if number > 1 && marks.contains (idOf (number - 1)) then
    .move (idOf (number - 1)) (idOf number)
  else .insert (idOf number)

def ambiguous : Fault :=
  .ofForeign .assertion "Can't do an UPDATE because downrevision is ambiguous"

/-- The change when a revision has been taken back: its mark goes when nothing is below it, or when
another mark covers what is. -/
def afterDowngrade (marks : Marks) (number : Nat) : Except Fault MarkChange := do
  let id := idOf number
  let below := idOf (number - 1)
  if number ≤ 1 then
    if marks.contains id then return .delete id else throw ambiguous
  else if marks.contains id then
    let others ← (← allSpots (marks.filter (· != id))).mapM (·.number)
    if others.any (number - 1 ≤ ·) then return .delete id else return .move id below
  else return .move id below

/-- The changes that move all marks to one revision. -/
def gathered (numbers : List Nat) (target : Nat) : List MarkChange :=
  match (numbers.map idOf).reverse with
  | [] => [.insert (idOf target)]
  | last :: rest => rest.reverse.map .delete ++ [.move last (idOf target)]

/-- The changes that lead from the revisions a database is at to a spot, in the groups in which they
take effect. -/
def stampTo (marks : Marks) (numbers : List Nat) : Spot → Except Fault (List (List MarkChange))
  | .base => .ok (numbers.map fun n => [.delete (idOf n)])
  | .foot => .error unexpected
  | .revision target =>
    if numbers.contains target then .ok []
    else if numbers.any (target < ·) then
      if numbers.any (· < target) then .error unexpected else .ok [gathered numbers target]
    else if !marks.contains (idOf target) && numbers.any (fun n => !marks.contains (idOf n)) then
      .ok [[.insert (idOf target)]]
    else .ok [gathered numbers target]

/-- The text of an identifier. -/
def textOf (v : Json) : Except Fault String :=
  match v with
  | .str s => .ok s
  | v => .error (.migration ("revision identifier " ++ v.literal ++
      " is not a string; ensure database driver settings are correct"))

/-- The identifiers that a value names: its own, those of its items, and the base when it is
empty. -/
def targetsOf (v : Json) : List Json :=
  match v with
  | .null => [.str "base"]
  | .str s => [.str s]
  | v =>
    match v.sequence? with
    | some [] => [.str "base"]
    | some items => items
    | none => [v]

/-- The changes that mark a database as being at the targets that a value names. -/
def stampChanges (marks : Marks) (target : Json) : Except Fault (List (List MarkChange)) := do
  let heads ← allSpots marks
  let targets := targetsOf target
  let wanted := targets.filter Json.truthy
  wanted.forM fun v => do checkLineage (heads.map (·.member)) (← textOf v)
  match ← allSpots (← targets.mapM textOf) with
  | [] => stampTo marks (← heads.eraseDups.mapM (·.marked)) .base
  | spots =>
    let filtered ← if wanted.isEmpty then pure [] else heads.eraseDups.mapM (·.marked)
    return (← spots.mapM (stampTo marks filtered)).flatten

end Marks
end TaskRules.Migration
