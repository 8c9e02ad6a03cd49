import TaskRules.Migration.State
import TaskRules.Migration.Marks

/-!
Migrating a database: carrying revisions out, taking them back, and marking the database as being at
a place. Every statement takes effect at once, and a revision counts only when all of its statements
have succeeded; so what ran before a failing statement stays, under the mark of the revision before.
The same steps can be written down as SQL instead.
-/

namespace TaskRules.Migration

namespace State

/-- Changes the marks. -/
def mark (changes : List MarkChange) : Run State Unit := do
  let s ← Run.read
  let marks ← Run.ofExcept (Marks.applyAll s.versions changes)
  .change (·.setVersions marks)

/-- The statements of a revision. -/
def statementsOf (number : Nat) (statements : Revision → List Statement) : List Statement :=
  ((chain[number - 1]?).map statements).getD []

/-- Carries revisions out. -/
def climb : List Nat → Run State Unit
  | [] => .done ()
  | n :: rest => do
    run (statementsOf n Revision.upward)
    mark [Marks.afterUpgrade (← Run.read).versions n]
    climb rest

/-- Takes revisions back. -/
def descend : List Nat → Run State Unit
  | [] => .done ()
  | n :: rest => do
    run (statementsOf n Revision.downward)
    mark [← Run.ofExcept (Marks.afterDowngrade (← Run.read).versions n)]
    descend rest

/-- Brings the database up to a target. -/
def upgrade (target : String) : Run State Unit := do
  .change withVersionTable
  climb (← Run.ofExcept (upgradePlan (← Run.read).versions target))

/-- Brings the database down to a target. -/
def downgrade (target : String) : Run State Unit := do
  .change withVersionTable
  descend (← Run.ofExcept (downgradePlan (← Run.read).versions target))

/-- Marks the database as being at the targets that a value names. -/
def stamp (target : Json) : Run State Unit := do
  .change withVersionTable
  (← Run.ofExcept (Marks.stampChanges (← Run.read).versions target)).forM mark

end State

inductive Direction where
  | up
  | down
  deriving DecidableEq

/-- The target that a value names; only a text can be searched for a range. -/
def targetOf (v : Json) : Except Fault String :=
  match v with
  | .str s => .ok s
  | v => .error (.ofForeign .type ("argument of type '" ++ v.typeName ++ "' is not iterable"))

def rangeRefused : Fault := .migration "Range revision not allowed"

/-- Refuses a target that is a range. -/
def noRange (target : String) : Except Fault Unit :=
  if target.toList.contains ':' then .error rangeRefused else .ok ()

/-! ## As SQL -/

def versionCondition (id : String) : String :=
  " WHERE " ++ State.versionTable ++ "." ++ State.versionColumn ++ " = '" ++ id ++ "'"

/-- What an insertion asks to be told. -/
def returning (d : Dialect) : String :=
  " RETURNING " ++
    (if d = .postgresql then State.versionTable ++ "." ++ State.versionColumn
    else State.versionColumn)

/-- The statement that changes a mark. -/
def MarkChange.sql (d : Dialect) : MarkChange → String
  | .insert id =>
    "INSERT INTO " ++ State.versionTable ++ " (" ++ State.versionColumn ++ ") VALUES ('" ++ id ++
      "')" ++ returning d
  | .move old new =>
    "UPDATE " ++ State.versionTable ++ " SET " ++ State.versionColumn ++ "='" ++ new ++ "'" ++
      versionCondition old
  | .delete id => "DELETE FROM " ++ State.versionTable ++ versionCondition id

/-- The statements that create the table of marks, where there are none yet. -/
def openingSql (d : Dialect) (marks : Marks) : List String :=
  if marks.isEmpty then [State.versionLayout.sql d] else []

/-- The statements that carry revisions out. -/
def climbSql (d : Dialect) (marks : Marks) : List Nat → Except Fault (List String)
  | [] => .ok []
  | n :: rest => do
    let change := marks.afterUpgrade n
    return openingSql d marks ++ (State.statementsOf n Revision.upward).map (·.sql d) ++
      [change.sql d] ++ (← climbSql d (← marks.apply change) rest)

/-- The statements that take revisions back. -/
def descendSql (d : Dialect) (marks : Marks) : List Nat → Except Fault (List String)
  | [] => .ok []
  | n :: rest => do
    let change ← marks.afterDowngrade n
    return openingSql d marks ++ (State.statementsOf n Revision.downward).map (·.sql d) ++
      [change.sql d] ++ (← descendSql d (← marks.apply change) rest)

/-- The statements in a transaction, in the dialect that has them. -/
def inTransaction (d : Dialect) (statements : List String) : List String :=
  if d = .postgresql then ["BEGIN"] ++ statements ++ ["COMMIT"] else statements

/-- A target, and where it is reached from if that is given. -/
structure Journey where
  start : Option String
  target : String

def downgradeNeedsRange : Fault := .migration "downgrade with --sql requires <fromrev>:<torev>"

/-- The journey that a text gives: a target, or a range of two. A downgrade needs a range. -/
def Journey.read (direction : Direction) (text : String) : Except Fault Journey :=
  match (Text.splitAt ':' text.toList).map String.ofList with
  | [target] => if direction = .down then .error downgradeNeedsRange else .ok ⟨none, target⟩
  | [start, target] => .ok ⟨some start, target⟩
  | _ => .error (.ofForeign .value "too many values to unpack (expected 2)")

/-- The revision that a journey starts from, if it is not the base. -/
def Journey.origin (j : Journey) : Except Fault Marks := do
  match j.start with
  | none => return []
  | some start =>
    if start = "base" then return []
    else
      match ← spot start with
      | .revision n => return [Marks.idOf n]
      | _ => throw (.lacks .null "revision")

/-- The statements of a journey. -/
def script (d : Dialect) (direction : Direction) (j : Journey) : Except Fault (List String) := do
  let marks ← j.origin
  match direction with
  | .up => return inTransaction d (← climbSql d marks (← upgradePlan marks j.target))
  | .down => return inTransaction d (← descendSql d marks (← downgradePlan marks j.target))

end TaskRules.Migration
