import TaskRules.Fault
import TaskRules.Migration.Revision
import TaskRules.Number.Numeral

/-!
What identifiers of revisions stand for. An identifier is the full id of a revision, `head` or
`heads` for the last one, or `base` for the state before all of them; a label before an `@` names
the branch that is meant. The chain has a single branch, so that every revision is a label of it.
-/

namespace TaskRules.Migration

/-- A spot of the chain. -/
inductive Spot where
  /-- Before the first revision; also where a walk ends that leaves the chain. -/
  | base
  /-- Below the first revision, where a walk down comes out. -/
  | foot
  /-- At a revision, counted from one. -/
  | revision (number : Nat)
  deriving DecidableEq

def notFound (text : String) : Fault :=
  .migration ("Can't locate revision identified by '" ++ text ++ "'")

/-- A state that migrations take for granted does not hold. -/
def unexpected : Fault := .foreign ⟨.assertion, []⟩

/-- The id of the last revision. -/
def headId : String := (idAt? head).getD ""

namespace Spot

/-- The number of a spot that has to be at a revision. -/
def number : Spot → Except Fault Nat
  | .revision n => .ok n
  | _ => .error unexpected

/-- A spot that is asked for its branch. -/
def member : Spot → Except Fault Spot
  | .foot => .error (notFound "base")
  | s => .ok s

/-- The number of the revision that a database is at. -/
def marked : Spot → Except Fault Nat
  | .revision n => .ok n
  | .base => .error (.lacks .null "revision")
  | .foot => .error (.lacks (.str "base") "revision")

/-- The spot so many steps up, or down for a negative count. The base counts as above the head for a
walk down. -/
def walk (s : Spot) (steps : Int) : Except Fault Spot :=
  let up (n : Nat) : Spot :=
    let target := n + steps.toNat
    if target = 0 ∨ target > head then .base else .revision target
  let down (n : Nat) : Spot :=
    let steps := steps.natAbs
    if steps < n then .revision (n - steps) else if steps = n then .foot else .base
  match s with
  | .base => .ok (if 0 ≤ steps then up 0 else down (head + 1))
  | .foot => if 0 < steps then .error unexpected else .ok (if steps = 0 then .foot else .base)
  | .revision n => .ok (if 0 ≤ steps then up n else down n)

end Spot

/-- The number of the revision with a full id. -/
def find (id : String) : Except Fault Nat :=
  match place? id with
  | some n => .ok n
  | none => .error (if id = "" then unexpected else notFound id)

/-- Checks that a label names a branch. -/
def checkBranch (label : String) : Except Fault Unit :=
  match place? label with
  | some _ => .ok ()
  | none => .error (notFound label)

/-- An identifier in its parts. -/
structure Identifier where
  /-- What stands before the first `@`, if there is one. -/
  label : Option String
  name : String

namespace Identifier

def ofText (text : String) : Identifier :=
  let cs := text.toList
  match cs.dropWhile (· != '@') with
  | _ :: name => ⟨some (String.ofList (cs.takeWhile (· != '@'))), String.ofList name⟩
  | [] => ⟨none, text⟩

/-- The label, unless it is empty. -/
def branch? (i : Identifier) : Option String := i.label.filter (· != "")

/-- Whether the name stands for the last revision. -/
def isHead (name : String) : Bool := name == "head" || name == "heads"

/-- The ids that a name stands for, at most one. -/
def ids (name : String) : List String :=
  if isHead name then [headId] else if name = "base" then [] else [name]

/-- The ids of an identifier. A label has to name a branch when the head of it is asked for. -/
def resolve (i : Identifier) : Except Fault (List String) := do
  match i.branch? with
  | some label => if isHead i.name then (ids label).forM fun id => (find id).map fun _ => ()
  | none => pure ()
  return ids i.name

end Identifier

/-- Checks that targets are of the branch that a text names. Without targets nothing has to be known
of the branch. -/
def checkLineage (targets : List (Except Fault Spot)) (branch : String) : Except Fault Unit := do
  let i := Identifier.ofText branch
  let ids ← i.resolve
  let shares := i.branch?.toList ++ ids
  if !shares.isEmpty then
    targets.forM fun target => do
      let _ ← (← target).number
      shares.forM fun id => (find id).map fun _ => ()

/-- The spot of an id, or the base, in the branch of a label. -/
def spotOf (id : Option String) (label : Option String) : Except Fault Spot := do
  match label with
  | some label => checkBranch label
  | none => pure ()
  match id with
  | some id => return .revision (← find id)
  | none => return .base

/-- The spot that an identifier stands for. -/
def spot (text : String) : Except Fault Spot := do
  let i := Identifier.ofText text
  spotOf (← i.resolve).head? i.branch?

/-- The spots that an identifier stands for: none for the base, and for a negative number the spot
so many steps below the head. -/
def spots (text : String) : Except Fault (List Spot) := do
  let i := Identifier.ofText text
  match ← i.resolve with
  | [] => return []
  | id :: _ =>
    match Numeral.integer id.toList with
    | .ok n =>
      if n < 0 then
        if i.label.isSome then return []
        else return [← (Spot.revision head).walk n]
      else return [← spotOf (some id) i.branch?]
    | .error _ => return [← spotOf (some id) i.branch?]

/-- The spots of several identifiers, one after the other. -/
def allSpots (texts : List String) : Except Fault (List Spot) :=
  texts.foldlM (fun found text => do return found ++ (← spots text)) []

end TaskRules.Migration
