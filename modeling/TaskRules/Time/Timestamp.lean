import TaskRules.Time.Calendar
import TaskRules.Number.Written

/-!
Timestamps, a wall-clock moment with its distance from UTC when that is known, and their ISO text:
microseconds as six digits when there are any, the distance as hours and minutes.
-/

namespace TaskRules

/-- A number in at least `width` digits. -/
def padded (width n : Nat) : List Char :=
  let digits := Nat.toDigits 10 n
  List.replicate (width - digits.length) '0' ++ digits

def Date.chars (d : Date) : List Char :=
  padded 4 d.year ++ '-' :: (padded 2 d.month ++ '-' :: padded 2 d.day)

/-- The text of a moment with a given character between date and time. -/
def Moment.charsWith (sep : Char) (m : Moment) : List Char :=
  m.date.chars ++ sep :: (padded 2 m.hour ++ ':' :: (padded 2 m.minute ++ ':' :: padded 2 m.second))
    ++ (if m.micro = 0 then [] else '.' :: padded 6 m.micro)

/-- The ISO text of a moment. -/
def Moment.iso (m : Moment) : String := String.ofList (m.charsWith 'T')

/-- A moment and, when known, the microseconds by which its wall clock is ahead of UTC. -/
structure Timestamp where
  wall : Moment
  ahead : Option Int
  deriving DecidableEq

namespace Timestamp

def plain (m : Moment) : Timestamp := ⟨m, none⟩

/-- A distance from UTC as `+HH:MM`, with seconds and a fraction when there are any. -/
def aheadChars (n : Int) : List Char :=
  let micros := n.natAbs % 1000000
  let seconds := n.natAbs / 1000000
  (if n < 0 then '-' else '+') ::
    (padded 2 (seconds / 3600) ++ ':' :: padded 2 (seconds / 60 % 60)) ++
    (if seconds % 60 = 0 ∧ micros = 0 then [] else ':' :: padded 2 (seconds % 60)) ++
    (if micros = 0 then [] else '.' :: padded 6 micros)

/-- The ISO text. -/
def iso (t : Timestamp) : String :=
  match t.ahead with
  | none => t.wall.iso
  | some n => t.wall.iso ++ String.ofList (aheadChars n)

/-- The ISO text in which UTC itself is written `Z`. -/
def isoZ (t : Timestamp) : String :=
  match t.ahead with
  | some 0 => t.wall.iso ++ "Z"
  | _ => t.iso

/-- The instant in microseconds, for a timestamp whose distance from UTC is known. -/
def instant? (t : Timestamp) : Option Int :=
  t.ahead.map fun n => (t.wall.micros : Int) - n

end Timestamp
end TaskRules
