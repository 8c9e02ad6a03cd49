import TaskRules.Number.Written
import TaskRules.Text.Quoted
import TaskRules.Time.Reading

/-!
Reading timestamps of ISO 8601, in its extended and its basic form: a date of the calendar or of a
week, and perhaps any one character and a time of day, of which all but the hours may be left out,
with a distance from UTC. Of a fraction of a second six digits count.
-/

namespace TaskRules

/-- Why a text is no timestamp of ISO 8601. -/
inductive IsoFault where
  | malformed (text : String)
  | year (n : Nat)
  | month
  | day
  | hour
  | minute
  | second
  /-- A distance from UTC of a day or more, in microseconds. -/
  | ahead (micros : Int)

namespace IsoFault

/-- A span of time by its days and by the seconds and microseconds left over. -/
def span (micros : Int) : String :=
  let part (name : String) (n : Int) : List String :=
    if n = 0 then [] else [name ++ "=" ++ decimal n]
  let seconds := micros.fdiv 1000000
  "datetime.timedelta(" ++
    Text.join ", " (part "days" (seconds.fdiv 86400) ++ part "seconds" (seconds.fmod 86400) ++
      part "microseconds" (micros.fmod 1000000)) ++ ")"

def message : IsoFault → String
  | .malformed text => "Invalid isoformat string: " ++ String.ofList (Text.quoted text.toList)
  | .year n => "year " ++ decimal n ++ " is out of range"
  | .month => "month must be in 1..12"
  | .day => "day is out of range for month"
  | .hour => "hour must be in 0..23"
  | .minute => "minute must be in 0..59"
  | .second => "second must be in 0..59"
  | .ahead micros =>
    "offset must be a timedelta strictly between -timedelta(hours=24) and timedelta(hours=24), " ++
      "not " ++ span micros ++ "."

end IsoFault

namespace Iso

/-- So many digits at the start of a text, after those of `n`, and the rest. -/
def digits? : Nat → Nat → List Char → Option (Nat × List Char)
  | 0, n, cs => some (n, cs)
  | _ + 1, _, [] => none
  | count + 1, n, c :: rest =>
    (Timestamp.digit? c).bind fun d => digits? count (10 * n + d) rest

/-! ## Dates -/

/-- The length of the date at the start of a text. A week is taken to be without its day where the
digits after it can only be those of a time. -/
def dateLength (cs : List Char) : Nat :=
  let isDigitAt (i : Nat) : Bool := (cs[i]?).any Json.isAsciiDigit
  if cs.length = 7 then 7
  else if cs[4]? = some '-' then
    if cs[5]? = some 'W' then (if cs[8]? = some '-' && !isDigitAt 10 then 10 else 8) else 10
  else if cs[4]? = some 'W' then
    let ends := 7 + ((cs.drop 7).takeWhile Json.isAsciiDigit).length
    if ends < 9 then ends else if ends % 2 = 0 then 7 else 8
  else 8

/-- The day of a week: the first one when nothing follows the week. -/
def weekDay? (hyphen : Bool) (cs : List Char) : Option Nat :=
  match cs with
  | [] => some 1
  | c :: rest =>
    if hyphen then (if c = '-' then (digits? 1 0 rest).map (·.1) else none)
    else (digits? 1 0 (c :: rest)).map (·.1)

/-- The date that a text is; its month and its day may be none. -/
def date? (cs : List Char) : Option Date := do
  let (year, rest) ← digits? 4 0 cs
  let hyphen := rest.head? = some '-'
  let rest := if hyphen then rest.drop 1 else rest
  match rest with
  | 'W' :: rest =>
    let (week, rest) ← digits? 2 0 rest
    let day ← weekDay? hyphen rest
    if year = 0 then
      -- days before the calendar are of no month
      if week = 0 ∨ week > 52 ∨ day = 0 ∨ day > 7 then none else return ⟨1, 0, day⟩
    else return Date.ofOrdinal (← Date.weekOrdinal? year week day)
  | rest =>
    let (month, rest) ← digits? 2 0 rest
    if hyphen && rest.head? != some '-' then none
    let (day, _) ← digits? 2 0 (if hyphen then rest.drop 1 else rest)
    return ⟨year, month, day⟩

/-! ## Times of day -/

/-- A time of day in parts that may be none. -/
structure Clock where
  hour : Nat := 0
  minute : Nat := 0
  second : Nat := 0
  micro : Nat := 0

def Clock.ofParts (parts : List Nat) (micro : Nat) : Clock :=
  ⟨parts.getD 0 0, parts.getD 1 0, parts.getD 2 0, micro⟩

/-- The fraction at the start of a text, and whether it is followed by more, `next` being what
follows the text. -/
def fraction? (parts : List Nat) (next : Char) (cs : List Char) : Option (Clock × Bool) := do
  let count := min 6 cs.length
  let (n, rest) ← digits? count 0 cs
  let left := (rest.dropWhile Json.isAsciiDigit).headD next
  return (.ofParts parts (n * Nat.pow 10 (6 - count)), left != '\x00')

/-- Hours, minutes, seconds and a fraction, of which `count` parts are still to come, with colons
between all parts or none; and whether more follows. -/
def clock? (next : Char) : (count : Nat) → (colons : Bool) → List Nat → List Char →
    Option (Clock × Bool)
  | 0, _, parts, cs => fraction? parts next cs
  | count + 1, colons, parts, cs => do
    let (n, rest) ← digits? 2 0 cs
    let parts := parts ++ [n]
    match rest with
    | [] => return (.ofParts parts 0, next != '\x00')
    | [c] => return (.ofParts parts 0, c != '\x00')
    | c :: more =>
      let colons := if parts.length = 1 then c = ':' else colons
      if colons && c = ':' then clock? next count colons parts more
      else if c = '.' ∨ c = ',' then fraction? parts next more
      else if colons then none
      else clock? next count colons parts (c :: more)

def startsDistance (c : Char) : Bool := c = '+' || c = '-' || c = 'Z'

/-- The microseconds since midnight. -/
def Clock.micros (c : Clock) : Int :=
  ((c.hour * 3600 + c.minute * 60 + c.second) * 1000000 + c.micro : Nat)

/-- A time of day with a distance from UTC in microseconds, if it has one; less than a second is no
distance. -/
def time? (cs : List Char) : Option (Clock × Option Int) := do
  let clock := cs.takeWhile (!startsDistance ·)
  match cs.drop clock.length with
  | [] =>
    match ← clock? '\x00' 3 true [] clock with
    | (clock, false) => return (clock, none)
    | (_, true) => none
  | sign :: rest =>
    let (clock, _) ← clock? sign 3 true [] clock
    if sign = 'Z' then (if rest.headD '\x00' = '\x00' then return (clock, some 0) else none)
    else
      match ← clock? '\x00' 3 true [] rest with
      | (ahead, false) =>
        let distance := if ahead.micros < 1000000 then 0 else ahead.micros
        return (clock, some (if sign = '-' then -distance else distance))
      | (_, true) => none

/-- The bytes of a text, each as a character. -/
def bytesOf (points : List Nat) : List Char :=
  (Text.utf8 (Text.ofPoints points)).map fun b => Char.ofNat b.toNat

/-- The time of day after a date: midnight at the end of the text, or a time after any one
character. -/
def timeAfter? (points : List Nat) : Option (Clock × Option Int) :=
  match points with
  | [] => some ({}, none)
  | _ :: rest => if rest.any Text.isHalf then none else time? (bytesOf rest)

/-! ## Timestamps -/

/-- The timestamp of parts that have been read, if they name one. -/
def checked (d : Date) (c : Clock) (ahead : Option Int) : Except IsoFault Timestamp := do
  if let some n := ahead then
    if n.natAbs ≥ 86400000000 then throw (.ahead n)
  if d.year = 0 ∨ d.year > 9999 then throw (.year d.year)
  if d.month = 0 ∨ d.month > 12 then throw .month
  if d.day = 0 ∨ d.day > Date.monthLength d.year d.month then throw .day
  if c.hour > 23 then throw .hour
  if c.minute > 59 then throw .minute
  if c.second > 59 then throw .second
  return ⟨⟨d, c.hour, c.minute, c.second, c.micro⟩, ahead⟩

/-- The timestamp that a text is. -/
def read (text : String) : Except IsoFault Timestamp :=
  let points := Text.points text.toList
  let count := dateLength (points.map Char.ofNat)
  let parts := do
    let d ← date? ((points.take count).map Char.ofNat)
    let (clock, ahead) ← timeAfter? (points.drop count)
    return (d, clock, ahead)
  match parts with
  | some (d, clock, ahead) => checked d clock ahead
  | none => .error (.malformed text)

end Iso
end TaskRules
