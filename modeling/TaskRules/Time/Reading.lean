import TaskRules.Time.Timestamp
import TaskRules.Number.Numeral
import TaskRules.Number.Word
import TaskRules.Json.Basic
import TaskRules.Json.Reader
import TaskRules.Text.Point

/-!
Reading dates and timestamps. A text is a full timestamp (`YYYY-MM-DD`, one of `T t _` or a space,
`HH:MM`, seconds, a fraction, `Z` or a distance), a number, or a bare date. Numbers are seconds
since 1970 in UTC, or milliseconds when beyond 2·10¹⁰.
-/

namespace TaskRules

/-- Why a value is no timestamp. -/
inductive TimeFault where
  | tooShort
  | badYear
  | badMonth
  | badDay
  | badSeparator
  | monthRange
  | dayRange
  | extra
  | tooLarge
  | tooSmall
  | yearZero
  | notANumber
  deriving DecidableEq

namespace TimeFault

def reason : TimeFault → String
  | .tooShort => "input is too short"
  | .badYear => "invalid character in year"
  | .badMonth => "invalid character in month"
  | .badDay => "invalid character in day"
  | .badSeparator => "invalid date separator, expected \x60-\x60"
  | .monthRange => "month value is outside expected range of 1-12"
  | .dayRange => "day value is outside expected range"
  | .extra => "unexpected extra characters at the end of the input"
  | .tooLarge => "dates after 9999 are not supported as unix timestamps"
  | .tooSmall => "dates before 0000 are not supported as unix timestamps"
  | .yearZero => "year 0 is out of range"
  | .notANumber => "NaN values not permitted"

end TimeFault

namespace Timestamp

def digit? (c : Char) : Option Nat :=
  if Json.isAsciiDigit c then some (c.toNat - 48) else none

def two? (a b : Char) : Option Nat := do
  return (← digit? a) * 10 + (← digit? b)

/-- The date at the start of a text and the rest. The length counts bytes of the text. -/
def readDate (cs : List Char) : Except TimeFault (Date × List Char) :=
  if (Text.utf8 cs).length < 10 then .error .tooShort
  else
    match cs with
    | y1 :: y2 :: y3 :: y4 :: rest =>
      match two? y1 y2, two? y3 y4 with
      | some high, some low =>
        match rest with
        | '-' :: m1 :: m2 :: rest =>
          match two? m1 m2 with
          | some month =>
            match rest with
            | '-' :: d1 :: d2 :: rest =>
              match two? d1 d2 with
              | some day =>
                let year := high * 100 + low
                if month = 0 ∨ month > 12 then .error .monthRange
                else if day = 0 ∨ day > Date.monthLength year month then .error .dayRange
                else .ok (⟨year, month, day⟩, rest)
              | none => .error .badDay
            | '-' :: _ => .error .badDay
            | _ => .error .badSeparator
          | none => .error .badMonth
        | '-' :: _ => .error .badMonth
        | _ => .error .badSeparator
      | _, _ => .error .badYear
    | _ => .error .badYear

/-- Six digits of a fraction; further ones are dropped. -/
def fractionMicros (digits : List Char) : Nat :=
  Json.natOf ((digits ++ List.replicate 6 '0').take 6)

/-- Seconds and microseconds, if a colon follows, and the rest. -/
def readSeconds? (cs : List Char) : Option (Nat × Nat × List Char) :=
  match cs with
  | ':' :: s1 :: s2 :: rest => do
    let second ← two? s1 s2
    if second > 59 then none
    else
      match rest with
      | c :: rest =>
        if c = '.' ∨ c = ',' then
          let digits := rest.takeWhile Json.isAsciiDigit
          if digits.isEmpty then none
          else some (second, fractionMicros digits, rest.dropWhile Json.isAsciiDigit)
        else some (second, 0, c :: rest)
      | [] => some (second, 0, [])
  | ':' :: _ => none
  | _ => some (0, 0, cs)

/-- The distance from UTC that ends a text. -/
def readAhead? (cs : List Char) : Option (Option Int) :=
  let distance (negative : Bool) (body : List Char) : Option (Option Int) := do
    let (h, m) ← match body with
      | [h1, h2, ':', m1, m2] => (two? h1 h2).bind fun h => (two? m1 m2).map (h, ·)
      | [h1, h2, m1, m2] => (two? h1 h2).bind fun h => (two? m1 m2).map (h, ·)
      | _ => none
    if m > 59 ∨ h > 23 then none
    else
      let n : Int := (h * 3600 + m * 60) * 1000000
      some (some (if negative then -n else n))
  match cs with
  | [] => some none
  | ['Z'] => some (some 0)
  | ['z'] => some (some 0)
  | '+' :: body => distance false body
  | '-' :: body => distance true body
  | c :: body => if c = Char.ofNat 0x2212 then distance true body else none

/-- The time of day, and the distance from UTC, after a date. -/
def readTime? (d : Date) (cs : List Char) : Option Timestamp :=
  match cs with
  | sep :: h1 :: h2 :: ':' :: m1 :: m2 :: rest => do
    if !(sep = 'T' ∨ sep = 't' ∨ sep = ' ' ∨ sep = '_') then none
    else
      let hour ← two? h1 h2
      let minute ← two? m1 m2
      let (second, micro, rest) ← readSeconds? rest
      let ahead ← readAhead? rest
      if hour > 23 ∨ minute > 59 then none
      else some ⟨⟨d, hour, minute, second, micro⟩, ahead⟩
  | _ => none

/-- Seconds from day 0 to 1970. -/
def epoch : Int := 719163 * 86400

/-- The timestamp of seconds and microseconds since 1970, in UTC. Year 0 can be named but is no
date. -/
def ofUnix (seconds : Int) (micro : Nat) : Except TimeFault Timestamp :=
  let seconds := seconds + micro / 1000000
  let micro := micro % 1000000
  if seconds < -62167219200 then .error .tooSmall
  else if seconds > 253402300799 then .error .tooLarge
  else
    let fromZero := seconds + epoch
    if fromZero < 86400 then .error .yearZero
    else .ok ⟨Moment.ofMicros (fromZero.toNat * 1000000 + micro), some 0⟩

/-- Beyond this many, whole seconds are taken for milliseconds. -/
def watershed : Nat := 20000000000

/-- The timestamp of a whole number, with further microseconds. -/
def ofWhole (n : Int) (micro : Nat) : Except TimeFault Timestamp :=
  if n.natAbs ≤ watershed then ofUnix n micro
  else ofUnix (n.fdiv 1000) ((n.fmod 1000).toNat * 1000 + micro)

/-- The whole number at or below a count of steps, kept within 64 bits. -/
def floorSteps (n : Int) : Int :=
  let w := n.fdiv Double.one
  if w > Word.largest then Word.largest else if w < Word.smallest then Word.smallest else w

/-- `x` rounded to a whole number, a half going away from zero. -/
def roundHalfUp (x : Double) : Nat :=
  match x.steps? with
  | some n => ((2 * n + Double.one).fdiv (2 * Double.one)).toNat
  | none => 0

def thousand : Double := .ofInt 1000

def million : Double := .ofInt 1000000

/-- The timestamp of a double. Its fraction, counted up from the whole number at or below it, is
rounded to microseconds before seconds are told from milliseconds. -/
def ofDouble (x : Double) : Except TimeFault Timestamp :=
  match x with
  | .nan => .error .notANumber
  | .infinite negative => .error (if negative then .tooSmall else .tooLarge)
  | .finite .. =>
    let whole := floorSteps x.rank
    let fraction := x.sub (.ofInt whole)
    if whole ≤ Word.smallest then .error .tooSmall
    else if whole ≥ Word.largest then .error .tooLarge
    else if x.rank.natAbs ≤ watershed * Double.one then
      ofUnix whole (roundHalfUp (fraction.mul million))
    else
      ofUnix (whole.fdiv 1000)
        ((whole.fmod 1000).toNat * 1000 + roundHalfUp (fraction.mul thousand))

/-- A number that a text writes: a sign and digits, and for a double a point among them, after
which an exponent may follow. -/
inductive PlainNumber where
  | whole (n : Int)
  | double (x : Double)

def plainNumber? (cs : List Char) : Option PlainNumber :=
  let (negative, body) := Numeral.sign cs
  let whole := body.takeWhile Json.isAsciiDigit
  match body.dropWhile Json.isAsciiDigit with
  | [] =>
    let n : Int := Json.natOf whole
    if whole.isEmpty ∨ n > Word.largest then none else some (.whole (if negative then -n else n))
  | '.' :: rest =>
    let places := rest.takeWhile Json.isAsciiDigit
    match Json.exponent? (rest.dropWhile Json.isAsciiDigit) with
    | (power, []) =>
      if whole.isEmpty ∧ places.isEmpty then none
      else
        some (.double (.ofDecimal negative (Json.natOf (whole ++ places))
          (power.getD 0 - places.length)))
    | _ => none
  | _ => none

/-- Why a text that is no timestamp is no date either, for a text that is no date. -/
def dateFault (cs : List Char) : TimeFault :=
  match plainNumber? cs with
  | some (.whole n) => if n < 0 then .tooSmall else .tooLarge
  | _ =>
    match readDate cs with
    | .error fault => fault
    | .ok _ => .extra

/-- What reading a text found: a timestamp, or the fault of the timestamp or of the date that the
text was tried as last. -/
def ofText (cs : List Char) : Except TimeFault Timestamp :=
  let full : Option Timestamp :=
    match readDate cs with
    | .ok (d, rest) => readTime? d rest
    | .error _ => none
  match full with
  | some t => if t.wall.date.year = 0 then .error .yearZero else .ok t
  | none =>
    let number : Option (Except TimeFault Timestamp) :=
      match plainNumber? cs with
      | some (.whole n) => some (ofWhole n 0)
      | some (.double x) => some (ofDouble x)
      | none => none
    match number with
    | some (.ok t) => .ok t
    | some (.error .yearZero) => .error .yearZero
    | _ =>
      match readDate cs with
      | .ok (d, []) => if d.year = 0 then .error .yearZero else .ok (plain (.midnight d))
      | _ => .error (dateFault cs)

end Timestamp

/-- A bare ISO date of ten characters: `YYYY-MM-DD`, `YYYY-Www-D`, or either without hyphens,
where what follows the eight characters is not looked at. -/
def Date.ofTen? (cs : List Char) : Option Date :=
  if cs.any fun c => decide (c.toNat ≥ 128) then none
  else
    match cs with
    | y1 :: y2 :: y3 :: y4 :: rest => do
      let year := (← Timestamp.two? y1 y2) * 100 + (← Timestamp.two? y3 y4)
      match rest with
      | ['-', 'W', w1, w2, '-', d] =>
        ofWeek? year (← Timestamp.two? w1 w2) (← Timestamp.digit? d)
      | ['W', w1, w2, d, _, _] => ofWeek? year (← Timestamp.two? w1 w2) (← Timestamp.digit? d)
      | ['-', m1, m2, '-', d1, d2] =>
        let date : Date := ⟨year, ← Timestamp.two? m1 m2, ← Timestamp.two? d1 d2⟩
        if date.valid then some date else none
      | [m1, m2, d1, d2, _, _] =>
        let date : Date := ⟨year, ← Timestamp.two? m1 m2, ← Timestamp.two? d1 d2⟩
        if date.valid then some date else none
      | _ => none
    | _ => none

end TaskRules
