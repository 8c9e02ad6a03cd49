import TaskRules.Json.Basic
import TaskRules.Json.Reader
import TaskRules.Time.Reading

/-!
Reading typed fields from JSON values. A check takes what can be read as the wanted type without
loss and otherwise reports problems; the problems of all fields of a form are reported together, in
the order of its fields, each with the place it was found at.
-/

namespace TaskRules.Schema

/-- A step to a place inside a form. -/
inductive Step where
  | name (s : String)
  | index (n : Nat)
  deriving DecidableEq

/-- What is wrong at a place. -/
inductive Defect where
  | missing
  | notText
  /-- The text has a lone half. -/
  | notUnicode
  | textTooShort
  | notList
  | notObject
  | notForm (form : String)
  | notFormBody
  | notFlag
  | unreadableFlag
  | notWhole
  | unreadableWhole
  | fractional
  | wholeTooLarge
  | notFinite
  | notNumber
  | unreadableNumber
  | below (bound : Int)
  | notOneOf (names : List String)
  | notTime
  | badTime (fault : TimeFault)
  | badDate (fault : TimeFault)
  | unreadableBody
  | refused (reason : String)
  deriving DecidableEq

namespace Defect

/-- The code of the kind of defect. -/
def code : Defect → String
  | .missing => "missing"
  | .notText => "string_type"
  | .notUnicode => "string_unicode"
  | .textTooShort => "string_too_short"
  | .notList => "list_type"
  | .notObject => "dict_type"
  | .notForm _ => "model_type"
  | .notFormBody => "model_attributes_type"
  | .notFlag => "bool_type"
  | .unreadableFlag => "bool_parsing"
  | .notWhole => "int_type"
  | .unreadableWhole => "int_parsing"
  | .fractional => "int_from_float"
  | .wholeTooLarge => "int_parsing_size"
  | .notFinite => "finite_number"
  | .notNumber => "float_type"
  | .unreadableNumber => "float_parsing"
  | .below _ => "greater_than_equal"
  | .notOneOf _ => "enum"
  | .notTime => "datetime_type"
  | .badTime _ => "datetime_parsing"
  | .badDate _ => "datetime_from_date_parsing"
  | .unreadableBody => "json_invalid"
  | .refused _ => "value_error"

/-- Quoted names, the last two joined by "or". -/
def alternatives : List String → String
  | [] => ""
  | [a] => "'" ++ a ++ "'"
  | [a, b] => "'" ++ a ++ "' or '" ++ b ++ "'"
  | a :: rest => "'" ++ a ++ "', " ++ alternatives rest

def message : Defect → String
  | .missing => "Field required"
  | .notText => "Input should be a valid string"
  | .notUnicode => "Input should be a valid string, unable to parse raw data as a unicode string"
  | .textTooShort => "String should have at least 1 character"
  | .notList => "Input should be a valid list"
  | .notObject => "Input should be a valid dictionary"
  | .notForm form => "Input should be a valid dictionary or instance of " ++ form
  | .notFormBody => "Input should be a valid dictionary or object to extract fields from"
  | .notFlag => "Input should be a valid boolean"
  | .unreadableFlag => "Input should be a valid boolean, unable to interpret input"
  | .notWhole => "Input should be a valid integer"
  | .unreadableWhole =>
    "Input should be a valid integer, unable to parse string as an integer"
  | .fractional => "Input should be a valid integer, got a number with a fractional part"
  | .wholeTooLarge => "Unable to parse input string as an integer, exceeded maximum size"
  | .notFinite => "Input should be a finite number"
  | .notNumber => "Input should be a valid number"
  | .unreadableNumber => "Input should be a valid number, unable to parse string as a number"
  | .below bound => "Input should be greater than or equal to " ++ decimal bound
  | .notOneOf names => "Input should be " ++ alternatives names
  | .notTime => "Input should be a valid datetime"
  | .badTime fault => "Input should be a valid datetime, " ++ fault.reason
  | .badDate fault => "Input should be a valid datetime or date, " ++ fault.reason
  | .unreadableBody => "JSON decode error"
  | .refused reason => "Value error, " ++ reason

end Defect

structure Problem where
  place : List Step
  defect : Defect
  deriving DecidableEq

/-- The place in words: its steps joined by dots. -/
def placeText (place : List Step) : String :=
  Text.join "." (place.map fun
    | .name s => s
    | .index n => decimal n)

/-- A problem in words, after its place if it has one. -/
def Problem.text (p : Problem) : String :=
  match p.place with
  | [] => p.defect.message
  | place => placeText place ++ ": " ++ p.defect.message

def Step.toJson : Step → Json
  | .name s => .str s
  | .index n => .int n

def Problem.toJson (p : Problem) : Json :=
  .obj [("loc", .arr (p.place.map Step.toJson)), ("type", .str p.defect.code),
    ("msg", .str p.defect.message)]

/-- All problems in words. -/
def describe (problems : List Problem) : String :=
  Text.join "; " (problems.map Problem.text)

/-- A value, or the problems that were found instead. -/
abbrev Checked (α : Type) := Except (List Problem) α

namespace Checked

/-- A defect at the place itself. -/
def fail (d : Defect) : Checked α := .error [⟨[], d⟩]

/-- Applies a checked function, keeping the problems of both sides in order. -/
def and (f : Checked (α → β)) (x : Checked α) : Checked β :=
  match f, x with
  | .ok f, .ok a => .ok (f a)
  | .ok _, .error problems => .error problems
  | .error problems, .ok _ => .error problems
  | .error first, .error second => .error (first ++ second)

/-- Moves all problems below a step. -/
def under (step : Step) : Checked α → Checked α
  | .ok a => .ok a
  | .error problems => .error (problems.map fun p => { p with place := step :: p.place })

/-- A further check of a value. -/
def also (x : Checked α) (f : α → Checked β) : Checked β :=
  match x with
  | .ok a => f a
  | .error problems => .error problems

end Checked

/-! ## Checks of single values -/

def text : Json → Checked String
  | .str s => .ok s
  | _ => .fail .notText

/-- A text that something is asked of. It is looked into, and so has to be without lone halves. -/
def unicode (s : String) : Checked String :=
  if Text.isWhole s.toList then .ok s else .fail .notUnicode

/-- A text that is not empty. -/
def filledText (v : Json) : Checked String :=
  ((text v).also unicode).also fun s => if s = "" then .fail .textTooShort else .ok s

/-- Null, or what the check reads. -/
def nullable (check : Json → Checked α) : Json → Checked (Option α)
  | .null => .ok none
  | v => (check v).also fun a => .ok (some a)

/-- The items of a list from position `n` on. -/
def itemsFrom (check : Json → Checked α) : Nat → List Json → Checked (List α)
  | _, [] => .ok []
  | n, v :: rest =>
    (Checked.and (.ok List.cons) ((check v).under (.index n))).and (itemsFrom check (n + 1) rest)

def list (check : Json → Checked α) : Json → Checked (List α)
  | .arr items => itemsFrom check 0 items
  | _ => .fail .notList

def object : Json → Checked Json.Fields
  | .obj fields => .ok fields
  | _ => .fail .notObject

def oneOf (names : List String) : Json → Checked String
  | .str s =>
    (unicode s).also fun s => if names.contains s then .ok s else .fail (.notOneOf names)
  | _ => .fail (.notOneOf names)

def falseWords : List String := ["0", "off", "f", "false", "n", "no"]

def trueWords : List String := ["1", "on", "t", "true", "y", "yes"]

def flag : Json → Checked Bool
  | .bool b => .ok b
  | .int n =>
    if n = 0 then .ok false
    else if n = 1 then .ok true
    else if Word.fits n then .fail .unreadableFlag
    else .fail .notFlag
  | .double x =>
    if x.eqInt 0 then .ok false else if x.eqInt 1 then .ok true else .fail .notFlag
  | .str s =>
    (unicode s).also fun s =>
      let word := String.ofList (s.toList.map Char.toLower)
      if falseWords.contains word then .ok false
      else if trueWords.contains word then .ok true
      else .fail .unreadableFlag
  | _ => .fail .notFlag

/-- What a text says about an integer. -/
inductive WholeReading where
  | value (n : Int)
  | tooLong
  | none

/-- An integer written plainly: a minus or none, and ASCII digits without leading zeros. The limit
on its length counts the minus. -/
def plainWhole (cs : List Char) : WholeReading :=
  let (negative, body) :=
    match cs with
    | '-' :: rest => (true, rest)
    | _ => (false, cs)
  let digits := body.takeWhile Json.isAsciiDigit
  let rest := body.dropWhile Json.isAsciiDigit
  let signed (n : Int) : Int := if negative then -n else n
  match digits with
  | [] => .none
  | '0' :: more => if more.isEmpty && rest.isEmpty then .value 0 else .none
  | _ =>
    if digits.length + (if negative then 1 else 0) > longestNumeral then .tooLong
    else if rest.isEmpty then .value (signed (Json.natOf digits))
    else .none

/-- The text after its first zero without further leading zeros, among which underscores may stand.
A zero is kept before a point, and the last character is kept in any case. -/
def afterZero? (previous : Char) : List Char → Option (List Char)
  | [] => some [previous]
  | c :: rest =>
    if c = '0' ∨ c = '_' then afterZero? c rest
    else if Json.isAsciiDigit c ∨ c = '-' then some (c :: rest)
    else if c = '.' then some (previous :: c :: rest)
    else none

/-- The text without needless leading zeros; it has to start with a digit. -/
def withoutZeros? (cs : List Char) : Option (List Char) :=
  match cs with
  | [] => none
  | c :: rest =>
    if c = '0' then afterZero? c rest else if Json.isAsciiDigit c then some cs else none

/-- The text without a point that only zeros follow, at least one. -/
def withoutZeroPlaces (cs : List Char) : List Char :=
  let whole := cs.takeWhile (· != '.')
  let places := (cs.dropWhile (· != '.')).drop 1
  if !places.isEmpty && places.all (· == '0') then whole else cs

/-- The text without its underscores when they stand singly and inside. -/
def withoutUnderscores? (cs : List Char) : Option (List Char) :=
  let pieces := Text.splitAt '_' cs
  if pieces.length > 1 && pieces.all (!·.isEmpty) then some pieces.flatten else none

/-- Digits with all taken away that they may do without: leading zeros, zero decimals and
underscores, in this order. -/
def bareDigits? (cs : List Char) : Option (List Char) := do
  let cs := withoutZeroPlaces (← withoutZeros? cs)
  return (withoutUnderscores? cs).getD cs

/-- A text for an integer with blanks, a plus and what its digits may do without taken away. -/
def bareWhole? (cs : List Char) : Option (List Char) :=
  match Numeral.unpad cs with
  | '+' :: rest => bareDigits? rest
  | '-' :: rest => (bareDigits? rest).map ('-' :: ·)
  | cs => bareDigits? cs

/-- The integer that a text writes, plainly or with what may surround its digits. Only of a plain
one is it told that it is too long. -/
def wholeText (s : String) : Checked Int :=
  match plainWhole s.toList with
  | .value n => .ok n
  | .tooLong => .fail .wholeTooLarge
  | .none =>
    match (bareWhole? s.toList).map plainWhole with
    | some (.value n) => .ok n
    | _ => .fail .unreadableWhole

def whole : Json → Checked Int
  | .int n => .ok n
  | .bool b => .ok (if b then 1 else 0)
  | .double x =>
    if !x.isFinite then .fail .notFinite
    else
      match x.toInt? with
      | some n => if n != Word.smallest && Word.fits n then .ok n else .fail .wholeTooLarge
      | none => .fail .fractional
  | .str s => (unicode s).also wholeText
  | _ => .fail .notWhole

/-- The double that an ASCII text without underscores writes. -/
def asciiReal? (cs : List Char) : Option Double :=
  if cs.all fun c => decide (c.toNat < 128) && c != '_' then Numeral.real? cs else none

def numberText (s : String) : Checked Double :=
  match asciiReal? (Numeral.unpad s.toList) with
  | some x => .ok x
  | none =>
    match (withoutUnderscores? s.toList).bind fun cs =>
        if cs == Numeral.unpad cs then asciiReal? cs else none with
    | some x => .ok x
    | none => .fail .unreadableNumber

def number : Json → Checked Double
  | .double x => .ok x
  | .int n =>
    match Double.ofInt n with
    | .infinite _ => .fail .notNumber
    | x => .ok x
  | .bool b => .ok (.ofInt (if b then 1 else 0))
  | .str s => (unicode s).also numberText
  | _ => .fail .notNumber

/-- An integer of at least `bound`. -/
def wholeFrom (bound : Int) (v : Json) : Checked Int :=
  (whole v).also fun n => if n < bound then .fail (.below bound) else .ok n

/-- A number of at least `bound`. -/
def numberFrom (bound : Int) (v : Json) : Checked Double :=
  (number v).also fun x => if (Double.ofInt bound).le x then .ok x else .fail (.below bound)

def timestamp : Json → Checked Timestamp
  | .str s =>
    (unicode s).also fun s =>
      match Timestamp.ofText s.toList with
      | .ok t => .ok t
      | .error .yearZero => .fail (.badTime .yearZero)
      | .error fault => .fail (.badDate fault)
  | .int n =>
    match Double.ofInt n with
    | .infinite _ => .fail .notTime
    | _ =>
      match Timestamp.ofWhole n 0 with
      | .ok t => .ok t
      | .error fault => .fail (.badTime fault)
  | .double x =>
    match Timestamp.ofDouble x with
    | .ok t => .ok t
    | .error fault => .fail (.badTime fault)
  | _ => .fail .notTime

/-! ## Fields of a form -/

/-- The value under the first of some names that is there, with that name. -/
def find? (fields : Json.Fields) : List String → Option (String × Json)
  | [] => none
  | name :: rest =>
    match Json.Fields.get? fields name with
    | some v => some (name, v)
    | none => find? fields rest

/-- A field that has to be there under one of its names. -/
def required (fields : Json.Fields) (names : List String) (check : Json → Checked α) :
    Checked α :=
  match find? fields names with
  | some (name, v) => (check v).under (.name name)
  | none => .error [⟨[.name (names.headD "")], .missing⟩]

/-- A field with a default. -/
def optional (fields : Json.Fields) (names : List String) (default : α)
    (check : Json → Checked α) : Checked α :=
  match find? fields names with
  | some (name, v) => (check v).under (.name name)
  | none => .ok default

/-- The fields of a form; other values than objects are reported with its name. -/
def formFields (form : String) : Json → Checked Json.Fields
  | .obj fields => .ok fields
  | _ => .fail (.notForm form)

/-- The fields of a form that is also read off stored records; other values than objects are
reported without its name. -/
def recordFields : Json → Checked Json.Fields
  | .obj fields => .ok fields
  | _ => .fail .notFormBody

end TaskRules.Schema
