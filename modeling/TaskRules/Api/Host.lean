import TaskRules.Number.Numeral
import TaskRules.Text.Alphanumeric
import TaskRules.Text.Case
import TaskRules.Text.HostLetter
import TaskRules.Text.Percent

/-!
Hosts of URLs: addresses of four numbers, addresses of eight groups of hexadecimal digits in
brackets, and names. Any name of ASCII characters is one; a name with others is of labels with
points between them, and each label has its rules.
-/

namespace TaskRules.Api.Host

/-! ## Addresses -/

/-- The places in a pattern of four runs of digits with a character between them. After an even
number of steps a digit is needed; after an odd one any further digit stays, and any character ends
the run, but the last run goes to the end. -/
def advance (places : List Nat) (c : Char) : List Nat :=
  (places.flatMap fun place =>
    if place % 2 = 0 then (if c.isDigit then [place + 1] else [])
    else (if c.isDigit then [place] else []) ++ (if place < 7 then [place + 1] else [])).eraseDups

/-- Whether a host looks like an address of four numbers: four runs of digits with any character
between each two. -/
def isNumbered (host : List Char) : Bool := (host.foldl advance [0]).contains 7

/-- Whether a number in an address is that of a byte, without leading zeros. -/
def isByte (digits : List Char) : Bool :=
  !digits.isEmpty && digits.all Char.isDigit && decide (digits.length ≤ 3) &&
    (digits.length == 1 || digits.head? != some '0') &&
    decide (Numeral.natOf (digits.filterMap Text.decimalValue?) < 256)

/-- Whether a host is an address of four bytes. -/
def isBytes (host : List Char) : Bool :=
  let pieces := Text.splitAt '.' host
  pieces.length == 4 && pieces.all isByte

/-- Whether a piece of an address is a group of one to four hexadecimal digits. -/
def isGroup (digits : List Char) : Bool :=
  !digits.isEmpty && decide (digits.length ≤ 4) && digits.all fun c => (Text.hexValue? c).isSome

/-- The pieces between the colons of an address; four bytes at its end stand for two groups. -/
def pieces? (address : List Char) : Option (List (List Char)) :=
  let pieces := Text.splitAt ':' address
  let last := pieces.getLastD []
  if pieces.length < 3 then none
  else if last.contains '.' then
    if isBytes last then some (pieces.dropLast ++ [['0'], ['0']]) else none
  else some pieces

/-- Whether a text is an address of eight groups, where one run of zero groups may be left out
between two colons. -/
def isGroups (address : List Char) : Bool :=
  match pieces? address with
  | none => false
  | some pieces =>
    let inner := (pieces.drop 1).dropLast
    let before := pieces.take ((inner.takeWhile (!·.isEmpty)).length + 1)
    let after := pieces.drop (before.length + 1)
    let outer (groups : List (List Char)) : Option (List (List Char)) :=
      if groups == [[]] then some [] else if groups.all isGroup then some groups else none
    match (inner.filter (·.isEmpty)).length with
    | 0 => pieces.length == 8 && pieces.all isGroup
    | 1 =>
      match outer before, outer after with
      | some before, some after => decide (before.length + after.length < 8)
      | _, _ => false
    | _ => false

/-- Whether the text between brackets is an address, perhaps with the name of a network after a
percent sign. -/
def isBracketed (inner : List Char) : Bool :=
  let address := inner.takeWhile (· != '%')
  match inner.drop address.length with
  | [] => isGroups address
  | _ :: network => !network.isEmpty && !network.contains '%' && isGroups address

/-! ## Names -/

/-- Characters that end a label: a point, and those that stand for one. -/
def isPoint (c : Char) : Bool := ['.', '。', '．', '｡'].contains c

/-- The labels of a name, less an empty one at the end. -/
def labels (name : List Char) : List (List Char) :=
  let pieces := Text.splitAt '.' (name.map fun c => if isPoint c then '.' else c)
  if pieces.getLast? = some [] then pieces.dropLast else pieces

/-- Digits of the scripts that are written from right to left, of which a label has one kind. -/
def easternDigits : List (Nat × Nat) := [(0x660, 0x669), (0x6F0, 0x6F9)]

/-- Whether a character may stand between its neighbours. -/
def fits (before : Option Char) (c : Char) (after : Option Char) : Bool :=
  Text.isHostLetter c || c = '-' || Text.inRanges easternDigits c ||
    (c.toNat == 0xB7 && before = some 'l' && after = some 'l')

/-- Whether each character of a label may stand where it is. -/
def allFit (before : Option Char) : List Char → Bool
  | [] => true
  | c :: rest => fits before c rest.head? && allFit (some c) rest

/-- Whether a character is a mark, which goes with the one before it. -/
def isMark (c : Char) : Bool :=
  decide (128 ≤ c.toNat) && Text.isHostLetter c && !Text.isAlphanumeric c

/-- The letters of the scripts that are written from right to left. -/
def isRightToLeft (c : Char) : Bool :=
  Text.isAlphanumeric c && !Text.inRanges easternDigits c &&
    Text.inRanges [(0x590, 0x8FF), (0xFB1D, 0xFDFF), (0xFE70, 0xFEFC), (0x10800, 0x10FFF),
      (0x1E800, 0x1EFFF)] c

/-- Whether the characters of a label run one way: where one is of a script from right to left, so
are all but digits and marks, the first among them. -/
def runsOneWay (label : List Char) : Bool :=
  !label.any (fun c => isRightToLeft c || Text.inRanges [(0x660, 0x669)] c) ||
    (label.head?.any isRightToLeft &&
      label.all (fun c => isRightToLeft c || Text.isDigit c || isMark c || c = '-') &&
      !((label.filter (!isMark ·)).getLast? = some '-'))

/-- The longest label. -/
def longestLabel : Nat := 63

/-- Whether a label of a name is well formed. It neither starts nor ends with a hyphen, has no two
of them at its third place, does not start with a mark, and has digits of one eastern kind at most.
-/
def isLabel (label : List Char) : Bool :=
  !label.isEmpty && decide (label.length ≤ longestLabel) &&
    label.head? != some '-' && label.getLast? != some '-' &&
    (label.drop 2).take 2 != ['-', '-'] && !label.head?.any isMark && allFit none label &&
    !(easternDigits.all fun r => label.any (Text.inRanges [r])) && runsOneWay label

/-- Whether a host can be one. -/
def isValid (host : List Char) : Bool :=
  if isNumbered host then isBytes host
  else if host.head? = some '[' && host.getLast? = some ']' && decide (2 ≤ host.length) then
    isBracketed (host.drop 1).dropLast
  else if host.all fun c => decide (c.toNat < 128) then true
  else (labels (Text.lower host)).all isLabel

end TaskRules.Api.Host
