import TaskRules.Fault
import TaskRules.Text.Case
import TaskRules.Text.Percent

/-!
Names of database files. A name is a path, unless names are read as URIs: then one that starts with
`file:` is `file:path?parameters`, with percent signs decoded, and its parameters say how the file
is opened.
-/

namespace TaskRules.Migration

/-- Where a database is. -/
inductive Location where
  /-- In memory: a new one for every use. -/
  | memory
  /-- In a file, which may have to be there already. -/
  | file (path : String) (mustExist : Bool)
  deriving DecidableEq

namespace Location

/-- The database at a path. -/
def ofPath (path : String) : Location :=
  if path = "" ∨ path = ":memory:" then .memory else .file path false

/-- What a part of a URI stands for: percent signs are decoded, and a zero byte ends the part. -/
def uriPart (cs : List Char) : String :=
  String.ofList (Text.readable ((Text.unescaped (Text.utf8 cs)).takeWhile (· != 0)))

/-- The parameters of a URI; those without a name are left out. -/
def uriParameters (cs : List Char) : List (String × String) :=
  ((Text.splitAt '&' cs).map fun p =>
    (uriPart (p.takeWhile (· != '=')), uriPart ((p.dropWhile (· != '=')).drop 1))).filter
      fun p => p.1 != ""

/-- Whether a parameter with a fixed set of values has one of them. -/
def isKnown (name value : String) : Bool :=
  match name with
  | "mode" => ["ro", "rw", "rwc", "memory"].contains value
  | "cache" => ["shared", "private"].contains value
  | "vfs" => ["unix", "unix-none", "unix-dotfile", "unix-excl", "memdb"].contains value
  | _ => true

/-- Whether a parameter is switched on, by a word or by a number other than zero. -/
def isOn (value : String) : Bool :=
  let digits := value.toList.takeWhile Char.isDigit
  if digits.isEmpty then ["on", "yes", "true"].contains (String.ofList (Text.lower value.toList))
  else digits.any (· != '0')

/-- The authority of a URI, if it has one, and the rest. -/
def uriAuthority (cs : List Char) : List Char × List Char :=
  match cs with
  | '/' :: '/' :: rest => (rest.takeWhile (· != '/'), rest.dropWhile (· != '/'))
  | _ => ([], cs)

/-- The database that a URI names, without its scheme. The authority is this machine; what
can only be read cannot be worked on. -/
def ofUri (cs : List Char) : Except Fault Location := do
  let (authority, rest) := uriAuthority cs
  if !authority.isEmpty && authority != "localhost".toList then throw .database
  let rest := rest.takeWhile (· != '#')
  let path := uriPart (rest.takeWhile (· != '?'))
  let parameters := uriParameters ((rest.dropWhile (· != '?')).drop 1)
  if !parameters.all fun p => isKnown p.1 p.2 then throw .database
  let modes := (parameters.filter (·.1 == "mode")).map (·.2)
  if modes.contains "memory" || parameters.contains ("vfs", "memdb") then return .memory
  if modes.contains "ro" then throw .database
  match ofPath path with
  | .memory => return .memory
  | .file path _ =>
    if (parameters.find? (·.1 == "immutable")).any fun p => isOn p.2 then throw .database
    return .file path (modes.contains "rw")

/-- The database that a name stands for when names are read as URIs. -/
def ofName (name : String) : Except Fault Location :=
  match name.toList with
  | 'f' :: 'i' :: 'l' :: 'e' :: ':' :: rest => ofUri rest
  | _ => .ok (ofPath name)

/-- Checks that a name can be handed to the system, which takes no zero character and no half of a
surrogate pair but those that stand for single bytes. -/
def checkName (name : String) : Except Fault Unit :=
  let isByte (n : Nat) : Bool := decide (0xDC80 ≤ n) && decide (n ≤ 0xDCFF)
  if (Text.points name.toList).any fun n => Text.isHalf n && !isByte n then
    .error (.notEncodable name.toList)
  else if name.toList.contains '\x00' then .error (.ofForeign .value "embedded null byte")
  else .ok ()

end Location
end TaskRules.Migration
