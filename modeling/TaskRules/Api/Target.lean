import TaskRules.Api.Host
import TaskRules.Fault
import TaskRules.Text.Percent

/-!
Where requests go. A request names a URL: a whole one, of which only the path and the query count,
or a part of one, whose path then starts at the root of the service. Segments of one and two dots
are taken out of the path. The path is percent-encoded twice over, the query once.
-/

namespace TaskRules.Api

structure Target where
  /-- The path, percent-encoded. -/
  path : List Char
  /-- The query, percent-encoded; an empty one is none. -/
  query : List Char := []

namespace Target

/-- The error of a text that is no URL. -/
def malformed : Fault := .foreign ⟨.badTarget, []⟩

/-- The longest URL, in characters. -/
def maxLength : Nat := 65536

def isControl (c : Char) : Bool := decide (c.toNat < 0x20) || c.toNat == 0x7F

/-! ## The parts of a URL -/

/-- The scheme, and what follows the colon after it. -/
def cutScheme (cs : List Char) : List Char × List Char :=
  let run := cs.takeWhile fun c => c.isAlphanum || "+-.".toList.contains c
  match run.head?.all Char.isAlpha, cs.drop run.length with
  | true, ':' :: rest => (run, rest)
  | _, _ => ([], cs)

/-- The authority, which two slashes announce, and what follows it. -/
def cutAuthority : List Char → List Char × List Char
  | '/' :: '/' :: rest =>
    let inside (c : Char) : Bool := !"/?#".toList.contains c
    (rest.takeWhile inside, rest.dropWhile inside)
  | cs => ([], cs)

/-- The path and the query of what follows the authority. -/
def ofReference (cs : List Char) : Target :=
  let cs := cs.takeWhile (· != '#')
  ⟨cs.takeWhile (· != '?'), (cs.dropWhile (· != '?')).drop 1⟩

/-! ## The authority -/

/-- The host of an authority without a user, and the text of its port. A host in brackets may hold
colons. -/
def hostAndPort (cs : List Char) : List Char × List Char :=
  let bracketed := (cs.reverse.dropWhile (· != ']')).reverse
  let host :=
    if cs.head? = some '[' && !bracketed.isEmpty then bracketed else cs.takeWhile (· != ':')
  match cs.drop host.length with
  | ':' :: port => (host, port)
  | port => (host, port)

/-- The port, unless it is that of the scheme. -/
def port? (scheme text : List Char) : Except Fault (Option Int) :=
  if text.isEmpty then .ok none
  else
    match Numeral.integer text with
    | .error _ => .error malformed
    | .ok n =>
      let usual :=
        if scheme = "http".toList ∨ scheme = "ws".toList then 80
        else if scheme = "https".toList ∨ scheme = "wss".toList then 443
        else -1
      .ok (if n = usual then none else some n)

/-- The schemes that requests are sent by. -/
def schemes : List (List Char) := ["http".toList, "https".toList]

/-- The schemes of connections that stay open. -/
def openSchemes : List (List Char) := ["ws".toList, "wss".toList]

/-! ## Reading -/

/-- The segments of a path, last one first, with segments of dots taken out. -/
def stepInto (segments : List (List Char)) (segment : List Char) : List (List Char) :=
  if segment = ['.'] then segments
  else if segment = ['.', '.'] then
    match segments with
    | [] => []
    | [[]] => [[]]
    | _ :: rest => rest
  else segment :: segments

/-- A path without segments of dots. -/
def withoutDots (path : List Char) : List Char :=
  (Text.join "/" (((Text.splitAt '/' path).foldl stepInto []).reverse.map String.ofList)).toList

/-- Where a URL leads, or a part of one. -/
def read (text : String) : Except Fault Target := do
  let cs := text.toList
  if Text.size cs > maxLength || cs.any isControl then throw malformed
  let (scheme, rest) := cutScheme cs
  let scheme := scheme.map Char.toLower
  let (authority, rest) := cutAuthority rest
  let user := (authority.reverse.dropWhile (· != '@')).reverse
  let (host, portText) := hostAndPort (authority.drop user.length)
  if !Host.isValid host then throw malformed
  let port ← port? scheme portText
  let t := ofReference rest
  if scheme.isEmpty && user.length ≤ 1 && host.isEmpty && port.isNone then
    match t.path with
    | '/' :: '/' :: _ => throw malformed
    | ':' :: _ => throw malformed
    | _ => pure ()
  if scheme.isEmpty || host.isEmpty then
    return { t with path := withoutDots ('/' :: t.path.dropWhile (· == '/')) }
  else if openSchemes.contains scheme then throw (.foreign ⟨.staysOpen, []⟩)
  else if !schemes.contains scheme then
    throw (.foreign ⟨.key, [.str (String.ofList scheme)]⟩)
  else return { t with path := withoutDots t.path }

/-- The path in plain text. -/
def plainPath (t : Target) : List Char :=
  match Text.decoded (Text.decoded t.path) with
  | [] => ['/']
  | cs => cs

/-- The parameters of the query, in order. -/
def parameters (t : Target) : List (String × String) :=
  (Text.queryFields t.query).map fun p => (String.ofList p.1, String.ofList p.2)

/-- The value of a parameter. Of two of one name the last counts. -/
def parameter? (t : Target) (name : String) : Option String :=
  (t.parameters.reverse.find? (·.1 == name)).map (·.2)

/-- The target with another path, given in plain text, as a client is sent on to it. The path stands
as it is in the new URL, signs that have a meaning there included. -/
def sentOn (t : Target) (path : List Char) : Target :=
  let t := ofReference (path ++ (if t.query.isEmpty then [] else '?' :: t.query))
  { t with path := withoutDots t.path }

end Target
end TaskRules.Api
