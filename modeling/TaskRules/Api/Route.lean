import TaskRules.Text.Blank

/-!
The routes of the service. A path that ends in slashes and leads nowhere is sent on to the path
without them. A line feed may follow the word that ends a path.
-/

namespace TaskRules.Api

inductive Route where
  | health
  | rule (id : String)
  | enable (id : String)
  | disable (id : String)
  | executions (id : String)
  | run (id : String)
  deriving DecidableEq

/-- The one method of a route. -/
def Route.method : Route → String
  | .health => "GET"
  | .rule _ => "GET"
  | .enable _ => "POST"
  | .disable _ => "POST"
  | .executions _ => "GET"
  | .run _ => "POST"

/-- The word that ends a path. -/
def lastWord (cs : List Char) : String :=
  String.ofList (if cs.getLast? = some '\n' then cs.dropLast else cs)

/-- The route of a path that is cut at its slashes. -/
def routeOf? : List (List Char) → Option Route
  | [[], ['a', 'p', 'i'], ['v', '1'], area] =>
    if lastWord area = "health" then some .health else none
  | [[], ['a', 'p', 'i'], ['v', '1'], area, rules, id] =>
    if String.ofList area = "automation" ∧ String.ofList rules = "rules" ∧ id ≠ [] then
      some (.rule (String.ofList id))
    else none
  | [[], ['a', 'p', 'i'], ['v', '1'], area, rules, id, verb] =>
    if String.ofList area = "automation" ∧ String.ofList rules = "rules" ∧ id ≠ [] then
      match lastWord verb with
      | "enable" => some (.enable (String.ofList id))
      | "disable" => some (.disable (String.ofList id))
      | "executions" => some (.executions (String.ofList id))
      | "run" => some (.run (String.ofList id))
      | _ => none
    else none
  | _ => none

/-- The path without the slashes at its end. -/
def withoutSlashes (path : List Char) : List Char := (path.reverse.dropWhile (· == '/')).reverse

/-- The route of a path. -/
def route? (path : List Char) : Option Route := routeOf? (Text.splitAt '/' path)

end TaskRules.Api
