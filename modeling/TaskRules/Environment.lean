import TaskRules.Log
import TaskRules.Text.Case

/-!
Environment variables, and the kind of deployment they name.
-/

namespace TaskRules

/-- Variables and their values; the last value of a name counts. -/
structure Environment where
  values : List (String × String) := []

namespace Environment

def get? (e : Environment) (name : String) : Option String :=
  (e.values.reverse.find? (·.1 == name)).map (·.2)

/-- The value of the variable of that name in any case. -/
def getAnyCase? (e : Environment) (name : String) : Option String :=
  (e.values.reverse.find? fun p => String.ofList (Text.lower p.1.toList) == name).map (·.2)

/-- A value that is there and not empty. -/
def filled? (e : Environment) (name : String) : Option String := (e.get? name).filter (· != "")

def development : String := "dev"

def production : String := "prod"

/-- The kind of deployment, and a warning when the variable names none. -/
def deployment (e : Environment) : String × List Log.Record :=
  let raw := ((e.filled? "LINXIO_ENV") <|> (e.filled? "APP_ENV")).getD development
  let word := String.ofList (Text.lower (Text.trim raw.toList))
  if word = development ∨ word = production then (word, [])
  else
    (development,
      [Log.warning "config" ("Unknown LINXIO_ENV=" ++ raw ++ "; defaulting to dev")])

end Environment
end TaskRules
