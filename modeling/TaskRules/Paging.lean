import TaskRules.Environment
import TaskRules.Json.Arithmetic

/-!
Pages of a listing. The size of a page is capped, by a variable of the environment or by a fallback,
so that no request can ask for everything at once.
-/

namespace TaskRules

structure Page where
  number : Int
  size : Int
  deriving DecidableEq

namespace Page

def fallbackCap : Int := 200

def capVariable : String := "API_MAX_PAGE_SIZE"

/-- The largest size of a page. A text of digits that is no numeral is a fault. -/
def cap (e : Environment) : Except NumeralFault Int :=
  let raw := Text.trim ((e.get? capVariable).getD "").toList
  if Text.allDigits raw then
    match Numeral.integer raw with
    | .ok n => .ok (if n < 1 then fallbackCap else n)
    | .error fault => .error fault
  else .ok fallbackCap

/-- The page asked for, with both numbers brought into range. -/
def within (cap number size : Int) : Page := ⟨max number 1, max 1 (min size cap)⟩

/-- How many items stand before the page. -/
def offset (p : Page) : Int := (p.number - 1) * p.size

/-- The headers that tell a client the page and the number of all items. -/
def headersOf (number size total : Json) : List (String × String) :=
  [("X-Page", number.display), ("X-Page-Size", size.display)] ++
    (if total.isNull then [] else [("X-Total-Count", total.display)])

def headers (p : Page) (total : Int) : List (String × String) :=
  headersOf (.int p.number) (.int p.size) (.int total)

end Page

/-- A page with its values as they were handed in, where they are in range. -/
structure PageAsked where
  number : Json
  size : Json
  offset : Json
  cap : Int

/-- The page asked for by values that have to be numbers. -/
def PageAsked.read (e : Environment) (number size : Json) : Except Fault PageAsked := do
  let number ← number.larger (.int 1)
  let cap ← (Page.cap e).mapError Fault.ofNumeral
  let size ← (Json.int 1).larger (← size.smaller (.int cap))
  match number.numeric?, size.numeric? with
  | some n, some s => return ⟨number, size, (← (← n.sub (.int 1)).mul s).toJson, cap⟩
  | _, _ => return ⟨number, size, .null, cap⟩
end TaskRules
