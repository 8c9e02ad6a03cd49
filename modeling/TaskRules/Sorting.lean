/-!
Sorting by a comparison that can fail. Which items are compared, and so which failure is met,
follows from the way: the items are cut into runs that are in order already, or in reverse; a short
run is filled up with the items after it, each put in its place by halving; then the runs are merged.
-/

namespace TaskRules.Sorting

variable {α ε : Type}

/-- The items that go on with a run of which no item is below the one before, and the rest. The run
is given in reverse, its last item apart. -/
def ascending (less : α → α → Except ε Bool) (last : α) (run : List α) :
    List α → Except ε (List α × List α)
  | [] => .ok ((last :: run).reverse, [])
  | x :: rest => do
    if ← less x last then return ((last :: run).reverse, x :: rest)
    else ascending less x (last :: run) rest

/-- The items that go on with a run of which each item is below the one before, turned round, and
the rest. -/
def descending (less : α → α → Except ε Bool) (last : α) (run : List α) :
    List α → Except ε (List α × List α)
  | [] => .ok (last :: run, [])
  | x :: rest => do
    if ← less x last then descending less x (last :: run) rest
    else return (last :: run, x :: rest)

/-- The first run, in order, and the rest. -/
def firstRun (less : α → α → Except ε Bool) : List α → Except ε (List α × List α)
  | [] => .ok ([], [])
  | [x] => .ok ([x], [])
  | x :: y :: rest => do
    if ← less y x then descending less y [x] rest else ascending less y [x] rest

/-- The place for an item between two places of a sorted list, found by halving. -/
def placeFor (less : α → α → Except ε Bool) (x : α) (items : List α) :
    (fuel low high : Nat) → Except ε Nat
  | 0, low, _ => .ok low
  | fuel + 1, low, high =>
    if low < high then
      let middle := low + (high - low) / 2
      match items[middle]? with
      | none => .ok low
      | some y => do
        if ← less x y then placeFor less x items fuel low middle
        else placeFor less x items fuel (middle + 1) high
    else .ok low

/-- Puts items into a sorted list, one after the other. -/
def insertAll (less : α → α → Except ε Bool) : List α → List α → Except ε (List α)
  | items, [] => .ok items
  | items, x :: rest => do
    let i ← placeFor less x items (items.length + 1) 0 items.length
    insertAll less (items.take i ++ x :: items.drop i) rest

/-- The length that runs are filled up to: the leading six bits of a count, and one more if any bit
after them is set. -/
def leastRun (count rest : Nat) : Nat :=
  if count < 64 then count + rest else leastRun (count / 2) (max rest (count % 2))
  termination_by count
  decreasing_by omega

/-- The runs that items are cut into. `fuel` bounds their count. -/
def runs (less : α → α → Except ε Bool) (least : Nat) : Nat → List α → Except ε (List (List α))
  | 0, _ => .ok []
  | _, [] => .ok []
  | fuel + 1, items => do
    let (run, rest) ← firstRun less items
    let missing := least - run.length
    let run ← insertAll less run (rest.take missing)
    return run :: (← runs less least fuel (rest.drop missing))

/-- Two sorted lists as one; of items that are alike those of the first list come first. -/
def merge (less : α → α → Except ε Bool) : List α → List α → Except ε (List α)
  | [], items => .ok items
  | items, [] => .ok items
  | x :: xs, y :: ys => do
    if ← less y x then return y :: (← merge less (x :: xs) ys)
    else return x :: (← merge less xs (y :: ys))
  termination_by xs ys => xs.length + ys.length

/-- The items in order. -/
def sort (less : α → α → Except ε Bool) (items : List α) : Except ε (List α) := do
  let found ← runs less (leastRun items.length 0) (items.length + 1) items
  found.foldlM (merge less) []

end TaskRules.Sorting
