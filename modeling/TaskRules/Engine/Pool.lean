/-!
A pool of workers. What is submitted waits in a queue and is taken from its front by a worker that
is free; what was taken runs until it finishes. What still waits can be cancelled and is then never
taken; what runs cannot.
-/

namespace TaskRules.Engine

structure Pool where
  /-- How many have been submitted; the next one gets this number as its ticket. -/
  submitted : Nat := 0
  /-- The tickets of those that wait, in the order they came. -/
  waiting : List Nat := []
  /-- The tickets of those that workers have taken and not finished. -/
  running : List Nat := []

namespace Pool

/-- Puts one more into the queue and gives its ticket. -/
def submit (p : Pool) : Nat × Pool :=
  (p.submitted, { p with submitted := p.submitted + 1, waiting := p.waiting ++ [p.submitted] })

/-- A free worker, of so many in all, takes the first that waits. -/
def take? (workers : Nat) (p : Pool) : Option (Nat × Pool) :=
  match p.waiting with
  | [] => none
  | ticket :: rest =>
    if p.running.length < workers then
      some (ticket, { p with waiting := rest, running := p.running ++ [ticket] })
    else none

/-- Free workers take what waits, until no worker is free or nothing waits. At most `fuel` are
taken. -/
def takeUpTo (workers : Nat) : (fuel : Nat) → Pool → Pool
  | 0, p => p
  | fuel + 1, p =>
    match p.take? workers with
    | some (_, p) => takeUpTo workers fuel p
    | none => p

/-- Free workers take what waits. -/
def takeAll (workers : Nat) (p : Pool) : Pool := p.takeUpTo workers p.waiting.length

/-- A worker has finished one and is free again. -/
def finish (ticket : Nat) (p : Pool) : Pool := { p with running := p.running.filter (· != ticket) }

/-- Whether one was taken by a worker and has not finished. -/
def isRunning (ticket : Nat) (p : Pool) : Bool := p.running.contains ticket

/-- Cancels one if it still waits, and tells whether it did. -/
def cancel (ticket : Nat) (p : Pool) : Bool × Pool :=
  (p.waiting.contains ticket, { p with waiting := p.waiting.filter (· != ticket) })

end Pool
end TaskRules.Engine
