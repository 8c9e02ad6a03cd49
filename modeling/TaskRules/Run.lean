import TaskRules.Fault

/-!
Computations that read and change a state and can fail. What happened to the state before a failure
stays.
-/

namespace TaskRules

/-- A computation over states `σ`. -/
def Run (σ α : Type) : Type := σ → Except Fault α × σ

namespace Run

def done (a : α) : Run σ α := fun s => (.ok a, s)

def raise (e : Fault) : Run σ α := fun s => (.error e, s)

def andThen (x : Run σ α) (f : α → Run σ β) : Run σ β := fun s =>
  match x s with
  | (.ok a, s) => f a s
  | (.error e, s) => (.error e, s)

instance : Monad (Run σ) where
  pure := done
  bind := andThen

/-- The outcome itself, failures included. -/
def attempt (x : Run σ α) : Run σ (Except Fault α) := fun s =>
  let (r, s) := x s
  (.ok r, s)

def ofExcept (r : Except Fault α) : Run σ α := fun s => (r, s)

def read : Run σ σ := fun s => (.ok s, s)

def change (f : σ → σ) : Run σ Unit := fun s => (.ok (), f s)

/-- A computation on a part of the state. -/
def onPart (get : σ → τ) (set : σ → τ → σ) (x : Run τ α) : Run σ α := fun s =>
  let (r, t) := x (get s)
  (r, set s t)

/-- A computation on the first of two states. -/
def first (x : Run σ α) : Run (σ × τ) α := onPart Prod.fst (fun p s => (s, p.2)) x

end Run
end TaskRules
