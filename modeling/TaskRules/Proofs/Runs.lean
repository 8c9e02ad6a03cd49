import TaskRules.Run

/-!
How runs go on after a part of them, what they keep of the state, and runs over a state with a
second part beside it.

Proved:
- `bind_of_ok`, `bind_of_error`: a run goes on after a success, and ends with a failure.
- `ok_of_bind`, `Run.ok_of_bind`: what succeeds after a part of it, its part succeeded.
- `Keeps.bind`, `Keeps.attempt`: a run built from parts that keep a property keeps it.
- `Follows.bind`, `Follows.attempt`: a run built from parts that follow parts of another run
  follows that run.
-/

namespace TaskRules

theorem ok_of_bind {x : Except ε α} {f : α → Except ε β} {b : β} (h : x >>= f = .ok b) :
    ∃ a, x = .ok a ∧ f a = .ok b := by
  cases x with
  | error e => cases h
  | ok a => exact ⟨a, rfl, h⟩

theorem ok_of_toOption {x : Except ε α} {a : α} (h : x.toOption = some a) : x = .ok a := by
  cases x with
  | error e => cases h
  | ok b => rw [Option.some.inj h]

namespace Run

/-! ## Going on -/

theorem bind_of_ok {x : Run σ α} {s s' : σ} {a : α} (h : x s = (.ok a, s')) (f : α → Run σ β) :
    (x >>= f) s = f a s' := by
  show andThen x f s = f a s'
  rw [andThen, h]

theorem bind_of_error {x : Run σ α} {s s' : σ} {e : Fault} (h : x s = (.error e, s'))
    (f : α → Run σ β) : (x >>= f) s = (.error e, s') := by
  show andThen x f s = (.error e, s')
  rw [andThen, h]

/-- What succeeds after a part of it, its part succeeded. -/
theorem ok_of_bind {x : Run σ α} {f : α → Run σ β} {s s' : σ} {b : β}
    (h : (x >>= f) s = (.ok b, s')) : ∃ a s₁, x s = (.ok a, s₁) ∧ f a s₁ = (.ok b, s') := by
  rcases hx : x s with ⟨r, s₁⟩
  cases r with
  | ok a =>
    rw [bind_of_ok hx] at h
    exact ⟨a, s₁, rfl, h⟩
  | error e =>
    rw [bind_of_error hx] at h
    cases h

@[simp] theorem pure_apply (a : α) (s : σ) : (pure a : Run σ α) s = (.ok a, s) := rfl

@[simp] theorem raise_apply (e : Fault) (s : σ) : (raise e : Run σ α) s = (.error e, s) := rfl

@[simp] theorem ofExcept_apply (r : Except Fault α) (s : σ) : ofExcept r s = (r, s) := rfl

/-- A given result that is a success leaves the state alone. -/
theorem ok_of_ofExcept {r : Except Fault α} {s s' : σ} {a : α}
    (h : ofExcept r s = (.ok a, s')) : r = .ok a ∧ s = s' :=
  Prod.mk.inj h

@[simp] theorem attempt_apply (x : Run σ α) (s : σ) : attempt x s = (.ok (x s).1, (x s).2) := rfl

@[simp] theorem first_apply (x : Run σ α) (s : σ) (t : τ) :
    first x (s, t) = ((x s).1, ((x s).2, t)) := rfl

/-! ## Keeping -/

/-- A run that a property of the state survives, whether it fails or not. -/
structure Keeps (I : σ → Prop) (x : Run σ α) : Prop where
  state : ∀ s, I s → I (x s).2

namespace Keeps
variable {I : σ → Prop}

theorem ofPure (a : α) : Keeps I (pure a : Run σ α) := ⟨fun _ h => h⟩

theorem ofRaise (e : Fault) : Keeps I (raise e : Run σ α) := ⟨fun _ h => h⟩

theorem ofResult (r : Except Fault α) : Keeps I (ofExcept r) := ⟨fun _ h => h⟩

theorem bind {x : Run σ α} (hx : Keeps I x) {f : α → Run σ β} (hf : ∀ a, Keeps I (f a)) :
    Keeps I (x >>= f) := by
  constructor
  intro s h
  have hs := hx.state s h
  rcases hr : x s with ⟨r, s'⟩
  rw [hr] at hs
  cases r with
  | ok a =>
    rw [bind_of_ok hr]
    exact (hf a).state s' hs
  | error e =>
    rw [bind_of_error hr]
    exact hs

theorem attempt {x : Run σ α} (hx : Keeps I x) : Keeps I (Run.attempt x) := ⟨hx.state⟩

theorem forM {f : α → Run σ PUnit} (h : ∀ a, Keeps I (f a)) : ∀ l : List α, Keeps I (l.forM f)
  | [] => ofPure _
  | a :: rest => (h a).bind fun _ => forM h rest

end Keeps

/-! ## Noting -/

/-- A run on the first of two states whose answer is noted in the second. -/
def noting (note : Except Fault α → γ) (x : Run σ α) : Run (σ × List γ) α := fun s =>
  let (r, s') := x s.1
  (r, (s', s.2 ++ [note r]))

@[simp] theorem noting_apply (note : Except Fault α → γ) (x : Run σ α) (s : σ) (l : List γ) :
    noting note x (s, l) = ((x s).1, ((x s).2, l ++ [note (x s).1])) := rfl

/-! ## Following -/

/-- A run over two states that does on the first what another run does. -/
structure Follows (x : Run (σ × τ) α) (y : Run σ α) : Prop where
  answer : ∀ s t, (x (s, t)).1 = (y s).1
  state : ∀ s t, (x (s, t)).2.1 = (y s).2

namespace Follows

theorem ofPure (a : α) : Follows (pure a : Run (σ × τ) α) (pure a) :=
  ⟨fun _ _ => rfl, fun _ _ => rfl⟩

theorem ofRaise (e : Fault) : Follows (raise e : Run (σ × τ) α) (raise e) :=
  ⟨fun _ _ => rfl, fun _ _ => rfl⟩

theorem ofResult (r : Except Fault α) : Follows (ofExcept r : Run (σ × τ) α) (ofExcept r) :=
  ⟨fun _ _ => rfl, fun _ _ => rfl⟩

theorem ofFirst (x : Run σ α) : Follows (first x : Run (σ × τ) α) x :=
  ⟨fun _ _ => rfl, fun _ _ => rfl⟩

theorem bind {x : Run (σ × τ) α} {y : Run σ α} (h : Follows x y) {f : α → Run (σ × τ) β}
    {g : α → Run σ β} (hfg : ∀ a, Follows (f a) (g a)) : Follows (x >>= f) (y >>= g) := by
  have both : ∀ s t, ((x >>= f) (s, t)).1 = ((y >>= g) s).1 ∧
      ((x >>= f) (s, t)).2.1 = ((y >>= g) s).2 := by
    intro s t
    have h1 := h.answer s t
    have h2 := h.state s t
    rcases hx : x (s, t) with ⟨r, s', t'⟩
    rcases hy : y s with ⟨r', s''⟩
    simp only [hx, hy] at h1 h2
    subst h1 h2
    cases r with
    | ok a =>
      rw [bind_of_ok hx, bind_of_ok hy]
      exact ⟨(hfg a).answer s' t', (hfg a).state s' t'⟩
    | error e =>
      rw [bind_of_error hx, bind_of_error hy]
      exact ⟨rfl, rfl⟩
  exact ⟨fun s t => (both s t).1, fun s t => (both s t).2⟩

theorem attempt {x : Run (σ × τ) α} {y : Run σ α} (h : Follows x y) :
    Follows (Run.attempt x) (Run.attempt y) := by
  constructor
  · intro s t
    simp only [attempt_apply, h.answer s t]
  · intro s t
    exact h.state s t

theorem forM {f : α → Run (σ × τ) PUnit} {g : α → Run σ PUnit} (h : ∀ a, Follows (f a) (g a)) :
    ∀ l : List α, Follows (l.forM f) (l.forM g)
  | [] => ofPure _
  | a :: rest => (h a).bind fun _ => forM h rest

end Follows
end Run
end TaskRules
