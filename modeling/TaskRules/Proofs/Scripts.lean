import TaskRules.Action.Script
import TaskRules.Proofs.Runs

/-!
Scripts as trees of requests. `noted` notes what was requested and answered; it changes nothing else
about a run. A script that makes one change looks things up, makes the change when it can, and only
then tells clients (`OneChange`); a script that only looks makes no change (`Looks`).

Proved:
- `run_bind`, `run_settle`: a run of a composed script is composed of runs.
- `run_noted`: a run whose requests are noted follows the run.
- `OneChange.after`, `OneChange.before`, `OneChange.settle`: how scripts with one change are built.
-/

namespace TaskRules.Action

/-! ## Running -/

namespace Script

@[simp] theorem run_done (answer : (q : Request) → Run σ q.Answer) (r : Except Fault α) (s : σ) :
    (Script.done r).run answer s = (r, s) := rfl

theorem run_ask (answer : (q : Request) → Run σ q.Answer) (q : Request)
    (next : Except Fault q.Answer → Script α) (s : σ) :
    (Script.ask q next).run answer s = (next (answer q s).1).run answer (answer q s).2 := rfl

theorem run_bind (answer : (q : Request) → Run σ q.Answer) (x : Script α) (f : α → Script β) :
    (x >>= f).run answer = x.run answer >>= fun a => (f a).run answer := by
  induction x with
  | done r =>
    cases r with
    | ok a => rfl
    | error e => rfl
  | ask q next ih =>
    funext s
    exact congrFun (ih (answer q s).1) (answer q s).2

theorem run_settle (answer : (q : Request) → Run σ q.Answer) (f : Except Fault α → Except Fault β)
    (x : Script α) (s : σ) :
    (x.settle f).run answer s = (f (x.run answer s).1, (x.run answer s).2) := by
  induction x generalizing s with
  | done r => rfl
  | ask q next ih => exact ih (answer q s).1 (answer q s).2

end Script

/-! ## Noting -/

/-- A request and its answer. -/
structure Exchange where
  request : Request
  answer : Except Fault request.Answer

/-- An answer that is noted, in the second of two states. -/
def noted (answer : (q : Request) → Run σ q.Answer) (q : Request) :
    Run (σ × List Exchange) q.Answer := fun s =>
  let (r, s') := answer q s.1
  (r, (s', s.2 ++ [⟨q, r⟩]))

@[simp] theorem noted_apply (answer : (q : Request) → Run σ q.Answer) (q : Request) (s : σ)
    (l : List Exchange) :
    noted answer q (s, l) = ((answer q s).1, ((answer q s).2, l ++ [⟨q, (answer q s).1⟩])) := rfl

theorem run_noted_ask {answer : (q : Request) → Run σ q.Answer} {q : Request} {s s' : σ}
    {r : Except Fault q.Answer} (h : answer q s = (r, s'))
    (next : Except Fault q.Answer → Script α) (l : List Exchange) :
    (Script.ask q next).run (noted answer) (s, l) =
      (next r).run (noted answer) (s', l ++ [⟨q, r⟩]) := by
  rw [Script.run_ask, noted_apply, h]

/-- Noting changes neither what a script gives nor the state it leaves. -/
theorem run_noted (answer : (q : Request) → Run σ q.Answer) (x : Script α) :
    Run.Follows (x.run (noted answer)) (x.run answer) := by
  induction x with
  | done r => exact ⟨fun _ _ => rfl, fun _ _ => rfl⟩
  | ask q next ih =>
    constructor
    · intro s l
      exact (ih (answer q s).1).answer (answer q s).2 (l ++ [⟨q, (answer q s).1⟩])
    · intro s l
      exact (ih (answer q s).1).state (answer q s).2 (l ++ [⟨q, (answer q s).1⟩])

theorem run_of_noted {answer : (q : Request) → Run σ q.Answer} {x : Script α} {s s' : σ}
    {l l' : List Exchange} {r : Except Fault α} (h : x.run (noted answer) (s, l) = (r, (s', l'))) :
    x.run answer s = (r, s') := by
  have result := (run_noted answer x).answer s l
  have state := (run_noted answer x).state s l
  rw [h] at result state
  exact Prod.ext result.symm state.symm

/-! ## Scripts with one change -/

/-- Whether a request looks something up or writes to the log. -/
def Request.looks : Request → Bool
  | .findProject _ => true
  | .defaultStatus _ => true
  | .nextNumber _ => true
  | .log _ => true
  | _ => false

/-- Whether a request changes what is stored, when it succeeds. No notifications are no change. -/
def Request.changes : Request → Bool
  | .updateTask .. => true
  | .createTask .. => true
  | .comment .. => true
  | .notify drafts => !drafts.isEmpty
  | _ => false

/-- An exchange that changed what is stored. -/
def Exchange.Commits (x : Exchange) : Prop := x.request.changes = true ∧ ∃ a, x.answer = .ok a

/-- An exchange that told clients. -/
def Exchange.Emits (x : Exchange) : Prop := ∃ e, x.request = .emit e

/-- An exchange that neither changed anything nor told clients. -/
def Exchange.Quiet (x : Exchange) : Prop := ¬ x.Commits ∧ ¬ x.Emits

theorem Exchange.quiet_of_looks {q : Request} (h : q.looks = true) (r : Except Fault q.Answer) :
    Exchange.Quiet ⟨q, r⟩ := by
  constructor
  · rintro ⟨hc, -⟩
    cases q <;> cases h <;> cases hc
  · rintro ⟨e, he⟩
    cases he
    cases h

theorem Exchange.quiet_of_lost {q : Request} (h : q.changes = true) (e : Fault) :
    Exchange.Quiet ⟨q, .error e⟩ := by
  constructor
  · rintro ⟨-, a, ha⟩
    cases ha
  · rintro ⟨e', he⟩
    cases he
    cases h

/-- A script that only looks. -/
inductive Looks : Script α → Prop
  | done (r : Except Fault α) : Looks (.done r)
  | ask {q : Request} {next : Except Fault q.Answer → Script α} (looks : q.looks = true)
      (rest : ∀ r, Looks (next r)) : Looks (.ask q next)

/-- A script that only tells clients, and succeeds when they can be told. -/
inductive Closing (good : α → Prop) : Script α → Prop
  | done {a : α} (h : good a) : Closing good (.done (.ok a))
  | tell {e : Event} {next : Except Fault (Request.emit e).Answer → Script α}
      (rest : Closing good (next (.ok ()))) : Closing good (.ask (.emit e) next)

/-- A script that makes one change, and tells clients only after it. Without the change it fails or
ends with an idle value. -/
inductive OneChange (idle good : α → Prop) : Script α → Prop
  | failed (e : Fault) : OneChange idle good (.done (.error e))
  | idled {a : α} (h : idle a) : OneChange idle good (.done (.ok a))
  | look {q : Request} {next : Except Fault q.Answer → Script α} (looks : q.looks = true)
      (rest : ∀ r, OneChange idle good (next r)) : OneChange idle good (.ask q next)
  | change {q : Request} {next : Except Fault q.Answer → Script α} (changes : q.changes = true)
      (lost : ∀ e, OneChange idle good (next (.error e)))
      (made : ∀ a, Closing good (next (.ok a))) : OneChange idle good (.ask q next)

theorem Looks.request (q : Request) (h : q.looks = true) : Looks (Script.request q) :=
  .ask h fun r => .done r

theorem Looks.bind {x : Script α} (hx : Looks x) {f : α → Script β} (hf : ∀ a, Looks (f a)) :
    Looks (x >>= f) := by
  induction hx with
  | done r =>
    cases r with
    | ok a => exact hf a
    | error e => exact .done (.error e)
  | ask looks rest ih => exact .ask looks ih

theorem Closing.bind {good₁ : α → Prop} {good : β → Prop} {x : Script α} (hx : Closing good₁ x)
    {f : α → Script β} (hf : ∀ a, good₁ a → Closing good (f a)) : Closing good (x >>= f) := by
  induction hx with
  | done h => exact hf _ h
  | tell rest ih => exact .tell ih

theorem Closing.imp {good good' : α → Prop} (hg : ∀ a, good a → good' a) {x : Script α}
    (h : Closing good x) : Closing good' x := by
  induction h with
  | done h => exact .done (hg _ h)
  | tell rest ih => exact .tell ih

namespace OneChange
variable {idle good : β → Prop}

theorem imp {good' : β → Prop} (hg : ∀ a, good a → good' a) {x : Script β}
    (h : OneChange idle good x) : OneChange idle good' x := by
  induction h with
  | failed e => exact .failed e
  | idled h => exact .idled h
  | look looks rest ih => exact .look looks ih
  | change changes lost made ih => exact .change changes ih fun a => (made a).imp hg

/-- Looking first. -/
theorem after {x : Script α} (hx : Looks x) {f : α → Script β}
    (hf : ∀ a, OneChange idle good (f a)) : OneChange idle good (x >>= f) := by
  induction hx with
  | done r =>
    cases r with
    | ok a => exact hf a
    | error e => exact .failed e
  | ask looks rest ih => exact .look looks ih

/-- Telling clients afterwards. -/
theorem before {good₁ : α → Prop} {x : Script α} (hx : OneChange (fun _ => False) good₁ x)
    {f : α → Script β} (hf : ∀ a, good₁ a → Closing good (f a)) :
    OneChange idle good (x >>= f) := by
  induction hx with
  | failed e => exact .failed e
  | idled h => exact h.elim
  | look looks rest ih => exact .look looks ih
  | change changes lost made ih => exact .change changes ih fun a => (made a).bind hf

theorem request (q : Request) (h : q.changes = true) :
    OneChange (fun _ => False) (fun _ => True) (Script.request q) :=
  .change h (fun e => .failed e) fun _ => .done trivial

/-- Errors may become idle values. -/
theorem settle {f : Except Fault β → Except Fault β} (hok : ∀ a, f (.ok a) = .ok a)
    (herror : ∀ e, (∃ e', f (.error e) = .error e') ∨ ∃ a, f (.error e) = .ok a ∧ idle a)
    {x : Script β} (hx : OneChange idle good x) : OneChange idle good (x.settle f) := by
  have closing : ∀ {x : Script β}, Closing good x → Closing good (x.settle f) := by
    intro x h
    induction h with
    | done h =>
      rw [Script.settle, hok]
      exact .done h
    | tell rest ih => exact .tell ih
  induction hx with
  | failed e =>
    rcases herror e with ⟨e', he⟩ | ⟨a, he, ha⟩
    · rw [Script.settle, he]
      exact .failed e'
    · rw [Script.settle, he]
      exact .idled ha
  | idled h =>
    rw [Script.settle, hok]
    exact .idled h
  | look looks rest ih => exact .look looks ih
  | change changes lost made ih => exact .change changes ih fun a => closing (made a)

end OneChange
end TaskRules.Action
