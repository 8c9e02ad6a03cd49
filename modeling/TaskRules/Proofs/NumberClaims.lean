import TaskRules.Proofs.TakenNumbers

/-!
How an action that creates a task comes by its number while others are at work. It looks a number
up, claims it, and looks up another only when the claim was refused as taken (`Claiming`). Others
may do anything in between that takes no number of the project out of use (`Amid`, `KeepsNumbers`).
A number in use stays below those that are looked up later, so a claim that was refused for its
number is followed by claims of larger ones. One that was refused for its slug need not be: looking
up a number passes over slugs.

Proved:
- `createTask_claiming`: an action that creates a task claims numbers that way.
- `createTask_keepsNumbers`: so may the others.
- `turn_claiming`, `claim_claiming`: one request of a script that claims numbers.
- `claims_above`, `claims_precede`: the claims that it makes, amid others.
-/

namespace TaskRules.Action

/-! ## Scripts that claim numbers -/

def Request.claims : Request → Bool
  | .createTask .. => true
  | _ => false

/-- A script that claims no number. -/
inductive Unclaiming : Script α → Prop
  | done (r : Except Fault α) : Unclaiming (.done r)
  | ask {q : Request} {next : Except Fault q.Answer → Script α} (other : q.claims = false)
      (rest : ∀ r, Unclaiming (next r)) : Unclaiming (.ask q next)

/-- A script that claims numbers of one project, each right after it was looked up, and goes on to
another claim only when one was refused as taken. The index is the number that was looked up last
and is to be claimed next. -/
inductive Claiming (projectId : String) : Option Int → Script α → Prop
  | idle {x : Script α} (h : Unclaiming x) : Claiming projectId none x
  | look {q : Request} {next : Except Fault q.Answer → Script α} (looks : q.looks = true)
      (rest : ∀ r, Claiming projectId none (next r)) : Claiming projectId none (.ask q next)
  | find {next : Except Fault (Option Project) → Script α}
      (found : ∀ project, project.id = projectId →
        Claiming projectId none (next (.ok (some project))))
      (missing : Unclaiming (next (.ok none))) (failed : ∀ e, Unclaiming (next (.error e))) :
      Claiming projectId none (.ask (.findProject (.str projectId)) next)
  | number {next : Except Fault Int → Script α}
      (given : ∀ n, Claiming projectId (some n) (next (.ok n)))
      (failed : ∀ e, Unclaiming (next (.error e))) :
      Claiming projectId none (.ask (.nextNumber (.str projectId)) next)
  | claim {d : Task.Draft} {ids : Json} {n : Int} {slug : String}
      {next : Except Fault TaskView → Script α} (project : d.projectId = .str projectId)
      (number : d.number = .int n) (slug : d.slug = .str slug)
      (granted : ∀ t, Unclaiming (next (.ok t)))
      (refused : ∀ e, isTaken e = true → Claiming projectId none (next (.error e)))
      (failed : ∀ e, isTaken e = false → Unclaiming (next (.error e))) :
      Claiming projectId (some n) (.ask (.createTask d ids) next)

namespace Unclaiming

theorem bind {x : Script α} (hx : Unclaiming x) {f : α → Script β} (hf : ∀ a, Unclaiming (f a)) :
    Unclaiming (x >>= f) := by
  induction hx with
  | done r =>
    cases r with
    | ok a => exact hf a
    | error e => exact .done (.error e)
  | ask other rest ih => exact .ask other ih

theorem settle (f : Except Fault α → Except Fault β) {x : Script α} (hx : Unclaiming x) :
    Unclaiming (x.settle f) := by
  induction hx with
  | done r => exact .done (f r)
  | ask other rest ih => exact .ask other ih

end Unclaiming

namespace Claiming
variable {projectId : String} {awaited : Option Int}

/-- What comes after the claims. -/
theorem before {x : Script α} (hx : Claiming projectId awaited x) {f : α → Script β}
    (hf : ∀ a, Unclaiming (f a)) : Claiming projectId awaited (x >>= f) := by
  induction hx with
  | idle h => exact .idle (h.bind hf)
  | look looks rest ih => exact .look looks ih
  | find found missing failed ih =>
    exact .find ih (missing.bind hf) fun e => (failed e).bind hf
  | number given failed ih => exact .number ih fun e => (failed e).bind hf
  | claim project number slug granted refused failed ih =>
    exact .claim project number slug (fun t => (granted t).bind hf) ih
      fun e untaken => (failed e untaken).bind hf

/-- Looking first. -/
theorem after {x : Script α} (hx : Looks x) {f : α → Script β}
    (hf : ∀ a, Claiming projectId none (f a)) : Claiming projectId none (x >>= f) := by
  induction hx with
  | done r =>
    cases r with
    | ok a => exact hf a
    | error e => exact .idle (.done (.error e))
  | ask looks rest ih => exact .look looks ih

theorem settle (f : Except Fault α → Except Fault β) {x : Script α}
    (hx : Claiming projectId awaited x) : Claiming projectId awaited (x.settle f) := by
  induction hx with
  | idle h => exact .idle (h.settle f)
  | look looks rest ih => exact .look looks ih
  | find found missing failed ih =>
    exact .find ih (missing.settle f) fun e => (failed e).settle f
  | number given failed ih => exact .number ih fun e => (failed e).settle f
  | claim project number slug granted refused failed ih =>
    exact .claim project number slug (fun t => (granted t).settle f) ih
      fun e untaken => (failed e untaken).settle f

end Claiming

theorem claimNumber_claiming (j : Creation) (project : Project) (statusId : String)
    (attempts left : Nat) :
    Claiming project.id none
      (claimNumber (j.draft project statusId) j.config.assigneeIds project attempts left) := by
  induction left with
  | zero =>
    exact .number (fun n => .claim rfl rfl rfl (fun t => .done (.ok t))
      (fun e _ => .idle (.done (.error e))) fun e _ => .done (.error e)) fun e => .done (.error e)
  | succ left ih =>
    refine .number (fun n => .claim rfl rfl rfl (fun t => .done (.ok t)) ?_ ?_)
      fun e => .done (.error e)
    · intro e taken
      show Claiming project.id none (if isTaken e then _ else _)
      rw [if_pos taken]
      exact .look rfl fun r => by
        cases r with
        | ok u => exact ih
        | error e => exact .idle (.done (.error e))
    · intro e untaken
      show Unclaiming (if isTaken e then _ else _)
      rw [if_neg (by simp [untaken])]
      exact .done (.error e)

theorem report_unclaiming (t : TaskView) : Unclaiming (report t) := by
  refine .ask rfl fun r => ?_
  cases r with
  | ok u => exact .done _
  | error e => exact .done (.error e)

/-- An action that creates a task claims numbers of the project that is configured. -/
theorem createTask_claiming (maxAttempts : Json) (j : Creation) :
    Claiming j.config.projectId none
      (createTask maxAttempts j.config j.payload.named j.context) := by
  refine .find (fun project own => ?_) (.done _) fun e => .done (.error e)
  rw [← own]
  exact .after (newStatus_looks j.config project) fun statusId =>
    .after (.done (attemptsOf maxAttempts)) fun attempts =>
      (claimNumber_claiming j project statusId attempts (attempts - 1)).before report_unclaiming

end TaskRules.Action

namespace TaskRules.Engine
open TaskRules.Action

/-! ## Amid others -/

/-- A claim of a number: the draft of the task, and the database that it was made in. -/
structure Claim where
  draft : Task.Draft
  db : Database

/-- The claims that a script has made so far, in order, while others took steps in between. -/
inductive Amid (s : Setup) (others : World → World → Prop) : Script α → World → List Claim → Prop
  | here (x : Script α) (w : World) : Amid s others x w []
  | other {x : Script α} {w w' : World} {claims : List Claim} (step : others w w')
      (rest : Amid s others x w' claims) : Amid s others x w claims
  | turn {q : Request} {next : Except Fault q.Answer → Script α} {w : World} {claims : List Claim}
      (other : q.claims = false)
      (rest : Amid s others (next (s.answer q w).1) (s.answer q w).2 claims) :
      Amid s others (.ask q next) w claims
  | claim {d : Task.Draft} {ids : Json} {next : Except Fault TaskView → Script α} {w : World}
      {claims : List Claim}
      (rest : Amid s others (next (s.answer (.createTask d ids) w).1)
        (s.answer (.createTask d ids) w).2 claims) :
      Amid s others (.ask (.createTask d ids) next) w (⟨d, w.store.db⟩ :: claims)

/-- A world whose look-ups see the database as it is, with integers for the numbers of a project's
tasks. -/
structure Honest (projectId : String) (w : World) : Prop where
  current : w.overtaken = []
  outage : ∀ e, w.store.refusal? = some e → isTaken e = false
  counted : w.store.db.Counted projectId

/-- A step of others that takes no number of a project out of use. -/
structure KeepsNumbers (projectId : String) (w w' : World) : Prop where
  honest : Honest projectId w → Honest projectId w'
  numbers : ∀ n, w.store.db.HasNumber projectId n → w'.store.db.HasNumber projectId n

/-- A claim is followed by one of a larger number, unless its number was free: then the project had
a task of its slug. -/
def Claim.Precedes (projectId : String) (c later : Claim) : Prop :=
  ∃ n slug n', c.draft.number = .int n ∧ c.draft.slug = .str slug ∧
    later.draft.number = .int n' ∧ (c.db.HasNumber projectId n → n < n') ∧
    (¬ c.db.HasNumber projectId n → c.db.HasSlug projectId slug)

/-! ## Answers -/

section Answers
variable {s : Setup} {projectId : String} {w : World}

theorem answer_looks {q : Request} (h : q.looks = true) (w : World) :
    (s.answer q w).2.store = w.store ∧ (w.overtaken = [] → (s.answer q w).2.overtaken = []) := by
  cases q with
  | findProject wanted =>
    refine ⟨?_, id⟩
    show (Store.findProject wanted w.store).2 = w.store
    exact Store.query_apply _ _
  | defaultStatus workflow =>
    refine ⟨?_, id⟩
    show (Store.defaultStatus workflow w.store).2 = w.store
    unfold Store.defaultStatus
    split
    · rfl
    · exact Store.query_apply _ _
  | nextNumber project =>
    show (Setup.nextNumber project w).2.store = w.store ∧
      (w.overtaken = [] → (Setup.nextNumber project w).2.overtaken = [])
    unfold Setup.nextNumber
    cases overtaken : w.overtaken with
    | nil =>
      refine ⟨?_, fun _ => overtaken⟩
      show (Store.nextNumber project w.store).2 = w.store
      exact Store.query_apply _ _
    | cons n rest => exact ⟨rfl, fun none => absurd none (List.cons_ne_nil n rest)⟩
  | log r => exact ⟨rfl, id⟩
  | _ => cases h

theorem Honest.looked (h : Honest projectId w) {q : Request} (looks : q.looks = true) :
    Honest projectId (s.answer q w).2 := by
  obtain ⟨store, current⟩ := answer_looks looks w
  refine ⟨current h.current, ?_, ?_⟩
  · rw [store]
    exact h.outage
  · rw [store]
    exact h.counted

/-- A claim is answered by the store. -/
theorem answer_createTask (d : Task.Draft) (ids : Json) (w : World) :
    (s.answer (.createTask d ids) w).1 = (Store.createTask d ids w.store).1 ∧
      (s.answer (.createTask d ids) w).2.store = (Store.createTask d ids w.store).2 ∧
      (s.answer (.createTask d ids) w).2.overtaken = w.overtaken := by
  have asked : s.answer (.createTask d ids) w = Setup.createTask d ids w := rfl
  have stored : World.onStore (Store.createTask d ids) w = ((Store.createTask d ids w.store).1,
    { w with store := (Store.createTask d ids w.store).2 }) := rfl
  rw [asked, Setup.createTask, Run.bind_of_ok (Run.attempt_apply _ w), stored]
  cases (Store.createTask d ids w.store).1 with
  | ok t => exact ⟨rfl, rfl, rfl⟩
  | error e =>
    dsimp only
    split
    · exact ⟨rfl, rfl, rfl⟩
    · exact ⟨rfl, rfl, rfl⟩

theorem createTask_refusal? (d : Task.Draft) (ids : Json) (s : Store) :
    (Store.createTask d ids s).2.refusal? = s.refusal? := by
  have asked := Store.query_apply (·.checkDraft d ids) s
  rcases hquery : Store.query (·.checkDraft d ids) s with ⟨r, s'⟩
  rw [hquery] at asked
  obtain rfl : s' = s := asked
  unfold Store.createTask
  cases r with
  | error e => rw [Run.bind_of_error hquery]
  | ok wanted =>
    rw [Run.bind_of_ok hquery]
    unfold Store.insert
    split
    · rfl
    · dsimp only
      split <;> rfl

theorem Honest.refused (h : Honest projectId w) {d : Task.Draft} {ids : Json} {e : Fault}
    (failed : (s.answer (.createTask d ids) w).1 = .error e) :
    Honest projectId (s.answer (.createTask d ids) w).2 ∧
      (s.answer (.createTask d ids) w).2.store.db = w.store.db := by
  obtain ⟨-, store, overtaken⟩ := answer_createTask (s := s) d ids w
  have same : (s.answer (.createTask d ids) w).2.store.db = w.store.db :=
    (createTask_undone failed).db
  refine ⟨⟨overtaken.trans h.current, ?_, ?_⟩, same⟩
  · rw [store, createTask_refusal?]
    exact h.outage
  · rw [same]
    exact h.counted

theorem number_of_draft {d : Task.Draft} {kept : Json.Fields} {id : String} {now : Moment}
    {t : Task} (hkept : Table.tasks.keep d.toFields = .ok kept)
    (hrow : Task.ofFields? kept id now = some t) {n : Int} (number : d.number = .int n) :
    t.number = .int n := by
  simp only [Task.ofFields?, Option.bind_eq_bind, Option.bind_eq_some_iff, Option.pure_def,
    Option.some.injEq] at hrow
  obtain ⟨-, -, stored, hstored, -, -, -, -, -, -, rfl⟩ := hrow
  have given := Table.keep_int hkept "task_number" (by decide) rfl number
  exact Option.some.inj (hstored.symm.trans given)

/-- Adding tasks takes no number out of use. -/
theorem createTask_keepsNumbers {d : Task.Draft} {n : Int} (number : d.number = .int n)
    (ids : Json) (w : World) : KeepsNumbers projectId w (s.answer (.createTask d ids) w).2 := by
  rcases answered : s.answer (.createTask d ids) w with ⟨r, w'⟩
  cases r with
  | error e =>
    have same : (s.answer (.createTask d ids) w).2.store.db = w.store.db :=
      (createTask_undone (congrArg Prod.fst answered)).db
    have refused := fun h : Honest projectId w => (h.refused (congrArg Prod.fst answered)).1
    rw [answered] at same refused
    exact ⟨refused, fun k used => by rwa [same]⟩
  | ok view =>
    obtain ⟨-, store, overtaken⟩ := answer_createTask (s := s) d ids w
    rw [answered] at store overtaken
    obtain ⟨wanted, kept, t, -, hkept, hrow, -, hdb, -⟩ :=
      Store.createTask_ok (ok_of_createTask answered)
    refine ⟨fun h => ⟨overtaken.trans h.current, ?_, ?_⟩, ?_⟩
    · rw [store, createTask_refusal?]
      exact h.outage
    · rw [hdb]
      intro u hu own
      rcases List.mem_append.mp hu with old | new
      · exact h.counted u old own
      · obtain rfl := List.mem_singleton.mp new
        exact ⟨n, number_of_draft hkept hrow number⟩
    · rintro k ⟨u, hu, own, used⟩
      rw [hdb]
      exact ⟨u, List.mem_append_left _ hu, own, used⟩

/-- What a claim is refused as taken for. -/
theorem Honest.taken (h : Honest projectId w) {d : Task.Draft} {ids : Json} {n : Int}
    {slug : String} {e : Fault} (project : d.projectId = .str projectId)
    (number : d.number = .int n) (hslug : d.slug = .str slug)
    (failed : (s.answer (.createTask d ids) w).1 = .error e) (taken : isTaken e = true) :
    w.store.db.HasNumber projectId n ∨ w.store.db.HasSlug projectId slug := by
  have stored := (answer_createTask (s := s) d ids w).1.symm.trans failed
  cases reach : w.store.refusal? with
  | some e' =>
    rw [Store.createTask_unreached reach] at stored
    obtain rfl := Except.error.inj stored
    exact absurd (h.outage _ reach) (by simp [taken])
  | none => exact Store.taken_of_createTask reach project number hslug stored taken

/-- A number that is looked up is above those in use. -/
theorem Honest.above (h : Honest projectId w) {n : Int}
    (given : (s.answer (.nextNumber (.str projectId)) w).1 = .ok n) {k : Int}
    (hk : w.store.db.HasNumber projectId k) : k < n := by
  have asked : s.answer (.nextNumber (.str projectId)) w =
      World.onStore (Store.nextNumber (.str projectId)) w := by
    show Setup.nextNumber (.str projectId) w = _
    rw [Setup.nextNumber, h.current]
  have stored := ok_of_onStore (Prod.ext (asked ▸ given) rfl)
  exact Database.nextNumber_above h.counted (Store.ok_of_query stored).1 hk

/-- A project that is looked up is found under its id. -/
theorem found_id {found : Project}
    (h : (s.answer (.findProject (.str projectId)) w).1 = .ok (some found)) :
    found.id = projectId := by
  obtain ⟨looked, -⟩ := Store.ok_of_query (ok_of_onStore (Prod.ext h rfl))
  obtain ⟨key, hkey, looked⟩ := ok_of_bind looked
  obtain ⟨-, rfl⟩ := Store.key?_ok hkey
  exact Database.project?_id (Except.ok.inj looked)

end Answers

/-! ## Turns -/

section Turns
variable {s : Setup} {projectId : String} {w : World} {awaited : Option Int}

/-- After a request that is no claim a script claims nothing more, or it goes on in a world with the
same database, and if it was given a number then one above those in use. -/
theorem turn_claiming {q : Request} {next : Except Fault q.Answer → Script α}
    (hx : Claiming projectId awaited (.ask q next)) (other : q.claims = false)
    (honest : Honest projectId w) :
    Unclaiming (next (s.answer q w).1) ∨ ∃ awaited',
      Claiming projectId awaited' (next (s.answer q w).1) ∧
      Honest projectId (s.answer q w).2 ∧ (s.answer q w).2.store.db = w.store.db ∧
      ∀ n ∈ awaited', ∀ k, w.store.db.HasNumber projectId k → k < n := by
  have looked : ∀ {q : Request}, q.looks = true →
      Honest projectId (s.answer q w).2 ∧ (s.answer q w).2.store.db = w.store.db := fun looks =>
    ⟨honest.looked looks, congrArg Store.db (answer_looks looks w).1⟩
  cases hx with
  | idle h =>
    cases h with
    | ask _ rest => exact .inl (rest _)
  | look looks rest =>
    obtain ⟨honest', same⟩ := looked looks
    exact .inr ⟨none, rest _, honest', same, by simp⟩
  | find found missing failed =>
    obtain ⟨honest', same⟩ := looked (q := .findProject (.str projectId)) rfl
    cases answer : (s.answer (.findProject (.str projectId)) w).1 with
    | error e => exact .inl (failed e)
    | ok r =>
      cases r with
      | none => exact .inl missing
      | some project =>
        exact .inr ⟨none, found project (found_id answer), honest', same, by simp⟩
  | number given failed =>
    obtain ⟨honest', same⟩ := looked (q := .nextNumber (.str projectId)) rfl
    cases answer : (s.answer (.nextNumber (.str projectId)) w).1 with
    | error e => exact .inl (failed e)
    | ok n =>
      refine .inr ⟨some n, given n, honest', same, fun m hm k hk => ?_⟩
      cases hm
      exact honest.above answer hk
  | claim => cases other

/-- After a claim a script claims nothing more, or the claim was refused because its number or its
slug was in use, and the script goes on in a world with the same database. -/
theorem claim_claiming {d : Task.Draft} {ids : Json} {next : Except Fault TaskView → Script α}
    (hx : Claiming projectId awaited (.ask (.createTask d ids) next))
    (honest : Honest projectId w) :
    ∃ n slug, awaited = some n ∧ d.number = .int n ∧ d.slug = .str slug ∧
      (Unclaiming (next (s.answer (.createTask d ids) w).1) ∨
        (Claiming projectId none (next (s.answer (.createTask d ids) w).1) ∧
          Honest projectId (s.answer (.createTask d ids) w).2 ∧
          (s.answer (.createTask d ids) w).2.store.db = w.store.db ∧
          (w.store.db.HasNumber projectId n ∨ w.store.db.HasSlug projectId slug))) := by
  cases hx with
  | idle h =>
    cases h with
    | ask other => cases other
  | look looks => cases looks
  | claim project number slug granted refused failed =>
    refine ⟨_, _, rfl, number, slug, ?_⟩
    cases answer : (s.answer (.createTask d ids) w).1 with
    | ok t => exact .inl (granted t)
    | error e =>
      cases taken : isTaken e with
      | false => exact .inl (failed e taken)
      | true =>
        obtain ⟨honest', same⟩ := honest.refused answer
        exact .inr ⟨refused e taken, honest', same, honest.taken project number slug answer taken⟩

end Turns

/-! ## Claims -/

section Claims
variable {s : Setup} {others : World → World → Prop} {projectId : String} {x : Script α} {w : World}
  {claims : List Claim} {awaited : Option Int}

theorem no_claims_amid (hx : Unclaiming x) (h : Amid s others x w claims) : claims = [] := by
  induction h with
  | here => rfl
  | other step rest ih => exact ih hx
  | turn other rest ih =>
    cases hx with
    | ask _ next => exact ih (next _)
  | claim rest =>
    cases hx with
    | ask other => cases other

/-- A number that is in use stays below all that are claimed from then on. -/
theorem claims_above (keeps : ∀ w w', others w w' → KeepsNumbers projectId w w')
    (hx : Claiming projectId awaited x) (honest : Honest projectId w)
    (h : Amid s others x w claims) : ∀ c ∈ claims, ∃ n, c.draft.number = .int n ∧
      ∀ k, w.store.db.HasNumber projectId k → (∀ m ∈ awaited, k < m) → k < n := by
  -- the number that was looked up may be old by the time it is claimed, hence the second condition
  induction h generalizing awaited with
  | here => simp
  | other step rest ih =>
    have kept := keeps _ _ step
    intro c hc
    obtain ⟨n, number, above⟩ := ih hx (kept.honest honest) c hc
    exact ⟨n, number, fun k used below => above k (kept.numbers k used) below⟩
  | @turn q next w claims other rest ih =>
    rcases turn_claiming (s := s) hx other honest with
      unclaiming | ⟨awaited', hx', honest', same, beyond⟩
    · simp [no_claims_amid unclaiming rest]
    · intro c hc
      obtain ⟨n, number, above⟩ := ih hx' honest' c hc
      exact ⟨n, number, fun k used _ => above k (same ▸ used) fun m hm => beyond m hm k used⟩
  | @claim d ids next w claims rest ih =>
    obtain ⟨m, slug, rfl, number, -, after⟩ := claim_claiming (s := s) hx honest
    refine List.forall_mem_cons.mpr ⟨⟨m, number, fun k _ below => below m rfl⟩, ?_⟩
    rcases after with unclaiming | ⟨hx', honest', same, -⟩
    · simp [no_claims_amid unclaiming rest]
    · intro c hc
      obtain ⟨n, number', above⟩ := ih hx' honest' c hc
      exact ⟨n, number', fun k used _ => above k (same ▸ used) (by simp)⟩

/-- Each claim is followed by claims of larger numbers, unless its number was free. -/
theorem claims_precede (keeps : ∀ w w', others w w' → KeepsNumbers projectId w w')
    (hx : Claiming projectId awaited x) (honest : Honest projectId w)
    (h : Amid s others x w claims) : claims.Pairwise (Claim.Precedes projectId) := by
  induction h generalizing awaited with
  | here => exact .nil
  | other step rest ih => exact ih hx ((keeps _ _ step).honest honest)
  | @turn q next w claims other rest ih =>
    rcases turn_claiming (s := s) hx other honest with unclaiming | ⟨awaited', hx', honest', -, -⟩
    · rw [no_claims_amid unclaiming rest]
      exact .nil
    · exact ih hx' honest'
  | @claim d ids next w claims rest ih =>
    obtain ⟨n, slug, -, number, hslug, after⟩ := claim_claiming (s := s) hx honest
    rcases after with unclaiming | ⟨hx', honest', same, inUse⟩
    · rw [no_claims_amid unclaiming rest]
      exact List.pairwise_singleton _ _
    · -- what the claim was refused for was in the database that the rest of the run starts from
      refine List.pairwise_cons.mpr ⟨fun c hc => ?_, ih hx' honest'⟩
      obtain ⟨n', number', above⟩ := claims_above keeps hx' honest' rest c hc
      exact ⟨n, slug, n', number, hslug, number', fun used => above n (same ▸ used) (by simp),
        inUse.resolve_left⟩

end Claims

end TaskRules.Engine
