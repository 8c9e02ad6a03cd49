import TaskRules.Proofs.RetryChain
import TaskRules.Proofs.RunInvariants
import TaskRules.Queue.Consumer

/-!
How often a chain of retries commits what its rule does. A dispatch commits one change exactly when
it succeeds (`Act.IsAtomic`); after that only the record of the run can fail. A run that is retried
has therefore committed nothing, unless its record was refused: then the change is made again.

Proved:
- `dispatch_isAtomic`: a dispatch commits one change and succeeds, or commits none.
- `execute_commitsOnce`: a run commits one change at most, and succeeds when it has committed and
  its record is taken.
- `chain_commits_safely`: in a chain a run that commits is followed by another one only if its own
  record was refused; with no record refused, one run at most commits.
- `an_unrecorded_commit_is_repeated`: two runs that both commit, their records refused.
-/

namespace TaskRules.Action

instance : DecidablePred Exchange.Commits
  | ⟨q, .ok a⟩ => decidable_of_iff (q.changes = true) ⟨fun h => ⟨h, a, rfl⟩, fun h => h.1⟩
  | ⟨_, .error _⟩ => isFalse fun ⟨_, _, ha⟩ => by cases ha

/-- How many exchanges changed what is stored. -/
def commits (made : List Exchange) : Nat := made.countP fun x => x.Commits

theorem commits_of_quiet {made : List Exchange} (h : ∀ x ∈ made, x.Quiet) : commits made = 0 := by
  unfold commits
  rw [List.countP_eq_zero]
  intro x hx hc
  exact (h x hx).1 (of_decide_eq_true hc)

theorem commits_of_emits {made : List Exchange} (h : ∀ x ∈ made, x.Emits) : commits made = 0 := by
  unfold commits
  rw [List.countP_eq_zero]
  intro x hx hc
  obtain ⟨e, he⟩ := h x hx
  have changes := (of_decide_eq_true hc).1
  rw [he] at changes
  cases changes

end TaskRules.Action

namespace TaskRules.Engine
open TaskRules.Action (Exchange commits)

/-! ## Runs -/

/-- A dispatch of an action: how it ended and what it requested. -/
structure Act where
  ending : Except Fault Dispatched
  made : List Exchange

namespace Setup

/-- What an action requests that is started in a world. -/
def requests (s : Setup) (rule : Rule) (payload : Payload) (context : Action.Context) (w : World) :
    List Exchange :=
  ((s.registry.dispatch (.str rule.actionType) rule.actionConfig (.ok payload) context).run
    (Action.noted s.answer) (w, [])).2.2

/-- What a dispatch requests; nothing when there is a limit and no worker takes it. -/
def requestsWithin (s : Setup) (limit : Option Json) (rule : Rule) (payload : Payload)
    (context : Action.Context) (w : World) : List Exchange :=
  match limit with
  | none => s.requests rule payload context w
  | some _ =>
    let pool := w.pool.submit.2.takeAll s.workers
    if pool.isRunning w.pool.submit.1 then s.requests rule payload context { w with pool := pool }
    else []

/-- The collaborators of runs, with dispatches noted. -/
def traced (s : Setup) : Collaborators (World × List Act) where
  findRule id := .first (s.collaborators.findRule id)
  dispatch limit rule payload context := fun (w, acts) =>
    let (ending, w') := s.dispatchWithin limit rule payload context w
    (ending, (w', acts ++ [⟨ending, s.requestsWithin limit rule payload context w⟩]))
  create d := .first (s.collaborators.create d)
  clock := .first s.collaborators.clock
  log r := .first (s.collaborators.log r)

theorem traced_follow (s : Setup) : s.traced.Follow s.collaborators where
  findRule _ := .ofFirst _
  dispatch _ _ _ _ := ⟨fun _ _ => rfl, fun _ _ => rfl⟩
  create _ := .ofFirst _
  clock := .ofFirst _
  log _ := .ofFirst _

/-- A run from a world, with its dispatches and its calls noted. -/
def watch (s : Setup) (t : Trigger) (w : World) :
    Except Fault Outcome × (World × List Act) × List Call :=
  Engine.execute (observed s.traced) s.policy t ((w, []), [])

/-- How often a run commits a change of its action. -/
def commits (s : Setup) (t : Trigger) (w : World) : Nat :=
  Action.commits ((s.watch t w).2.1.2.flatMap (·.made))

/-- The records that a run hands over, with the store's answers. -/
def records (s : Setup) (t : Trigger) (w : World) :
    List (Execution.Draft × Except Fault Execution) :=
  creates (s.watch t w).2.2

theorem watch_answer (s : Setup) (t : Trigger) (w : World) :
    (s.watch t w).1 = (s.execute t w).1 :=
  ((observed_follows s.traced s.policy t).answer (w, []) []).trans
    ((execute_follows s.traced_follow s.policy t).answer w [])

end Setup

/-! ## Dispatches -/

/-- A dispatch that committed one change and succeeded, or none. -/
def Act.IsAtomic (a : Act) : Prop :=
  Succeeds a.ending ∧ commits a.made = 1 ∨ ¬Succeeds a.ending ∧ commits a.made = 0

section Dispatches
variable {s : Setup} {maxAttempts : Json} (hs : s.registry = .standard maxAttempts) (rule : Rule)
  (payload : Payload) (context : Action.Context) (w : World)
include hs

theorem read_isAtomic :
    Act.IsAtomic ⟨(s.dispatchRead (.str rule.actionType) rule.actionConfig payload context w).1.map
      .of, s.requests rule payload context w⟩ := by
  have one := Action.dispatch_oneChange maxAttempts (.str rule.actionType) rule.actionConfig
    (.ok payload) context
  obtain ⟨r, w', made, hnoted, hatomic⟩ := run_atomic s one w []
  unfold Setup.dispatchRead Setup.requests
  rw [hs, Action.run_of_noted hnoted, hnoted]
  rcases hatomic with ⟨-, quiet, idle⟩ | ⟨done, ending, rfl, r, rfl, success⟩
  · refine .inr ⟨?_, Action.commits_of_quiet quiet⟩
    cases r with
    | error e => exact id
    | ok ending =>
      obtain ⟨r, rfl, failed⟩ := idle _ rfl
      exact failed
  · refine .inl ⟨success, ?_⟩
    cases done with
    | @mk before after x w₁ w₂ undone quiet commits answered told db =>
      show Action.commits (before ++ x :: after) = 1
      have hx : Action.commits [x] = 1 := by simp [Action.commits, commits]
      have hsplit : Action.commits (before ++ x :: after) =
          Action.commits before + (Action.commits [x] + Action.commits after) := by
        simp [Action.commits, List.countP_append, List.countP_cons, Nat.add_comm]
      rw [hsplit, Action.commits_of_quiet quiet, hx, Action.commits_of_emits told]

/-- A dispatch of an action commits one change exactly when it succeeds. -/
theorem dispatch_isAtomic (limit : Option Json) :
    Act.IsAtomic ⟨(s.dispatchWithin limit rule payload context w).1,
      s.requestsWithin limit rule payload context w⟩ := by
  cases limit with
  | none =>
    have h := read_isAtomic hs rule payload context w
    have hmap : (s.dispatchWithin none rule payload context w).1 =
        (s.dispatchRead (.str rule.actionType) rule.actionConfig payload context w).1.map .of := by
      rcases hr : s.dispatchRead (.str rule.actionType) rule.actionConfig payload context w with
        ⟨_ | ending, w'⟩
      · rw [Setup.dispatchWithin, Run.bind_of_error hr]
        rfl
      · rw [Setup.dispatchWithin, Run.bind_of_ok hr]
        rfl
    rw [hmap]
    exact h
  | some limit =>
    unfold Setup.dispatchWithin Setup.dispatchPooled Setup.requestsWithin
    dsimp only
    by_cases running : (w.pool.submit.2.takeAll s.workers).isRunning w.pool.submit.1 = true
    · have h := read_isAtomic hs rule payload context
        { w with pool := w.pool.submit.2.takeAll s.workers }
      simp only [running, if_true]
      rcases hr : s.dispatchRead (.str rule.actionType) rule.actionConfig payload context
        { w with pool := w.pool.submit.2.takeAll s.workers } with ⟨e | (_ | result), w'⟩
      · rw [hr] at h
        exact h
      · rw [hr] at h
        exact h
      · rw [hr] at h
        exact h
    · simp only [running]
      exact .inr ⟨id, rfl⟩

end Dispatches

/-! ## One run -/

/-- The dispatches that were noted are those among the calls, each atomic. -/
structure Matches (acts : List Act) (l : List Call) : Prop where
  endings : acts.map (·.ending) = dispatches l
  atomic : ∀ a ∈ acts, a.IsAtomic

/-- A call that is no dispatch. -/
theorem Matches.snoc {acts : List Act} {l : List Call} (h : Matches acts l) {call : Call}
    (hcall : dispatches [call] = []) : Matches acts (l ++ [call]) := by
  refine ⟨?_, h.atomic⟩
  rw [h.endings]
  simp only [dispatches, List.filterMap_append] at hcall ⊢
  rw [hcall, List.append_nil]

theorem matches_keep {s : Setup} {maxAttempts : Json} (hs : s.registry = .standard maxAttempts) :
    (observed s.traced).Keep fun p => Matches p.1.2 p.2 where
  findRule id := ⟨fun p h => h.snoc rfl⟩
  dispatch limit rule payload context := by
    constructor
    rintro ⟨⟨w, acts⟩, l⟩ h
    have atomic := dispatch_isAtomic hs rule payload context w limit
    constructor
    · show (acts ++ [_]).map Act.ending = dispatches (l ++ [_])
      rw [List.map_append, h.endings]
      simp only [dispatches, List.filterMap_append]
      rfl
    · intro a ha
      rcases List.mem_append.mp ha with ha | ha
      · exact h.atomic a ha
      · rw [List.mem_singleton.mp ha]
        exact atomic
  create d := ⟨fun p h => h.snoc rfl⟩
  clock := ⟨fun p h => h⟩
  log r := ⟨fun p h => h⟩

/-- What a run commits: one change at most. One that commits hands over one record and succeeds if
the record is taken. -/
structure CommitsOnce (s : Setup) (t : Trigger) (w : World) : Prop where
  once : s.commits t w ≤ 1
  recorded : s.commits t w = 1 → ∃ draft stored, s.records t w = [(draft, stored)] ∧
    ∀ saved, stored = .ok saved → ∃ o, (s.execute t w).1 = .ok o

theorem commits_of_idle {acts : List Act} {l : List Call} (h : Matches acts l)
    (idle : dispatches l = []) : commits (acts.flatMap (·.made)) = 0 := by
  have hacts : acts = [] := List.map_eq_nil_iff.mp (h.endings.trans idle)
  rw [hacts]
  rfl

theorem commits_of_dispatch {acts : List Act} {l : List Call} (h : Matches acts l)
    {ending : Except Fault Dispatched} (only : dispatches l = [ending]) :
    Succeeds ending ∧ commits (acts.flatMap (·.made)) = 1 ∨
      ¬Succeeds ending ∧ commits (acts.flatMap (·.made)) = 0 := by
  obtain ⟨a, rfl, hending⟩ : ∃ a, acts = [a] ∧ a.ending = ending :=
    List.map_eq_singleton_iff.mp (h.endings.trans only)
  have atomic := h.atomic a (List.mem_singleton_self a)
  rw [Act.IsAtomic, hending] at atomic
  rwa [List.flatMap_singleton]

theorem execute_commitsOnce {s : Setup} {maxAttempts : Json}
    (hs : s.registry = .standard maxAttempts) {t : Trigger} (hp : IsPayload t.payload)
    (hl : IsLimit (t.limitUnder s.policy)) {w : World} (timely : Timely w) : CommitsOnce s t w := by
  have steady := (collaborators_steady s timely).follow s.traced_follow
  have reporting : Reporting s.traced (fun p => p.1.readings ⊆ w.readings) fun _ => True :=
    fun _ _ _ _ _ _ _ _ _ => trivial
  obtain ⟨found, answer, ⟨w', acts⟩, made, hrun, leaves⟩ :=
    execute_exit steady reporting s.policy t hp hl (s := (w, [])) (List.Subset.refl _)
  have initially : Matches [] [] := ⟨rfl, by simp⟩
  have matched : Matches acts (.found t.ruleId found :: made) := by
    have := (execute_keeps (matches_keep hs) s.policy t).state ((w, []), []) initially
    rwa [hrun] at this
  have hanswer := s.watch_answer t w
  have hcommits : s.commits t w = commits (acts.flatMap (·.made)) := by
    rw [Setup.commits, Setup.watch, hrun]
  have hrecords : s.records t w = creates (.found t.ruleId found :: made) := by
    rw [Setup.records, Setup.watch, hrun]
  rw [Setup.watch, hrun] at hanswer
  have idle (h : dispatches (.found t.ruleId found :: made) = []) : CommitsOnce s t w := by
    have zero := hcommits.trans (commits_of_idle matched h)
    exact ⟨by omega, fun one => by omega⟩
  cases leaves with
  | unread e => exact idle rfl
  | read same exit =>
    cases exit with
    | silent n live unrecorded => exact idle rfl
    | unavailable n stored live recorded => exact idle rfl
    | unmet n stored live undue => exact idle rfl
    | failed n stored text found due fails =>
      rcases commits_of_dispatch matched rfl with ⟨success, -⟩ | ⟨-, zero⟩
      · exact absurd success (not_succeeds_of_fails fails)
      · exact ⟨by omega, fun one => by omega⟩
    | succeeded n stored found due success reported =>
      rcases commits_of_dispatch matched rfl with ⟨-, one⟩ | ⟨failed, -⟩
      · refine ⟨by omega, fun _ => ⟨_, stored, hrecords, ?_⟩⟩
        rintro saved rfl
        exact ⟨_, hanswer.symm⟩
      · exact absurd success failed

end TaskRules.Engine

namespace TaskRules.Queue
open TaskRules.Engine

/-! ## Chains -/

/-- Only a delivery whose run failed publishes anything. -/
theorem sent_of_deliver {c : Collaborators σ} {m topic : Json} {raw : Raw} {s : σ} {text : String}
    (h : .sent text ∈ (deliver c m raw topic s).deeds) :
    ∃ j e, raw.job? = some j ∧ (c.execute (trigger j) s).1 = .error e := by
  replace h : .sent text ∈ (handle (watched c) m raw topic (s, [])).2.2 := h
  unfold handle at h
  cases hj : raw.job? with
  | none =>
    have silent : Run.Keeps (fun p : σ × List Deed => p.2 = []) ((watched c).log
        (Log.warning logger ("Invalid automation job topic=" ++ topic.display ++ " payload_len=" ++
          decimal raw.length)) >>= fun _ => pure Disposition.invalid) :=
      .bind ⟨fun _ h => h⟩ fun _ => .ofPure _
    rw [hj] at h
    dsimp only at h
    rw [silent.state (s, []) rfl] at h
    cases h
  | some j =>
    rcases hx : c.execute (trigger j) s with ⟨answer, s₁⟩
    cases answer with
    | error e => exact ⟨j, e, rfl, by rw [hx]⟩
    | ok o =>
      have hexecute : Run.attempt ((watched c).execute (trigger j)) (s, []) =
          (.ok (.ok o), (s₁, [.ran (trigger j) (.ok o)])) := by
        simp [watched, hx]
      have hrun : run (watched c) m j (s, []) =
          (.ok .done, (s₁, [.ran (trigger j) (.ok o)])) := by
        rw [run, Run.bind_of_ok hexecute]
        rfl
      rw [hj] at h
      dsimp only at h
      rw [Run.bind_of_ok hrun] at h
      simp at h

/-- Each message of a chain is delivered by its own collaborators, and each but the last was
answered with a message that was published. -/
theorem Chain.delivered {c : Nat → Collaborators σ} {m : Json} {n : Nat} {raw : Raw}
    {ds : List (Delivery σ)} (h : Chain c m n raw ds) :
    ∀ i (hi : i < ds.length), ∃ topic,
      ds[i] = deliver (c (n + i)) m ds[i].raw topic ds[i].start ∧
      (i + 1 < ds.length → ∃ text, .sent text ∈ ds[i].deeds) := by
  induction h with
  | last topic s silent =>
    intro i hi
    obtain rfl : i = 0 := by simpa using hi
    exact ⟨topic, rfl, fun h => by simp at h⟩
  | @again n raw next text rest topic s sent carries goes ih =>
    intro i hi
    cases i with
    | zero => exact ⟨topic, rfl, fun _ => ⟨text, sent⟩⟩
    | succ i =>
      obtain ⟨topic', hd, hsent⟩ := ih i (by simpa using hi)
      refine ⟨topic', ?_, fun h => hsent (by simpa using h)⟩
      rw [show n + (i + 1) = n + 1 + i by omega]
      exact hd

/-- How often the run of a delivery commits a change of its action. -/
def Delivery.commits (s : Setup) (d : Delivery World) : Nat :=
  match d.raw.job? with
  | none => 0
  | some j => s.commits (trigger j) d.start

theorem commits_of_job {raw : Raw} {j : Job} (hj : raw.job? = some j)
    (c : Collaborators World) (m topic : Json) (w : World) (s : Setup) :
    (deliver c m raw topic w).commits s = s.commits (trigger j) w := by
  show (match raw.job? with
    | none => 0
    | some j => s.commits (trigger j) w) = _
  rw [hj]

/-- The records that the run of a delivery hands over, with the store's answers. -/
def Delivery.records (s : Setup) (d : Delivery World) :
    List (Execution.Draft × Except Fault Execution) :=
  match d.raw.job? with
  | none => []
  | some j => s.records (trigger j) d.start

/-- An engine with the handlers of all kinds and without a limit on their time. -/
structure Unlimited (s : Setup) : Prop where
  registry : ∃ maxAttempts, s.registry = .standard maxAttempts
  isLimit : IsLimit s.settings.limit
  disabled : positiveLimit? s.settings.limit = .ok none

theorem job_commitsOnce {s : Setup} (hs : Unlimited s) (j : Job) {w : World} (timely : Timely w) :
    CommitsOnce s (trigger j) w := by
  obtain ⟨maxAttempts, registry⟩ := hs.registry
  have limit : IsLimit ((trigger j).limitUnder s.policy) := hs.isLimit
  exact execute_commitsOnce registry (.inr ⟨_, rfl⟩) limit timely

/-- What the deliveries of a chain commit, the n-th one with the n-th engine. -/
structure CommitsSafely (s : Nat → Setup) (ds : List (Delivery World)) : Prop where
  once : ∀ i (hi : i < ds.length), ds[i].commits (s i) ≤ 1
  /-- A run that commits is followed by another one only if its own record was refused. -/
  followed : ∀ i (hi : i + 1 < ds.length), ds[i].commits (s i) = 1 →
    ∃ draft e, ds[i].records (s i) = [(draft, .error e)]
  /-- At most one run commits and has its record taken. -/
  recorded : ∀ i k (hi : i < ds.length) (hk : k < ds.length),
    ds[i].commits (s i) = 1 → ds[k].commits (s k) = 1 →
    (∃ draft saved, (draft, .ok saved) ∈ ds[i].records (s i)) →
    (∃ draft saved, (draft, .ok saved) ∈ ds[k].records (s k)) → i = k
  /-- Where no record is refused, at most one run commits. -/
  healthy : (∀ i (hi : i < ds.length) draft e, (draft, .error e) ∉ ds[i].records (s i)) →
    ∀ i k (hi : i < ds.length) (hk : k < ds.length),
      ds[i].commits (s i) = 1 → ds[k].commits (s k) = 1 → i = k

/-- The runs of a chain commit safely, whatever the rule, the database, the notifiers and the faults
of the store of records are in each of them. -/
theorem chain_commits_safely {s : Nat → Setup} (hs : ∀ n, Unlimited (s n)) {maxAttempts : Json}
    {raw : Raw} {ds : List (Delivery World)}
    (h : Chain (fun n => collaborators (s n)) maxAttempts 0 raw ds)
    (timely : ∀ d ∈ ds, Timely d.start) : CommitsSafely s ds := by
  have once : ∀ i (hi : i < ds.length), ds[i].commits (s i) ≤ 1 := by
    intro i hi
    unfold Delivery.commits
    split
    · exact Nat.zero_le 1
    · exact (job_commitsOnce (hs i) _ (timely _ (List.getElem_mem hi))).once
  have followed : ∀ i (hi : i + 1 < ds.length), ds[i].commits (s i) = 1 →
      ∃ draft e, ds[i].records (s i) = [(draft, .error e)] := by
    intro i hi one
    obtain ⟨topic, hd, hsent⟩ := h.delivered i (by omega)
    obtain ⟨text, sent⟩ := hsent hi
    rw [hd, Nat.zero_add] at sent
    obtain ⟨j, e, hj, failed⟩ := sent_of_deliver sent
    unfold Delivery.commits at one
    unfold Delivery.records
    rw [hj] at one ⊢
    obtain ⟨draft, stored, hrecords, taken⟩ :=
      (job_commitsOnce (hs i) j (timely _ (List.getElem_mem _))).recorded one
    cases stored with
    | error e => exact ⟨draft, e, hrecords⟩
    | ok saved =>
      obtain ⟨o, done⟩ := taken saved rfl
      cases failed.symm.trans done
  -- a commit before another one was followed, so its record was refused
  have before : ∀ i k (hi : i < ds.length) (hk : k < ds.length), ds[i].commits (s i) = 1 → i < k →
      ∃ draft e, ds[i].records (s i) = [(draft, .error e)] :=
    fun i k hi hk one hlt => followed i (by omega) one
  refine ⟨once, followed, ?_, ?_⟩
  · rintro i k hi hk one one' ⟨draft, saved, taken⟩ ⟨draft', saved', taken'⟩
    by_contra hne
    rcases Nat.lt_or_gt_of_ne hne with hlt | hlt
    · obtain ⟨d, e, hrecords⟩ := before i k hi hk one hlt
      simp [hrecords] at taken
    · obtain ⟨d, e, hrecords⟩ := before k i hk hi one' hlt
      simp [hrecords] at taken'
  · intro healthy i k hi hk one one'
    by_contra hne
    rcases Nat.lt_or_gt_of_ne hne with hlt | hlt
    · obtain ⟨d, e, hrecords⟩ := before i k hi hk one hlt
      exact healthy i hi d e (by simp [hrecords])
    · obtain ⟨d, e, hrecords⟩ := before k i hk hi one' hlt
      exact healthy k hk d e (by simp [hrecords])

/-- An engine with the handlers of all kinds whose store of records is down. -/
def unrecorded : Setup where
  settings := { limit := .null }
  notifier := .none
  registry := .standard (.int 3)
  auditFault := some (.ofForeign .connection "refused")

theorem unrecorded_unlimited : Unlimited unrecorded := ⟨⟨_, rfl⟩, .inl rfl, rfl⟩

theorem unrecorded_works : Works (collaborators unrecorded) := ⟨fun _ _ => rfl, fun _ _ => rfl⟩

def launchDay : Moment := ⟨⟨2024, 1, 1⟩, 0, 0, 0, 0⟩

/-- A rule that comments on a task. -/
def greeting : World where
  store :=
    { db :=
        { tasks := [
            { id := "t-1", projectId := "p-web", number := .int 1, slug := "web-1"
              title := "Checkout page crashes", description := none, type := "BUG"
              priority := "HIGH", statusId := "s-todo", sprintId := none, parentTaskId := none
              dueDate := none, startDate := none, createdBy := none, updatedBy := none
              createdAt := launchDay, updatedAt := launchDay }]
          rules := [
            { rule :=
                { id := "r-1", name := "Greet", status := Rule.active, triggerType := "TASK_CREATED"
                  actionType := "ADD_COMMENT", triggerConfig := .null, conditions := .null
                  actionConfig := .obj [("taskId", .str "t-1"), ("content", .str "hi")]
                  projectId := none, createdBy := some "u-1", description := none }
              createdAt := launchDay, updatedAt := launchDay }] }
      used := fun _ => 0
      now := launchDay }

/-- The same world after a run for the job. -/
def greeted : World := (unrecorded.execute (trigger secondJob) greeting).2

theorem greeting_runs :
    FailsRetryably (unrecorded.execute (trigger secondJob) greeting).1 ∧
      unrecorded.commits (trigger secondJob) greeting = 1 := by
  decide +kernel

theorem greeted_runs :
    unrecorded.commits (trigger secondJob.again.finite) greeted = 1 ∧
      (unrecorded.execute (trigger secondJob.again.finite) greeted).2.store.db.comments.length =
        2 := by
  decide +kernel

/-- A chain of two deliveries, each of which commits a comment. -/
theorem greeting_chain :
    ∃ ds, Chain (fun _ => collaborators unrecorded) (.int 3) 0 secondTry ds ∧ ds.length = 2 ∧
      (∀ d ∈ ds, d.commits unrecorded = 1) ∧ ∀ d ∈ ds, Timely d.start := by
  have hm := configured_three.bound
  obtain ⟨fails, first⟩ := greeting_runs
  have second := greeted_runs.1
  rcases deliver_step unrecorded_works hm job_of_secondTry secondJob_holdsCharacters .null greeting
    with ends | ⟨text, sends⟩
  · exact absurd ⟨fails, by decide⟩ ends.final
  have job : (Raw.text text).job? = some secondJob.again.finite := sends.job _ rfl
  have characters := secondJob_holdsCharacters.again.finite secondJob_isReceived.again
  have sent := (sends.sends text).mpr rfl
  have carries : Carries (.text text) text := rfl
  rcases deliver_step unrecorded_works hm job characters .null greeted with ends | ⟨text', sends'⟩
  · have last : Chain (fun _ => collaborators unrecorded) (.int 3) 1 (.text text)
      [deliver (collaborators unrecorded) (.int 3) (.text text) .null greeted] :=
      .last .null greeted ends.silent
    have chain : Chain (fun _ => collaborators unrecorded) (.int 3) 0 secondTry
      [deliver (collaborators unrecorded) (.int 3) secondTry .null greeting,
        deliver (collaborators unrecorded) (.int 3) (.text text) .null greeted] :=
      .again .null greeting sent carries last
    refine ⟨_, chain, List.length_cons .., ?_, ?_⟩
    · intro d hd
      rcases List.mem_cons.mp hd with rfl | hd
      · rw [commits_of_job job_of_secondTry]
        exact first
      · rw [List.mem_singleton.mp hd, commits_of_job job]
        exact second
    · intro d hd
      rcases List.mem_cons.mp hd with rfl | hd
      · exact timely_of_still rfl
      · rw [List.mem_singleton.mp hd]
        exact timely_of_still rfl
  · have remain : 3 < (3 : Int) := sends'.remain
    exact absurd remain (by decide)

theorem an_unrecorded_chain_commits_safely :
    ∃ ds, Chain (fun _ => collaborators unrecorded) (.int 3) 0 secondTry ds ∧ ds.length = 2 ∧
      CommitsSafely (fun _ => unrecorded) ds := by
  obtain ⟨ds, chain, two, -, timely⟩ := greeting_chain
  exact ⟨ds, chain, two, chain_commits_safely (fun _ => unrecorded_unlimited) chain timely⟩

/-- A run whose record is refused is run again, and commits its action again. -/
theorem an_unrecorded_commit_is_repeated :
    (∃ ds, Chain (fun _ => collaborators unrecorded) (.int 3) 0 secondTry ds ∧ ds.length = 2 ∧
      ∀ d ∈ ds, d.commits unrecorded = 1) ∧
    (unrecorded.execute (trigger secondJob.again.finite) greeted).2.store.db.comments.length =
      2 := by
  obtain ⟨ds, chain, two, commits, -⟩ := greeting_chain
  exact ⟨⟨ds, chain, two, commits⟩, greeted_runs.2⟩

end TaskRules.Queue
