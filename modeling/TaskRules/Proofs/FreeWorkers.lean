import TaskRules.Proofs.SingleCommit

/-!
Free workers. A dispatch with a time limit needs a worker of the pool; one that ends gives its
worker back. The actions of the eight kinds always end, and touch nothing of the pool, so an engine
with their handlers that starts with a free worker and an empty queue keeps both: there, a limit
never keeps a dispatch from starting.

Proved:
- `HasRoom.taken`, `HasRoom.given_back`: a pool with room takes what is submitted, and has room
  again when that has finished.
- `answer_keeps_pool`, `dispatchRead_ends`: no request touches the pool, and every dispatch ends.
- `dispatchWithin_ends`: with room in the pool a dispatch under a limit does what it does without
  one.
- `execute_keeps_room`: every run of a rule leaves room in the pool.
-/

namespace TaskRules.Engine

/-! ## Pools -/

/-- A pool in which nothing waits and a worker, of so many, is free. -/
structure Pool.HasRoom (workers : Nat) (p : Pool) : Prop where
  waiting : p.waiting = []
  free : p.running.length < workers

namespace Pool.HasRoom
variable {workers : Nat} {p : Pool}

/-- A pool in which nobody works. -/
theorem idle (h : 0 < workers) : HasRoom workers {} := ⟨rfl, h⟩

/-- What is submitted is taken at once. -/
theorem taken (h : p.HasRoom workers) :
    p.submit.2.takeAll workers =
      { submitted := p.submitted + 1, waiting := [], running := p.running ++ [p.submitted] } := by
  simp [submit, takeAll, takeUpTo, take?, h.waiting, h.free]

theorem starts (h : p.HasRoom workers) :
    (p.submit.2.takeAll workers).isRunning p.submit.1 = true := by
  rw [h.taken]
  simp [isRunning, submit]

theorem given_back (h : p.HasRoom workers) :
    ((p.submit.2.takeAll workers).finish p.submit.1).HasRoom workers := by
  have fewer : (p.running.filter (· != p.submitted)).length ≤ p.running.length :=
    List.length_filter_le ..
  have free := h.free
  rw [h.taken]
  constructor
  · rfl
  · simp only [finish, submit, List.filter_append, List.length_append]
    simp
    omega

end Pool.HasRoom

/-! ## Dispatches -/

section Requests
variable {pool : Pool} (s : Setup)

/-- A part of the world other than the pool. -/
theorem change_keeps_pool {f : World → World} (hf : ∀ w, (f w).pool = w.pool) :
    Run.Keeps (·.pool = pool) (Run.change f) :=
  ⟨fun w h => (hf w).trans h⟩

theorem onStore_keeps_pool (x : Run Store α) : Run.Keeps (·.pool = pool) (World.onStore x) :=
  ⟨fun _ h => h⟩

theorem note_keeps_pool (r : Log.Record) : Run.Keeps (·.pool = pool) (World.note r) :=
  change_keeps_pool fun _ => rfl

theorem call_keeps_pool (refused : List String) (client : Broker.Client) (c : Broker.Call) :
    Run.Keeps (·.pool = pool) (World.call refused client c) := by
  constructor
  intro w h
  unfold World.call
  split
  · exact h
  · exact h

theorem deliver_keeps_pool (e : Event) : Run.Keeps (·.pool = pool) (s.deliver e) := by
  have read : Run.Keeps (fun w : World => w.pool = pool) Run.read := ⟨fun _ h => h⟩
  have receive : Run.Keeps (·.pool = pool)
      (Run.change fun w : World => { w with received := w.received ++ [e] }) :=
    change_keeps_pool fun _ => rfl
  unfold Setup.deliver
  rcases s.notifier with _ | _ | _ | (_ | refusal) | refusal
  · exact .ofPure ()
  · exact .bind (.ofResult _) note_keeps_pool
  · dsimp only
    unfold Setup.publishEvent
    split
    · exact note_keeps_pool _
    · exact .bind read fun w => call_keeps_pool ..
  · exact receive
  · exact .ofRaise refusal
  · refine .bind read fun w => ?_
    cases refusal w e with
    | some fault => exact .ofRaise fault
    | none => exact receive

/-- No request of an action touches the pool. -/
theorem answer_keeps_pool (q : Action.Request) : Run.Keeps (·.pool = pool) (s.answer q) := by
  cases q with
  | nextNumber project =>
    constructor
    intro w h
    show (Setup.nextNumber project w).2.pool = pool
    unfold Setup.nextNumber
    split
    · exact h
    · exact h
  | createTask d assigneeIds =>
    refine .bind (.attempt (onStore_keeps_pool _)) fun r => ?_
    cases r with
    | ok task => exact .ofPure task
    | error e =>
      dsimp only
      split
      · exact .bind (note_keeps_pool _) fun _ => .ofRaise e
      · exact .ofRaise e
  | emit e =>
    refine .bind (.attempt (deliver_keeps_pool s e)) fun r => ?_
    cases r with
    | ok u => exact .ofPure _
    | error fault => exact note_keeps_pool _
  | log r => exact note_keeps_pool r
  | _ => exact onStore_keeps_pool _

end Requests

section Dispatches
variable {s : Setup} {maxAttempts : Json} (hs : s.registry = .standard maxAttempts)
include hs

/-- Every dispatch to the handlers of all kinds ends, and leaves the pool as it was. -/
theorem dispatchRead_ends (kind config : Json) (payload : Payload) (context : Action.Context)
    (w : World) :
    ∃ (r : Except Fault Action.Result) (w' : World),
      s.dispatchRead kind config payload context w = (r.map some, w') ∧ w'.pool = w.pool := by
  have pool := (run_keeps (answer_keeps_pool s)
    (s.registry.dispatch kind config (.ok payload) context)).state w rfl
  have one := Action.dispatch_oneChange maxAttempts kind config (.ok payload) context
  obtain ⟨r, w', made, hnoted, hatomic⟩ := run_atomic s one w []
  have hrun := Action.run_of_noted hnoted
  rw [hs, hrun] at pool
  have ends : ∀ ending, r = .ok ending → ∃ result, ending = some result := by
    intro ending h
    rcases hatomic with ⟨-, -, idle⟩ | ⟨-, a, ha, result, hresult, -⟩
    · obtain ⟨result, hresult, -⟩ := idle ending h
      exact ⟨result, hresult⟩
    · obtain rfl : a = ending := Except.ok.inj (ha.symm.trans h)
      exact ⟨result, hresult⟩
  rw [Setup.dispatchRead, hs, hrun]
  cases r with
  | error e => exact ⟨.error e, w', rfl, pool⟩
  | ok ending =>
    obtain ⟨result, rfl⟩ := ends ending rfl
    exact ⟨.ok result, w', rfl, pool⟩

/-- With room in the pool, a dispatch under a limit starts, ends and gives its worker back. -/
theorem dispatchPooled_ends (rule : Rule) (payload : Payload) (context : Action.Context) {w : World}
    (room : w.pool.HasRoom s.workers) :
    ∃ (taken given : Pool) (r : Except Fault Action.Result) (w' : World),
      s.dispatchRead (.str rule.actionType) rule.actionConfig payload context
        { w with pool := taken } = (r.map some, w') ∧
      s.dispatchPooled rule payload context w = (r.map .ended, { w' with pool := given }) ∧
      given.HasRoom s.workers := by
  obtain ⟨r, w', hread, hpool⟩ := dispatchRead_ends hs (.str rule.actionType) rule.actionConfig
    payload context { w with pool := w.pool.submit.2.takeAll s.workers }
  refine ⟨_, w'.pool.finish w.pool.submit.1, r, w', hread, ?_, ?_⟩
  · unfold Setup.dispatchPooled
    dsimp only
    rw [if_pos room.starts, hread]
    cases r with
    | error e => rfl
    | ok result => rfl
  · rw [hpool]
    exact room.given_back

/-- With room in the pool, or without a limit, a dispatch does what its action does. -/
theorem dispatchWithin_ends {limit : Option Json} (rule : Rule) (payload : Payload)
    (context : Action.Context) {w : World} (room : limit.isSome → w.pool.HasRoom s.workers) :
    ∃ (taken given : Pool) (r : Except Fault Action.Result) (w' : World),
      s.dispatchRead (.str rule.actionType) rule.actionConfig payload context
        { w with pool := taken } = (r.map some, w') ∧
      s.dispatchWithin limit rule payload context w =
        (r.map .ended, { w' with pool := given }) := by
  cases limit with
  | some limit =>
    obtain ⟨taken, given, r, w', hread, hpooled, -⟩ :=
      dispatchPooled_ends hs rule payload context (room rfl)
    exact ⟨taken, given, r, w', hread, hpooled⟩
  | none =>
    obtain ⟨r, w', hread, -⟩ :=
      dispatchRead_ends hs (.str rule.actionType) rule.actionConfig payload context w
    refine ⟨w.pool, w'.pool, r, w', hread, ?_⟩
    cases r with
    | error e => exact Run.bind_of_error hread _
    | ok result => exact Run.bind_of_ok hread _

theorem dispatchWithin_keeps_room (limit : Option Json) (rule : Rule) (payload : Payload)
    (context : Action.Context) :
    Run.Keeps (·.pool.HasRoom s.workers) (s.dispatchWithin limit rule payload context) := by
  constructor
  intro w room
  cases limit with
  | some limit =>
    obtain ⟨taken, given, r, w', -, hpooled, hgiven⟩ :=
      dispatchPooled_ends hs rule payload context room
    show (s.dispatchPooled rule payload context w).2.pool.HasRoom s.workers
    rw [hpooled]
    exact hgiven
  | none =>
    have same : Run.Keeps (·.pool = w.pool) (s.dispatchWithin none rule payload context) :=
      .bind (run_keeps (answer_keeps_pool s) _) fun _ => .ofPure _
    rw [same.state w rfl]
    exact room

/-- Every call of a run leaves room in the pool. -/
theorem collaborators_keep_room : s.collaborators.Keep (·.pool.HasRoom s.workers) where
  findRule _ := ⟨fun _ h => h⟩
  dispatch := dispatchWithin_keeps_room hs
  create draft := by
    constructor
    intro w h
    show (s.createRecord draft w).2.pool.HasRoom s.workers
    unfold Setup.createRecord
    cases s.auditFault with
    | some fault => exact h
    | none => exact h
  clock := by
    constructor
    intro w h
    show (World.clock w).2.pool.HasRoom s.workers
    unfold World.clock
    split
    · exact h
    · exact h
    · exact h
  log _ := ⟨fun _ h => h⟩

/-- An engine with the handlers of all kinds keeps room in its pool. -/
theorem execute_keeps_room (t : Trigger) : Run.Keeps (·.pool.HasRoom s.workers) (s.execute t) :=
  execute_keeps (collaborators_keep_room hs) s.policy t

end Dispatches
end TaskRules.Engine
