import TaskRules.Proofs.ActionFaults
import TaskRules.Proofs.ConfigurationErrors

/-!
How a run of a rule fails. A run passes on the errors of the store and of its action, and has three
of its own, which tell how it ended: late, with a failure that the action reported, or without its
record. So of the engine's errors a run fails with few, and a rule that adds no tasks fails with no
other than those three and that something is not there.

Proved:
- `answer_fails`, `dispatchWithin_fails`: what requests and dispatches are answered with.
- `execute_fails`: how a run fails.
-/

namespace TaskRules.Engine
open TaskRules.Action (isTaken KindFails Request)

/-! ## Requests and dispatches -/

/-- A world whose store meets no error of the engine in an outage. -/
abbrev StoreOutside (w : World) : Prop := w.store.OutageOutside

theorem Untouched.storeOutside {w w' : World} (h : Untouched w w') (outside : StoreOutside w) :
    StoreOutside w' := by
  intro e outage
  rw [h.store.outage] at outage
  exact outside e outage

theorem onStore_fails {reason : Fault → Prop} {x : Run Store α}
    (h : Run.FailsFor Store.OutageOutside reason x) :
    Run.FailsFor StoreOutside reason (World.onStore x) :=
  ⟨⟨fun w hw => h.keeps.state w.store hw⟩, fun w hw => h.fails w.store hw⟩

theorem note_fails {reason : Fault → Prop} (r : Log.Record) :
    Run.FailsFor StoreOutside reason (World.note r) :=
  ⟨⟨fun _ h => h⟩, fun _ _ => .ofOk ()⟩

section Requests
variable (s : Setup) {q : Request}

theorem createTask_fails (d : Task.Draft) (assigneeIds : Json) :
    Run.FailsFor StoreOutside (Request.createTask d assigneeIds).Fails
      (Setup.createTask d assigneeIds) := by
  have store : ∀ e : Fault, e.OfStore → (Request.createTask d assigneeIds).Fails e := fun _ => .inl
  have added : Run.FailsFor StoreOutside (Request.createTask d assigneeIds).Fails
      (World.onStore (Store.createTask d assigneeIds)) := by
    refine onStore_fails (.bind (Store.query_fails store fun db => ?_) fun ids _ =>
      Store.insert_fails store .task true fun db now id => ?_)
    · exact (db.checkDraft_fails d assigneeIds).imp store
    · exact (db.insertTask_fails now id d ids).imp fun e h =>
        h.imp_right fun taken => ⟨taken, d, assigneeIds, rfl⟩
  refine .bind (.attempt added.keeps) fun r given => ?_
  obtain ⟨w, hw, given⟩ := given
  cases r with
  | ok task => exact .ofPure task
  | error e =>
    have reason := added.fails w hw e (Except.ok.inj given)
    dsimp only
    split
    · exact .bind (note_fails _) fun _ _ => .ofRaise reason
    · exact .ofRaise reason

/-- The requests of an action fail for the store's reasons; events and lines in the log do not. -/
theorem answer_fails (q : Request) : Run.FailsFor StoreOutside q.Fails (s.answer q) := by
  have store : ∀ e : Fault, e.OfStore → q.Fails e := fun _ => .inl
  cases q with
  | updateTask id changes =>
    exact onStore_fails (Store.mutate_fails store fun db now =>
      (db.updateTask_fails now id changes).imp store)
  | findProject id =>
    exact onStore_fails (Store.query_fails store fun _ =>
      ((key?_fails id).imp store).bind fun _ => .ofPure _)
  | defaultStatus workflow =>
    refine onStore_fails ?_
    unfold Store.defaultStatus
    split
    · exact .ofPure none
    · refine Store.query_fails store fun _ => ((store_fails .text workflow).imp store).bind ?_
      intro id
      split <;> exact .ofPure _
  | nextNumber project =>
    have asked : Run.FailsFor StoreOutside (Request.nextNumber project).Fails
        (World.onStore (Store.nextNumber project)) :=
      onStore_fails (Store.query_fails store fun db => (db.nextNumber_fails project).imp store)
    constructor
    · constructor
      intro w h
      show StoreOutside (Setup.nextNumber project w).2
      unfold Setup.nextNumber
      split
      · exact h
      · exact asked.keeps.state w h
    · intro w h
      show FailsFor _ (Setup.nextNumber project w).1
      unfold Setup.nextNumber
      split
      · exact .ofOk _
      · exact asked.fails w h
  | createTask d assigneeIds => exact createTask_fails d assigneeIds
  | notify drafts =>
    refine onStore_fails ⟨⟨fun s h => ?_⟩, fun s h => ?_⟩
    · intro e outage
      rw [((Store.notify_keeps drafts).state s (.refl s)).outage] at outage
      exact h e outage
    · unfold Store.notify
      split
      · exact .ofOk _
      · split
        · rename_i e refused
          exact .ofError (store e (Store.refusal_ofStore h refused))
        · dsimp only
          split
          · exact .ofOk _
          · rename_i e failed
            exact .ofError (store e (Store.insertNotifications_fails _ _ _ _ e failed))
  | comment taskId content author =>
    refine onStore_fails (.bind (Store.query_fails store fun db => ?_) fun task _ =>
      Store.insert_fails store .comment true fun db now id =>
        (Store.insertComment_fails db now id task taskId content author).imp store)
    refine ((key?_fails taskId).imp store).bind fun key => ?_
    split
    · exact .ofPure _
    · exact .ofError (store _ (.missing ..))
  | emit e =>
    refine ⟨⟨fun w h => ((emit_leaves s e).state w (.refl w)).storeOutside h⟩, fun w h => ?_⟩
    show FailsFor _ (s.emit e w).1
    have told : (s.emit e w).1 = .ok () := by
      rcases hr : s.deliver e w with ⟨r, w'⟩
      have attempted : Run.attempt (s.deliver e) w = (.ok r, w') := by
        rw [Run.attempt_apply, hr]
      rw [Setup.emit, Run.bind_of_ok attempted]
      cases r <;> rfl
    rw [told]
    exact .ofOk ()
  | log r => exact note_fails r

end Requests

section Dispatches
variable {s : Setup} {maxAttempts : Json} (hs : s.registry = .standard maxAttempts)
include hs

theorem dispatchRead_fails (kind config : Json) (payload : Payload) (context : Action.Context) :
    Run.FailsFor StoreOutside (KindFails kind) (s.dispatchRead kind config payload context) := by
  rw [Setup.dispatchRead, hs]
  exact Action.run_fails (answer_fails s)
    (Action.dispatch_raises maxAttempts kind config payload context)

/-- A dispatch fails for its kind's reasons, on a worker as well as without a limit. -/
theorem dispatchWithin_fails (limit : Option Json) (rule : Rule) (payload : Payload)
    (context : Action.Context) :
    Run.FailsFor StoreOutside (KindFails (.str rule.actionType))
      (s.dispatchWithin limit rule payload context) := by
  have plain := dispatchRead_fails hs (.str rule.actionType) rule.actionConfig payload context
  constructor
  · constructor
    intro w h
    exact ((dispatchWithin_keeps s limit rule payload context).state w (.refl w)).storeOutside h
  · cases limit with
    | none => exact (plain.bind fun _ _ => .ofPure _).fails
    | some limit =>
      intro w h
      show FailsFor _ (s.dispatchPooled rule payload context w).1
      have started := plain.fails { w with pool := w.pool.submit.2.takeAll s.workers } h
      unfold Setup.dispatchPooled
      dsimp only
      split
      · split
        · exact .ofOk _
        · exact .ofOk _
        · rename_i hr
          rw [hr] at started
          exact .ofError (started _ rfl)
      · exact .ofOk _

end Dispatches

/-! ## Runs -/

/-- What a run fails with, given which rules its look-up can find. -/
inductive RunFails (found : Rule → Prop) : Fault → Prop
  | store {e : Fault} (h : e.OfStore) : RunFails found e
  | late (rule limit cancelled : Json) : RunFails found (.timedOut rule limit cancelled)
  | reported (message : String) (retryable data : Json) :
      RunFails found (.actionFailed message retryable data)
  | unrecorded (rule : Json) (cause : String) : RunFails found (.auditFailed rule cause)
  | taken {e : Fault} (h : isTaken e = true) {rule : Rule} (stored : found rule)
      (creates : rule.actionType = "CREATE_TASK") : RunFails found e

theorem RunFails.ofKind {found : Rule → Prop} {rule : Rule} (stored : found rule) {e : Fault}
    (h : KindFails (.str rule.actionType) e) : RunFails found e := by
  rcases h with h | ⟨taken, creates⟩
  · exact .store h
  · exact .taken taken stored (Json.str.inj creates)

/-- Collaborators of the runs of one rule: what keeps a property of the state, the rules that are
found, and why look-ups and dispatches fail. Records may fail in any way. -/
structure Collaborators.FailFor (c : Collaborators σ) (I : σ → Prop) (id : Json)
    (found : Rule → Prop) : Prop where
  keep : c.Keep I
  findRule : ∀ s, I s → FailsFor Fault.OfStore (c.findRule id s).1
  finds : ∀ s rule, I s → (c.findRule id s).1 = .ok (some rule) → found rule
  dispatch : ∀ limit rule payload context s, I s →
    FailsFor (KindFails (.str rule.actionType)) (c.dispatch limit rule payload context s).1
  clock : ∀ s, I s → FailsFor Fault.OfStore (c.clock s).1
  log : ∀ r s, I s → FailsFor Fault.OfStore (c.log r s).1

theorem toDouble_fails (x : Reading) : FailsFor Fault.OfStore x.toDouble := by
  -- under another name the conversion is not computed, which would take hundreds of digits
  obtain ⟨ofInt, named⟩ : ∃ f, f = Double.ofInt := ⟨_, rfl⟩
  unfold Json.Numeric.toDouble
  rw [← named]
  cases x with
  | double x => exact .ofOk x
  | int n =>
    dsimp only
    cases ofInt n with
    | infinite => exact .ofError (.outside rfl)
    | _ => exact .ofOk _

theorem rounded_fails (x : Double) : FailsFor Fault.OfStore (Reading.rounded x) := by
  unfold Reading.rounded
  split
  · exact .ofOk _
  · split
    · exact .ofError (.outside rfl)
    · exact .ofError (.outside rfl)

theorem sub_fails (x y : Reading) : FailsFor Fault.OfStore (x.sub y) := by
  unfold Json.Numeric.sub
  split
  · exact .ofOk _
  · exact (toDouble_fails _).bind fun _ => (toDouble_fails _).bind fun _ => .ofPure _

theorem mul_fails (x y : Reading) : FailsFor Fault.OfStore (x.mul y) := by
  unfold Json.Numeric.mul
  split
  · exact .ofOk _
  · exact (toDouble_fails _).bind fun _ => (toDouble_fails _).bind fun _ => .ofPure _

theorem elapsedMs_fails (started now : Reading) :
    FailsFor Fault.OfStore (Reading.elapsedMs started now) := by
  unfold Reading.elapsedMs
  refine (sub_fails now started).bind fun x => (mul_fails x _).bind fun y => ?_
  split
  · exact .ofPure _
  · exact (rounded_fails _).bind fun _ => .ofPure _

theorem read_fails (v : Json) : FailsFor Fault.OfStore (Payload.read v) := by
  have pair (n : Nat) (v : Json) : FailsFor Fault.OfStore (Payload.pair n v) := by
    unfold Payload.pair
    dsimp only
    split
    · exact .ofError (.outside rfl)
    · exact (nameOf_fails _).bind fun _ => .ofPure _
    · exact .ofError (.outside rfl)
  have pairs (l : List Json) : ∀ n, FailsFor Fault.OfStore (Payload.pairs n l) := by
    induction l with
    | nil => exact fun _ => .ofOk _
    | cons v rest ih =>
      exact fun n => (pair n v).bind fun _ => (ih (n + 1)).bind fun _ => .ofPure _
  unfold Payload.read
  split
  · exact .ofOk _
  · split
    · exact .ofOk _
    · exact (itemsOf_fails _).bind fun items => (pairs items 0).bind fun _ => .ofPure _

theorem positiveLimit_fails (limit : Json) : FailsFor Fault.OfStore (positiveLimit? limit) := by
  unfold positiveLimit?
  split
  · exact .ofOk _
  · exact .ofOk _
  · split
    · exact .ofError (.outside rfl)
    · exact .ofOk none

section Runs
variable {c : Collaborators σ} {I : σ → Prop} {id : Json} {found : Rule → Prop}
  (hc : c.FailFor I id found) (p : Policy) (h : Header)
include hc

theorem logs_fail (r : Log.Record) : Run.FailsFor I (RunFails found) (c.log r) :=
  ⟨hc.keep.log r, fun s hs => (hc.log r s hs).imp fun _ => .store⟩

theorem since_fails (started : Reading) : Run.FailsFor I (RunFails found) (sinceMs c started) :=
  .bind ⟨hc.keep.clock, fun s hs => (hc.clock s hs).imp fun _ => .store⟩ fun now _ =>
    .ofResult ((elapsedMs_fails started now).imp fun _ => .store)

theorem record_fails (success : Bool) (outcome : String) (result : Json) (error : Option String) :
    Run.FailsFor I (RunFails found) (record c h success outcome result error) := by
  refine .bind (since_fails hc h.started) fun elapsed _ => ?_
  unfold write
  refine .bind (.attempt (hc.keep.create _)) fun r _ => ?_
  cases r with
  | ok saved => exact .ofPure saved
  | error e => exact .bind (logs_fail hc _) fun _ _ => .ofRaise (.unrecorded ..)

/-- A failure is recorded and then raised. -/
theorem failure_fails (r : Log.Record) (text : String) {e : Fault} (he : RunFails found e) :
    Run.FailsFor I (RunFails found) (c.log r >>= fun _ =>
      record c h false failureOutcome .null (some text) >>= fun _ => .raise e : Run σ Outcome) :=
  .bind (logs_fail hc r) fun _ _ => .bind (record_fails hc h ..) fun _ _ => .ofRaise he

theorem failRaised_fails {e : Fault} (he : RunFails found e) :
    Run.FailsFor I (RunFails found) (failRaised c h e) := by
  unfold failRaised
  split
  · exact failure_fails hc h _ _ he
  · exact failure_fails hc h _ _ he

theorem skipUnavailable_fails : Run.FailsFor I (RunFails found) (skipUnavailable c p h) := by
  refine .bind (logs_fail hc _) fun _ _ => .bind (since_fails hc _) fun _ _ => ?_
  split
  · exact .bind (record_fails hc h ..) fun _ _ => .ofPure _
  · exact .ofPure _

theorem act_fails {rule : Rule} (stored : found rule) (payload : Payload) :
    Run.FailsFor I (RunFails found) (act c p h rule payload) := by
  refine .bind (logs_fail hc _) fun _ _ => ?_
  have dispatched : ∀ limit context, Run.FailsFor I (RunFails found)
      (Run.ofExcept (positiveLimit? limit) >>= fun counted =>
        c.dispatch counted rule payload context) := fun limit context =>
    .bind (.ofResult ((positiveLimit_fails limit).imp fun _ => .store)) fun counted _ =>
      ⟨hc.keep.dispatch .., fun s hs => (hc.dispatch _ _ _ _ s hs).imp fun _ => .ofKind stored⟩
  refine .bind (.attempt (dispatched _ _).keeps) fun r given => ?_
  rcases r with e | (result | started)
  · obtain ⟨s, hs, given⟩ := given
    exact failRaised_fails hc h ((dispatched _ _).fails s hs e (Except.ok.inj given))
  · dsimp only
    split
    · exact .bind (record_fails hc h ..) fun _ _ => .bind (logs_fail hc _) fun _ _ => .ofPure _
    · exact failure_fails hc h _ _ (.reported ..)
  · exact failure_fails hc h _ _ (.late ..)

theorem runActive_fails {rule : Rule} (stored : found rule) (payload : Payload) :
    Run.FailsFor I (RunFails found) (runActive c p h rule payload) := by
  unfold runActive
  rcases Condition.isMet rule (.obj payload.named) with ⟨met, notes⟩
  refine .bind (logs_fail hc _) fun _ _ => .bind (.forM (logs_fail hc) _) fun _ _ =>
    .bind (logs_fail hc _) fun _ _ => ?_
  cases met with
  | true => exact act_fails hc p h stored payload
  | false =>
    exact .bind (logs_fail hc _) fun _ _ => .bind (logs_fail hc _) fun _ _ =>
      .bind (record_fails hc h ..) fun _ _ => .ofPure _

/-- A run fails for its own reasons and for those of what it is run with. -/
theorem execute_fails {t : Trigger} (own : t.ruleId = id) :
    Run.FailsFor I (RunFails found) (execute c p t) := by
  subst own
  refine .bind (.ofResult ((read_fails t.payload).imp fun _ => .store)) fun payload _ =>
    .bind (logs_fail hc _) fun _ _ => ?_
  refine .bind ⟨hc.keep.findRule _, fun s hs => (hc.findRule s hs).imp fun _ => .store⟩
    fun rule given => ?_
  refine .bind ⟨hc.keep.clock, fun s hs => (hc.clock s hs).imp fun _ => .store⟩
    fun started _ => ?_
  obtain ⟨s, hs, given⟩ := given
  cases rule with
  | none => exact skipUnavailable_fails hc p _
  | some rule =>
    dsimp only
    split
    · exact runActive_fails hc p _ (hc.finds s rule hs given) payload
    · exact skipUnavailable_fails hc p _

end Runs

/-- A run on the store's own rules fails for these reasons. -/
theorem standard_fails {s : Setup} {maxAttempts : Json} (hs : s.registry = .standard maxAttempts)
    {w₀ : World} (outside : StoreOutside w₀) (id : String) :
    s.collaborators.FailFor (fun w => ∃ added, w₀.store.Grown added w.store) (.str id)
      fun rule => ∃ r, w₀.store.db.rule? id = some r ∧ r.rule = rule := by
  have reached : ∀ w, (∃ added, w₀.store.Grown added w.store) → StoreOutside w := by
    rintro w ⟨added, grown⟩ e outage
    rw [grown.outage] at outage
    exact outside e outage
  refine ⟨grown_keep s w₀, ?_, ?_, ?_, ?_, ?_⟩
  · intro w h
    refine (onStore_fails (Store.query_fails (fun _ h => h) fun db => ?_)).fails w (reached w h)
    exact (key?_fails _).bind fun _ => .ofPure _
  · rintro w rule ⟨added, grown⟩ found
    have first := (Store.findRule_grown (.str id) grown).symm.trans found
    have stored := Store.findRule_ok first
    exact Option.map_eq_some_iff.mp stored.symm
  · intro limit rule payload context w h
    exact (dispatchWithin_fails hs limit rule payload context).fails w (reached w h)
  · intro w _
    obtain ⟨now, w', told, -, -⟩ := clock_tells (w := w)
    show FailsFor _ (World.clock w).1
    rw [told]
    exact .ofOk now
  · exact fun _ _ _ => .ofOk ()

end TaskRules.Engine
