import TaskRules.Proofs.Repetition

/-!
Why calls on the store fail. A value cannot be handed to the database, a row is refused by it, it
cannot be used at all, or something that was named is not there. Of the engine's own errors only the
last is among these, and, where a task is added, that its number or slug is taken.

Proved:
- `FailsFor.bind`, `FailsFor.mapM`, `Run.FailsFor.bind`: why a computation fails that is put
  together.
- `handedOver_fails`, `requireUsers_fails`, `keep_fails`: why checks and columns fail.
- `updateTask_fails`, `insertTask_fails`, `insertComment_fails`, `insertNotifications_fails`: why
  changes fail.
- `query_fails`, `mutate_fails`, `insert_fails`: why calls fail, outages included.
-/

namespace TaskRules
open TaskRules.Action (isTaken)

/-! ## Reasons -/

/-- A computation that fails only for some reasons. -/
def FailsFor (reason : ε → Prop) (x : Except ε α) : Prop := ∀ e, x = .error e → reason e

namespace FailsFor
variable {reason reason' : ε → Prop}

theorem ofOk (a : α) : FailsFor reason (.ok a) := by
  intro e h
  cases h

theorem ofPure (a : α) : FailsFor reason (pure a) := ofOk a

theorem ofError {e : ε} (h : reason e) : FailsFor reason (.error e : Except ε α) := by
  rintro _ ⟨⟩
  exact h

theorem imp (himp : ∀ e, reason e → reason' e) {x : Except ε α} (h : FailsFor reason x) :
    FailsFor reason' x := fun e he => himp e (h e he)

theorem bind {x : Except ε α} (hx : FailsFor reason x) {f : α → Except ε β}
    (hf : ∀ a, FailsFor reason (f a)) : FailsFor reason (x >>= f) := by
  cases x with
  | ok a => exact hf a
  | error e => exact ofError (hx e rfl)

theorem map {x : Except ε α} (hx : FailsFor reason x) (f : α → β) : FailsFor reason (x.map f) := by
  cases x with
  | ok a => exact ofOk (f a)
  | error e => exact ofError (hx e rfl)

theorem forM {f : α → Except ε PUnit} (hf : ∀ a, FailsFor reason (f a)) (l : List α) :
    FailsFor reason (l.forM f) := by
  induction l with
  | nil => exact ofPure _
  | cons a rest ih => exact (hf a).bind fun _ => ih

theorem mapM {f : α → Except ε β} (hf : ∀ a, FailsFor reason (f a)) (l : List α) :
    FailsFor reason (l.mapM f) := by
  induction l with
  | nil => exact ofPure []
  | cons a rest ih =>
    rw [List.mapM_cons]
    exact (hf a).bind fun _ => ih.bind fun _ => .ofPure _

end FailsFor

/-- A run that keeps a property of the state and, from there, fails only for some reasons. -/
structure Run.FailsFor (I : σ → Prop) (reason : Fault → Prop) (x : Run σ α) : Prop where
  keeps : Run.Keeps I x
  fails : ∀ s, I s → TaskRules.FailsFor reason (x s).1

namespace Run.FailsFor
variable {I : σ → Prop} {reason : Fault → Prop}

theorem ofPure (a : α) : FailsFor I reason (pure a : Run σ α) := ⟨.ofPure a, fun _ _ => .ofOk a⟩

theorem ofRaise {e : Fault} (h : reason e) : FailsFor I reason (raise e : Run σ α) :=
  ⟨.ofRaise e, fun _ _ => .ofError h⟩

theorem ofResult {r : Except Fault α} (h : TaskRules.FailsFor reason r) :
    FailsFor I reason (ofExcept r : Run σ α) :=
  ⟨.ofResult r, fun _ _ => h⟩

/-- A run in two parts; the second is asked about only for what the first can give. -/
theorem bind {x : Run σ α} (hx : FailsFor I reason x) {f : α → Run σ β}
    (hf : ∀ a, (∃ s, I s ∧ (x s).1 = .ok a) → FailsFor I reason (f a)) :
    FailsFor I reason (x >>= f) := by
  have both : ∀ s, I s → I ((x >>= f) s).2 ∧ TaskRules.FailsFor reason ((x >>= f) s).1 := by
    intro s hs
    have state := hx.keeps.state s hs
    have fails := hx.fails s hs
    rcases hr : x s with ⟨r, s'⟩
    rw [hr] at state fails
    cases r with
    | ok a =>
      have next := hf a ⟨s, hs, by rw [hr]⟩
      rw [bind_of_ok hr]
      exact ⟨next.keeps.state s' state, next.fails s' state⟩
    | error e =>
      rw [bind_of_error hr]
      exact ⟨state, .ofError (fails e rfl)⟩
  exact ⟨⟨fun s hs => (both s hs).1⟩, fun s hs => (both s hs).2⟩

/-- The outcome itself is no failure. -/
theorem attempt {x : Run σ α} (hx : Run.Keeps I x) : FailsFor I reason (Run.attempt x) :=
  ⟨.attempt hx, fun _ _ => .ofOk _⟩

theorem forM {f : α → Run σ PUnit} (h : ∀ a, FailsFor I reason (f a)) :
    ∀ l : List α, FailsFor I reason (l.forM f)
  | [] => ofPure _
  | a :: rest => (h a).bind fun _ _ => forM h rest

end Run.FailsFor

/-- The errors of a store: errors from outside the engine, and that something is not there. -/
inductive Fault.OfStore : Fault → Prop
  | outside {e : Fault} (h : e.isEngine = false) : OfStore e
  | missing (entity : String) (id : Json) : OfStore (.notFound entity id)

theorem Fault.OfStore.untaken {e : Fault} (h : e.OfStore) : isTaken e = false := by
  cases h with
  | outside h => cases e <;> first | rfl | cases h
  | missing => rfl

/-! ## Values and columns -/

theorem handedOver_fails (v : Json) : FailsFor Fault.OfStore (handedOver v) := by
  unfold handedOver
  split
  · split
    · exact .ofOk _
    · exact .ofError (.outside rfl)
  · split
    · exact .ofOk _
    · exact .ofError (.outside rfl)
  · exact .ofError (.outside rfl)
  · exact .ofError (.outside rfl)
  · exact .ofOk _

theorem store_fails (a : Affinity) (v : Json) : FailsFor Fault.OfStore (a.store v) :=
  (handedOver_fails v).map _

theorem nameOf_fails (v : Json) : FailsFor Fault.OfStore (Fault.nameOf v) := by
  unfold Fault.nameOf
  split
  · exact .ofError (.outside rfl)
  · exact .ofError (.outside rfl)
  · exact .ofOk _

theorem itemsOf_fails (v : Json) : FailsFor Fault.OfStore (Fault.itemsOf v) := by
  unfold Fault.itemsOf
  split
  · exact .ofOk _
  · exact .ofError (.outside rfl)

theorem key?_fails (v : Json) : FailsFor Fault.OfStore (Column.key? v) := by
  unfold Column.key?
  extract_lets single
  have named (v : Json) : FailsFor Fault.OfStore (single v) := by
    refine (nameOf_fails v).bind fun name => (store_fails .text name).bind fun stored => ?_
    split <;> exact .ofPure _
  split
  · exact named _
  · exact .ofError (.outside rfl)
  · exact named _
  · exact .ofError (.outside rfl)
  · exact named _

theorem columnStore_fails (kind : ColumnKind) (v : Json) :
    FailsFor Fault.OfStore (kind.store v) := by
  unfold ColumnKind.store
  split
  · exact store_fails .text v
  · exact store_fails .number v
  all_goals exact .ofOk _

theorem keep_fails (t : Table) (fields : Json.Fields) : FailsFor Fault.OfStore (t.keep fields) := by
  unfold Table.keep
  dsimp only
  split
  · exact .ofError (.outside rfl)
  · refine .mapM ?_ _
    rintro ⟨column, v⟩
    exact (columnStore_fails column.2 v).bind fun _ => .ofPure _

theorem rowOrFault_fails (row : Option α) : FailsFor Fault.OfStore (rowOrFault row) := by
  cases row with
  | none => exact .ofError (.outside rfl)
  | some r => exact .ofOk r

theorem addRow_fails (clashes : α → α → Bool) (rows : List α) (row : α) :
    FailsFor Fault.OfStore (addRow clashes rows row) := by
  unfold addRow
  split
  · exact .ofError (.outside rfl)
  · exact .ofOk _

theorem whole_fails (q : Quantity) : FailsFor Fault.OfStore q.whole := by
  cases q with
  | int n => exact .ofOk n
  | double x =>
    show FailsFor _ (Quantity.wholeOf x)
    unfold Quantity.wholeOf
    split
    · exact .ofError (.outside rfl)
    · exact .ofError (.outside rfl)
    · exact .ofOk _
  | text s =>
    show FailsFor _ ((Numeral.integer s.toList).mapError Fault.ofNumeral)
    cases Numeral.integer s.toList with
    | ok n => exact .ofOk n
    | error fault => exact .ofError (.outside rfl)

/-! ## Checks and changes -/

namespace Database
variable (db : Database)

theorem requireStatus_fails (v : Json) : FailsFor Fault.OfStore (db.requireStatus v) := by
  refine (key?_fails v).bind fun key => ?_
  split
  · exact .ofPure ()
  · exact .ofError (.missing ..)

theorem differing_fails (l : List Json) : FailsFor Fault.OfStore (differing l) := by
  induction l with
  | nil => exact .ofOk []
  | cons v rest ih => exact (nameOf_fails v).bind fun _ => ih.bind fun _ => .ofPure _

theorem requireUser_fails (v : Json) : FailsFor Fault.OfStore (db.requireUser v) := by
  unfold requireUser
  split
  · split
    · exact .ofOk _
    · exact .ofError (.missing ..)
  · exact .ofError (.missing ..)

theorem requireUsers_fails (users : Json) : FailsFor Fault.OfStore (db.requireUsers users) := by
  have handed : ∀ v, FailsFor Fault.OfStore (do let _ ← handedOver v) :=
    fun v => (handedOver_fails v).bind fun _ => .ofPure _
  exact (itemsOf_fails users).bind fun _ => (differing_fails _).bind fun ids =>
    (FailsFor.forM handed ids).bind fun _ => .mapM db.requireUser_fails ids

theorem requireLabel_fails (taskId v : Json) :
    FailsFor Fault.OfStore (db.requireLabel taskId v) := by
  refine (key?_fails v).bind fun key => ?_
  split
  · exact (nameOf_fails taskId).bind fun _ => (nameOf_fails v).bind fun _ => .ofPure _
  · exact .ofError (.missing ..)

theorem checkDraft_fails (d : Task.Draft) (assigneeIds : Json) :
    FailsFor Fault.OfStore (db.checkDraft d assigneeIds) := by
  unfold checkDraft
  split
  · exact (db.requireStatus_fails d.statusId).bind fun _ => db.requireUsers_fails assigneeIds
  · exact db.requireUsers_fails assigneeIds

theorem checkStatus_fails (c : TaskChanges) : FailsFor Fault.OfStore (db.checkStatus c) := by
  unfold checkStatus
  split
  · exact db.requireStatus_fails _
  · exact .ofPure ()

theorem namedUsers_fails (id : Json) (c : TaskChanges) :
    FailsFor Fault.OfStore (db.namedUsers id c) := by
  unfold namedUsers
  split
  · exact .ofPure none
  · exact (db.requireUsers_fails _).bind fun _ => (handedOver_fails id).bind fun _ => .ofPure _

theorem updateTask_fails (now : Moment) (id : Json) (c : TaskChanges) :
    FailsFor Fault.OfStore (db.updateTask now id c) := by
  rw [updateTask_eq]
  refine .bind (key?_fails id) fun key => ?_
  split
  · refine .bind (db.checkStatus_fails c) fun _ => .bind (db.namedUsers_fails id c) fun users => ?_
    refine .bind (.bind (itemsOf_fails _) fun _ => .mapM (db.requireLabel_fails id) _) fun _ => ?_
    refine .bind (keep_fails .tasks _) fun kept => ?_
    dsimp only
    split
    · exact .ofError (.outside rfl)
    · exact .ofPure _
  · exact .ofError (.missing ..)

theorem nextNumber_fails (projectId : Json) : FailsFor Fault.OfStore (db.nextNumber projectId) := by
  refine (store_fails .text projectId).bind fun v => ?_
  split
  · split
    · exact (whole_fails _).bind fun _ => .ofPure _
    · exact .ofPure _
  · exact .ofPure _

/-- A new task may also be refused because its number or slug is taken. -/
theorem insertTask_fails (now : Moment) (id : String) (d : Task.Draft)
    (assigneeIds : List String) :
    FailsFor (fun e => e.OfStore ∨ isTaken e = true) (db.insertTask now id d assigneeIds) := by
  refine ((keep_fails .tasks _).imp fun _ => .inl).bind fun kept => ?_
  have row : FailsFor Fault.OfStore (rowOrFault (Task.ofFields? kept id now) >>= fun t =>
      (addRow Task.clashes db.tasks t).map (t, ·)) :=
    (rowOrFault_fails _).bind fun t => (addRow_fails _ _ _).map _
  split
  · dsimp only
    split
    · exact .ofError (.inl (.outside rfl))
    · exact .ofPure _
  · rename_i e failed
    split
    · exact .ofError (.inr rfl)
    · exact .ofError (.inl (row e failed))

end Database

namespace Store

theorem insertComment_fails (db : Database) (now : Moment) (id : String) (task : Task)
    (taskId content authorId : Json) :
    FailsFor Fault.OfStore (insertComment db now id task taskId content authorId) :=
  (keep_fails .comments _).bind fun _ => (rowOrFault_fails _).bind fun _ =>
    (addRow_fails _ _ _).bind fun _ => .ofPure _

theorem insertNotifications_fails (now : Moment) (n : Nat) (drafts : List Notification.Draft)
    (rows : List Notification) :
    FailsFor Fault.OfStore (insertNotifications now n drafts rows) := by
  induction drafts generalizing n rows with
  | nil => exact .ofOk rows
  | cons d rest ih =>
    exact (keep_fails .notifications _).bind fun _ => (rowOrFault_fails _).bind fun _ =>
      (addRow_fails _ _ _).bind fun _ => ih _ _

/-! ## Calls -/

/-- What the store's calls meet during an outage is no error of the engine. -/
def OutageOutside (s : Store) : Prop := ∀ e, s.outage = some e → e.isEngine = false

theorem refusal_ofStore {s : Store} (h : s.OutageOutside) {e : Fault}
    (refused : s.refusal? = some e) : e.OfStore := by
  unfold refusal? at refused
  cases outage : s.outage with
  | some e' =>
    rw [outage] at refused
    cases refused
    exact .outside (h e outage)
  | none =>
    rw [outage] at refused
    change (if s.hasTables then none else some Fault.database) = some e at refused
    split at refused
    · cases refused
    · cases refused
      exact .outside rfl

section Calls
variable {reason : Fault → Prop} (store : ∀ e : Fault, e.OfStore → reason e)
include store

theorem query_fails {f : Database → Except Fault α} (hf : ∀ db, FailsFor reason (f db)) :
    Run.FailsFor OutageOutside reason (query f) := by
  refine ⟨⟨fun s h => by rwa [query_apply]⟩, fun s h => ?_⟩
  unfold query
  split
  · rename_i e refused
    exact .ofError (store e (refusal_ofStore h refused))
  · exact hf s.db

theorem mutate_fails {f : Database → Moment → Except Fault (α × Database)}
    (hf : ∀ db now, FailsFor reason (f db now)) :
    Run.FailsFor OutageOutside reason (mutate f) := by
  constructor
  · constructor
    intro s h
    unfold mutate
    split
    · exact h
    · split
      · exact h
      · exact h
  · intro s h
    unfold mutate
    split
    · rename_i e refused
      exact .ofError (store e (refusal_ofStore h refused))
    · split
      · exact .ofOk _
      · rename_i e failed
        exact .ofError (hf _ _ e failed)

theorem insert_fails (kind : IdKind) (takesId : Bool)
    {f : Database → Moment → String → Except Fault (α × Database)}
    (hf : ∀ db now id, FailsFor reason (f db now id)) :
    Run.FailsFor OutageOutside reason (insert kind takesId f) := by
  constructor
  · constructor
    intro s h
    have used : OutageOutside (if takesId = true then s.useIds kind 1 else s) := by
      cases takesId <;> exact h
    unfold insert
    split
    · exact h
    · dsimp only
      split <;> exact used
  · intro s h
    unfold insert
    split
    · rename_i e outage
      exact .ofError (store e (.outside (h e outage)))
    · dsimp only
      split
      · rename_i refused
        exact .ofError (store _ (refusal_ofStore h refused))
      · exact .ofOk _
      · rename_i failed
        exact .ofError (hf _ _ _ _ failed)

end Calls
end Store
end TaskRules
