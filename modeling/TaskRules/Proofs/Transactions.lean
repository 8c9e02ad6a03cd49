import TaskRules.Proofs.Runs
import TaskRules.Store.Calls

/-!
Calls on the store as transactions. A call reads the database or changes it; one that fails leaves
the rows of every table as they were, though it may have used up an id.

Proved:
- `query_reads`: a query leaves the store as it was.
- `mutate_reverts`, `insert_reverts`, `notify_reverts`: a change that fails leaves the database as
  it was.
- `createTask_reverts`, `comment_reverts`: and so does one after a look-up.
-/

namespace TaskRules.Store

/-- A call that leaves the database as it was. -/
def Reads (x : Run Store α) : Prop := ∀ s, (x s).2.db = s.db

/-- A call that leaves the database as it was when it fails. -/
def Reverts (x : Run Store α) : Prop := ∀ s e, (x s).1 = .error e → (x s).2.db = s.db

theorem query_apply (f : Database → Except Fault α) (s : Store) : (query f s).2 = s := by
  unfold query
  split <;> rfl

theorem query_reads (f : Database → Except Fault α) : Reads (query f) := by
  intro s
  rw [query_apply]

theorem mutate_reverts (f : Database → Moment → Except Fault (α × Database)) :
    Reverts (mutate f) := by
  intro s e h
  unfold mutate at h ⊢
  split
  · rfl
  · rename_i hr
    simp only [hr] at h
    split
    · rename_i hf
      simp [hf] at h
    · rfl

@[simp] theorem useIds_db (s : Store) (kind : IdKind) (n : Nat) : (s.useIds kind n).db = s.db := rfl

theorem insert_reverts (kind : IdKind) (takesId : Bool)
    (f : Database → Moment → String → Except Fault (α × Database)) :
    Reverts (insert kind takesId f) := by
  intro s e h
  have hused : (if takesId = true then s.useIds kind 1 else s).db = s.db := by
    cases takesId <;> rfl
  unfold insert at h ⊢
  cases ho : s.outage with
  | some e' => rfl
  | none =>
    simp only [ho] at h ⊢
    rcases hr : s.refusal? with _ | e' <;>
      rcases hf : f s.db s.now (s.nextId kind) with e'' | ⟨a, db⟩
    · exact hused
    · simp [hr, hf] at h
    · exact hused
    · exact hused

/-- A change after a look-up. -/
theorem Reverts.after {x : Run Store α} (hx : Reads x) {f : α → Run Store β}
    (hf : ∀ a, Reverts (f a)) : Reverts (x >>= f) := by
  intro s e h
  rcases hr : x s with ⟨r, s'⟩
  have hs' : s'.db = s.db := by
    have := hx s
    rwa [hr] at this
  cases r with
  | ok a =>
    rw [Run.bind_of_ok hr] at h ⊢
    rw [hf a s' e h, hs']
  | error e' =>
    rw [Run.bind_of_error hr]
    exact hs'

theorem createTask_reverts (d : Task.Draft) (assigneeIds : Json) :
    Reverts (createTask d assigneeIds) :=
  .after (query_reads _) fun _ => insert_reverts _ _ _

theorem comment_reverts (taskId content authorId : Json) :
    Reverts (comment taskId content authorId) :=
  .after (query_reads _) fun _ => insert_reverts _ _ _

theorem notify_reverts (drafts : List Notification.Draft) : Reverts (notify drafts) := by
  intro s e h
  unfold notify at h ⊢
  split
  · rfl
  · rename_i hd
    simp only [hd] at h
    split
    · rfl
    · rename_i hr
      simp only [hr] at h
      dsimp only at h ⊢
      split
      · rename_i rows hrows
        simp [hrows] at h
      · rfl

end TaskRules.Store
